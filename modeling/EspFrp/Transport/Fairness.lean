import EspFrp.Transport.Carriage

/-!
# Credit grants and application data

The mux remembers in `prefer_data` that it has staged an automatic credit
grant, and a write then gets the next free output slot.  Only
`efrp_yamux_write` looks at the flag: the pump itself fills the slot in the
turn that frees it.  Application data is therefore passed over exactly when
credit is due at the start of a step that flushes the slot.
-/

namespace EspFrp.Yamux

/-- A stream that accepts data as soon as the output slot is free. -/
def Stream.writable (stream : Stream) : Bool :=
  ¬stream.reset ∧ ¬stream.localFin ∧ stream.sendCredit ≠ 0

/-- Data has the next free slot, and the grants so far are bounded. -/
structure Yields (bound : Nat) (world : World) : Prop where
  reachable : world.Reachable
  preferData : world.mux.preferData = true
  grants : grantsIn world.emitted ≤ bound

namespace Yields

variable (yields : Yields bound world)
include yields

theorem spares (call : Call) (spares : call.sparesOutput = true) :
    Yields bound (world.step call) where
  reachable := yields.reachable.step call
  preferData := (world.step_sameSlot spares).preferData.trans yields.preferData
  grants := by
    rw [World.emitted_of_sameSlot spares]
    exact yields.grants

theorem consumeOutput (count : Nat) : Yields bound (world.step (.consumeOutput count)) where
  reachable := yields.reachable.step _
  preferData := by
    rcases yields.reachable.accounts.yamuxConsumeOutput_cases count with ⟨_, same⟩ | ⟨_, _, handed⟩
    · exact (congrArg Mux.preferData same).trans yields.preferData
    · exact handed.preferData.trans yields.preferData
  grants := by
    rw [yields.reachable.emitted_consumeOutput]
    exact yields.grants

/-- What a filled slot holds while no grant is due. -/
theorem output
    (withheld : world.mux.output ≠ [] ∨ world.mux.controls.contents ≠ [] ∨ world.mux.NoneDue) :
    Yields bound (world.step .output) := by
  rcases yamuxOutput_cases world.mux with same | ⟨_, free, filled⟩
  · have unchanged : world.step .output = world := by
      unfold World.step
      rw [same]
    rw [unchanged]
    exact yields
  rcases filled with ⟨control, rest, queued, filled⟩ | ⟨quiet, slot, stream, member, due, _⟩
  · refine ⟨yields.reachable.step _, ?_, ?_⟩
    · exact (congrArg Mux.preferData filled).trans yields.preferData
    · have offset := yields.reachable.outputOffset_of_free free
      have emitted : (world.step .output).emitted = world.emitted ++ control.encode := by
        unfold World.emitted Mux.slotBytes World.step
        rw [filled, free, offset, List.drop_nil, List.append_nil, List.drop_zero]
      rw [emitted, yields.reachable.grantsIn_control (queued ▸ List.mem_cons_self)]
      exact yields.grants
  · rcases withheld with busy | waiting | noneDue
    · exact absurd free busy
    · exact absurd quiet waiting
    rw [noneDue stream (List.mem_of_getElem? member)] at due
    cases due

/-- A write that accepts nothing leaves the next slot to data. -/
theorem refused {id : Nat} (refused : (yamuxWrite world.mux id bytes).2.1 = 0) :
    Yields bound (world.step (.write id bytes)) := by
  have reachable := yields.reachable.step (.write id bytes)
  rcases yamuxWrite_cases world.mux id bytes with ⟨_, outcome⟩ | ⟨_, stream, stages, outcome⟩
  · rcases outcome with same | ⟨asks, asked⟩
    · refine ⟨reachable, ?_, ?_⟩
      · exact (congrArg Mux.preferData same).trans yields.preferData
      · have emitted : (world.step (.write id bytes)).emitted =
            world.emitted := congrArg (fun mux => world.handed ++ mux.slotBytes) same
        rw [emitted]
        exact yields.grants
    · have waiting : world.mux.output ≠ [] ∨ world.mux.controls.contents ≠ [] := by
        rcases asks with busy | queued | unwanted
        · exact Or.inl busy
        · refine Or.inr fun quiet => queued ?_
          exact world.mux.controls.contents_eq_nil_iff.mp quiet
        · exact absurd yields.preferData unwanted
      have filled := yields.output (waiting.imp_right fun queued => Or.inl queued)
      refine ⟨reachable, ?_, ?_⟩
      · exact (congrArg Mux.preferData asked).trans filled.preferData
      · have emitted : (world.step (.write id bytes)).emitted = (world.step .output).emitted :=
          congrArg (fun mux => world.handed ++ mux.slotBytes) asked
        rw [emitted]
        exact filled.grants
  · rw [outcome] at refused
    have offered : bytes.length ≠ 0 := fun none => stages.offered (List.length_eq_zero_iff.mp none)
    have credit := stages.credit
    unfold Mux.stageData at refused
    dsimp only [ringBytes] at refused
    omega

end Yields

end EspFrp.Yamux

namespace EspFrp.Transport

open Yamux

/-! ## The condition -/

/-- The bytes that Mbed TLS accepts in some turns. -/
def acceptedBytes (answers : List TurnAnswers) : Nat :=
  (answers.map fun turn => turn.write.value 0).sum

namespace YamuxTransport

/-- The bytes of the output slot that TLS has still to accept. -/
def unflushed (transport : YamuxTransport) : Nat :=
  if transport.staged ≠ 0 then
    transport.tls.pending.length
  else
    min transport.mux.slotBytes.length tlsTxBytes

/--
A transport step does not start with credit due while TLS is about to accept
the rest of the output slot.
-/
def Clears (transport : YamuxTransport) : Event → Prop
  | .step _ answers =>
    transport.mux.NoneDue ∨ acceptedBytes (List.ofFn answers) < transport.unflushed
  | _ => True

/-- An event in which the mux accepts application data. -/
def acceptsData (transport : YamuxTransport) : Event → Bool
  | .write id bytes => (transport.writeStream id bytes).2.1 ≠ 0
  | _ => false

/-- A property of every event of a schedule and the state it meets. -/
def Along (holds : YamuxTransport → Event → Prop) : YamuxTransport → List Event → Prop
  | _, [] => True
  | transport, event :: rest => holds transport event ∧ Along holds (transport.after event) rest

instance decidableAlong (holds : YamuxTransport → Event → Prop)
    [∀ transport event, Decidable (holds transport event)] :
    (transport : YamuxTransport) → (events : List Event) → Decidable (transport.Along holds events)
  | _, [] => .isTrue trivial
  | transport, event :: rest =>
    @instDecidableAnd _ _ _ (decidableAlong holds (transport.after event) rest)

instance (transport : YamuxTransport) (event : Event) : Decidable (transport.Clears event) :=
  match event with
  | .step _ _ => inferInstanceAs (Decidable (_ ∨ _))
  | .openStream _ | .write _ _ | .read _ _ | .closeWrite _ | .reset _
  | .release _ | .cancel => .isTrue trivial

end YamuxTransport

/-! ## One step of the transport -/

/-- No grant can enter the slot while TLS accepts this many bytes. -/
def Withheld (budget : Nat) (transport : YamuxTransport) : Prop :=
  transport.mux.NoneDue ∨ transport.eof = true ∨ budget < transport.unflushed

/-- A transport in the middle of a step that stages no grant. -/
structure Waiting (bound budget : Nat) (transport : YamuxTransport) : Prop where
  carried : Carried transport
  yields : Yields bound transport.world
  ready : transport.result = .ok
  withheld : Withheld budget transport

/-- What remains of that when the transport stops. -/
structure Yielding (bound : Nat) (transport : YamuxTransport) : Prop where
  carried : Carried transport
  yields : Yields bound transport.world

namespace Waiting

theorem tlsTurn
    (waiting : Waiting bound (limit + budget) transport) (turn : TlsTurn transport limit outcome) :
    Outcome (Waiting bound budget) (Yielding bound) outcome := by
  have outcomes := waiting.carried.tlsTurn waiting.ready turn
  cases turn with
  | skipped =>
    refine .goOn ⟨waiting.carried, waiting.yields, waiting.ready, ?_⟩
      ⟨waiting.carried, waiting.yields⟩
    exact waiting.withheld.imp_right fun rest => rest.imp_right fun enough => by omega
  | moved _ same eof _ _ flushes =>
    have carried := outcomes.holds
    have yields := same.world ▸ waiting.yields
    refine .goOn ⟨carried, yields, same.result.trans waiting.ready, ?_⟩ ⟨carried, yields⟩
    rcases waiting.withheld with noneDue | ended | enough
    · exact Or.inl (same.mux ▸ noneDue)
    · exact Or.inr (Or.inl (eof.trans ended))
    refine Or.inr (Or.inr ?_)
    unfold YamuxTransport.unflushed at enough ⊢
    rw [same.staged, same.mux, flushes.pending, List.length_drop]
    by_cases staged : transport.staged ≠ 0
    · rw [if_pos staged] at enough ⊢
      omega
    rw [if_neg staged] at enough ⊢
    omega
  | ended same eof =>
    have carried := outcomes.holds
    have yields := same.world ▸ waiting.yields
    exact .goOn ⟨carried, yields, same.result.trans waiting.ready,
      Or.inr (Or.inl eof)⟩ ⟨carried, yields⟩
  | stopped same _ fatal => exact .stop ⟨outcomes.holds, same.world ▸ waiting.yields⟩ fatal

theorem settle (waiting : Waiting bound budget transport) :
    Outcome (Waiting bound budget) (Yielding bound) transport.settle := by
  have outcomes := waiting.carried.settle waiting.ready
  by_cases settles : transport.staged ≠ 0 ∧ transport.tls.pending = [] ∧
      transport.tls.state = .opened
  · have noneDue : transport.mux.NoneDue := by
      rcases waiting.withheld with noneDue | ended | enough
      · exact noneDue
      · exact absurd settles.2.2 (waiting.carried.closed ended)
      rw [YamuxTransport.unflushed, if_pos settles.1, settles.2.1] at enough
      cases enough
    have yields := waiting.yields.consumeOutput transport.staged
    unfold YamuxTransport.settle at outcomes ⊢
    rw [if_pos settles] at outcomes ⊢
    rcases waiting.carried.reachable.accounts.yamuxConsumeOutput_cases transport.staged with
      ⟨fatal, _⟩ | ⟨done, _, handed⟩
    · rw [if_pos fatal] at outcomes ⊢
      exact .stop ⟨outcomes.holds, yields⟩ fatal
    · rw [if_neg (not_not.mpr done)] at outcomes ⊢
      exact .goOn ⟨outcomes.holds, yields, waiting.ready,
        Or.inl (handed.noneDue noneDue)⟩ ⟨outcomes.holds, yields⟩
  · have same : transport.settle = (.ok, transport) := if_neg settles
    rw [same]
    exact .goOn waiting ⟨waiting.carried, waiting.yields⟩

theorem deliver (waiting : Waiting bound budget transport) :
    Outcome (Waiting bound budget) (Yielding bound) transport.deliver := by
  have outcomes := waiting.carried.deliver waiting.ready
  have yields := waiting.yields.spares (.feed transport.input) rfl
  have calm := Calm.of_feed transport.mux transport.input
  unfold YamuxTransport.deliver at outcomes ⊢
  dsimp only at outcomes ⊢
  split at outcomes
  · next fatal =>
    rw [if_pos fatal]
    exact .stop ⟨outcomes.holds, yields⟩ fatal.1
  · next going =>
    rw [if_neg going]
    refine .goOn ⟨outcomes.holds, yields, waiting.ready, ?_⟩ ⟨outcomes.holds, yields⟩
    rcases waiting.withheld with noneDue | ended | enough
    · exact Or.inl (calm.noneDue noneDue)
    · exact Or.inr (Or.inl ended)
    refine Or.inr (Or.inr ?_)
    unfold YamuxTransport.unflushed at enough ⊢
    exact calm.slotBytes.symm ▸ enough

/-- Filling the slot stages no grant. -/
theorem output (waiting : Waiting bound budget transport)
    (idle : transport.staged = 0) (going : transport.eof = false) :
    Yields bound (transport.call .output).world ∧ ((transport.call .output).mux.NoneDue ∨
        (transport.call .output).mux = transport.mux ∧
          budget < min transport.mux.slotBytes.length tlsTxBytes) := by
  have withheld : transport.mux.NoneDue ∨ transport.mux.output ≠ [] ∧
          budget < min transport.mux.slotBytes.length tlsTxBytes := by
    rcases waiting.withheld with noneDue | ended | enough
    · exact Or.inl noneDue
    · rw [going] at ended
      cases ended
    rw [YamuxTransport.unflushed, if_neg (not_not.mpr idle)] at enough
    refine Or.inr ⟨fun free => ?_, enough⟩
    rw [Mux.slotBytes_of_free free] at enough
    cases enough
  rcases withheld with noneDue | ⟨busy, enough⟩
  · exact ⟨waiting.yields.output (Or.inr (Or.inr noneDue)), Or.inl noneDue.output⟩
  · exact ⟨waiting.yields.output (Or.inl busy), Or.inr ⟨yamuxOutput_busy busy, enough⟩⟩

theorem stage (waiting : Waiting bound budget transport) (staging : Staging transport outcome) :
    Outcome (Waiting bound budget) (Yielding bound) outcome := by
  have outcomes := waiting.carried.stage waiting.ready staging
  cases staging with
  | skipped => exact .goOn waiting ⟨waiting.carried, waiting.yields⟩
  | nothing idle going =>
    obtain ⟨yields, withheld⟩ := waiting.output idle going
    refine .goOn ⟨outcomes.holds, yields, waiting.ready, ?_⟩ ⟨outcomes.holds, yields⟩
    rcases withheld with noneDue | ⟨same, enough⟩
    · exact Or.inl noneDue
    refine Or.inr (Or.inr ?_)
    rw [YamuxTransport.unflushed, same]
    exact (if_neg (not_not.mpr idle)).symm ▸ enough
  | queued _ _ idle going _ _ _ pending length =>
    obtain ⟨yields, withheld⟩ := waiting.output idle going
    refine .goOn ⟨outcomes.holds, yields, waiting.ready, ?_⟩ ⟨outcomes.holds, yields⟩
    rcases withheld with noneDue | ⟨same, enough⟩
    · exact Or.inl noneDue
    refine Or.inr (Or.inr ?_)
    rw [same] at pending length
    unfold YamuxTransport.unflushed
    dsimp only
    rw [same, pending, List.length_take]
    split <;> omega
  | stopped idle going world _ fatal =>
    obtain ⟨yields, _⟩ := waiting.output idle going
    exact .stop ⟨outcomes.holds, world ▸ yields⟩ fatal

theorem turn (waiting : Waiting bound (answers.write.value 0 + budget) transport) (now : Nat) :
    Outcome (Waiting bound budget) (Yielding bound) (transport.turn now answers) := by
  refine (waiting.tlsTurn (waiting.carried.flush_turn waiting.ready now _)).andThen ?_
  intro flushed waiting
  refine waiting.settle.andThen ?_
  intro settled waiting
  have idle : Waiting bound (0 + budget) settled := (Nat.zero_add budget).symm ▸ waiting
  refine (idle.tlsTurn (waiting.carried.receive_turn waiting.ready now _)).andThen ?_
  intro received waiting
  refine waiting.deliver.andThen ?_
  intro delivered waiting
  exact waiting.stage (waiting.carried.staging waiting.ready now)

theorem turns (waiting : Waiting bound (acceptedBytes answers) transport) (now : Nat) :
    Outcome (Waiting bound 0) (Yielding bound) (transport.turns now answers) := by
  induction answers generalizing transport with
  | nil => exact .goOn waiting ⟨waiting.carried, waiting.yields⟩
  | cons _ _ ih =>
    refine (waiting.turn now).andThen ?_
    intro next waiting
    exact ih waiting

end Waiting

/-! ## Every schedule -/

/-- The grants on the wire are bounded and data has the next slot. -/
def Bounded (bound : Nat) (transport : YamuxTransport) : Prop :=
  grantsIn transport.tls.sent ≤ bound ∧ (transport.cancelled = true ∨ Yielding bound transport)

theorem Yielding.bounded (yielding : Yielding bound transport) : Bounded bound transport :=
  ⟨(grantsIn_mono yielding.carried.within).trans yielding.yields.grants, Or.inr yielding⟩

/-- A step starts with the condition that keeps grants out of the slot. -/
theorem Yielding.tick (yielding : Yielding bound transport) (ready : transport.ready = .ok)
    (clears : transport.Clears (.step now answers)) :
    Waiting bound (acceptedBytes (List.ofFn answers))
      ({ transport with now := now }.call (.tick now)) := by
  have calm := Calm.of_tick transport.mux now
  refine ⟨yielding.carried.tick now, yielding.yields.spares (.tick now) rfl,
    (YamuxTransport.ready_iff.mp ready).2, ?_⟩
  rcases clears with noneDue | enough
  · exact Or.inl (calm.noneDue noneDue)
  refine Or.inr (Or.inr ?_)
  unfold YamuxTransport.unflushed at enough ⊢
  exact calm.slotBytes.symm ▸ enough

/-- One event of a schedule that meets the condition. -/
theorem Yielding.occurs (yielding : Yielding bound transport) (clears : transport.Clears event)
    (refused : transport.acceptsData event = false) (occurs : Occurs transport event next) :
    Bounded bound next := by
  have carried := yielding.carried
  cases occurs with
  | nothing => exact yielding.bounded
  | called _ call _ spares =>
    have keeps (length : Nat) : call ≠ .consumeOutput length := by
      rintro rfl
      cases spares
    exact Yielding.bounded ⟨carried.call keeps, yielding.yields.spares call spares⟩
  | wrote id bytes _ count =>
    have none : (yamuxWrite transport.mux id bytes).2.1 = 0 := by
      rw [← count]
      exact not_ne_iff.mp (of_decide_eq_false refused)
    exact Yielding.bounded ⟨carried.call fun _ => Call.noConfusion, yielding.yields.refused none⟩
  | expired _ _ _ ready fatal =>
    have waiting := yielding.tick ready clears
    have ticked := waiting.carried
    exact Yielding.bounded ⟨.of_stop ticked.reachable ticked.ahead ticked.within fatal,
        waiting.yields⟩
  | pumped now _ ready => exact ((yielding.tick ready clears).turns now).holds.bounded
  | cancelled active =>
    rw [YamuxTransport.cancel, active]
    refine ⟨?_, Or.inl rfl⟩
    exact (Tls.cancel_sent transport.tls).symm ▸ yielding.bounded.1

/-- A schedule that meets the condition and accepts no data. -/
theorem Bounded.run (bounded : Bounded bound transport)
    (clears : transport.Along YamuxTransport.Clears events)
    (refused : transport.Along (fun now event => now.acceptsData event = false) events) :
    Bounded bound (transport.run events) := by
  induction events generalizing transport with
  | nil => exact bounded
  | cons event _ ih =>
    refine ih ?_ clears.2 refused.2
    rcases bounded with ⟨grants, done | yielding⟩
    · rw [(transport.after_occurs event).of_cancelled done]
      exact ⟨grants, Or.inl done⟩
    · exact yielding.occurs clears.1 refused.1 (transport.after_occurs event)

/-- A grant in the slot gives the next slot to data. -/
theorem Carried.yielding (carried : Carried transport) (granted : transport.mux.outputGrantId ≠ 0) :
    Yielding (grantsIn transport.tls.sent + 1) transport := by
  refine ⟨carried, carried.reachable, carried.reachable.preferData granted, ?_⟩
  exact carried.reachable.grantsIn_emitted_le.trans (Nat.succ_le_succ (grantsIn_mono carried.ahead))

/-! ## The law -/

/-- A write that is refused because a grant is in the output slot. -/
structure Contends (transport : YamuxTransport) (id : Nat) (bytes : List UInt8) : Prop where
  granted : transport.mux.outputGrantId ≠ 0
  writable : (transport.mux.stream id).any Stream.writable = true
  offered : bytes ≠ []
  refused : (transport.writeStream id bytes).1 = .wouldBlock

/-- The write is attempted before every transport step of a schedule. -/
def repeatsWrite (id : Nat) (bytes : List UInt8) : Bool → List Event → Bool
  | _, [] => true
  | attempted, .step _ _ :: rest => attempted && repeatsWrite id bytes false rest
  | attempted, .write other offered :: rest =>
    repeatsWrite id bytes (attempted || (other = id && offered = bytes)) rest
  | attempted, _ :: rest => repeatsWrite id bytes attempted rest

/--
No second grant reaches the wire before the mux has accepted data: as long as
the repeated write is refused and no control frame is queued, there is at most
the grant that was in the slot.
-/
def GrantsYield (start : YamuxTransport) (id : Nat) (bytes : List UInt8)
    (events : List Event) : Prop :=
  Contends start id bytes → repeatsWrite id bytes false events = true →
    start.Along (fun transport _ => transport.mux.controls.used = 0) events →
    start.Along (fun transport event => transport.acceptsData event = false) events →
    grantsIn (start.run events).tls.sent ≤ grantsIn start.tls.sent + 1

/-! ## A schedule that passes data over -/

/-- The peer accepts stream 1 and sends two bytes on it. -/
def peerGreeting : List UInt8 :=
  encodeFrames [⟨Header.make .window ackFlag 1 0, []⟩, ⟨Header.make .data 0 1 2, [1, 2]⟩]

/-- A transport over a fresh connection. -/
def openedTransport : YamuxTransport where
  tls := {}
  world := World.init 0
  now := 0

/-- Open a stream, read the first byte on it and stage the grant for it. -/
def firstRead : List Event :=
  [.openStream true, .step 0 fun turn =>
      if turn = 1 then
        { write := .done headerBytes, read := .done peerGreeting }
      else
        {},
    .read 1 1,
    .step 0 fun _ => {}]

/-- Read the second byte between two attempts to write, then flush. -/
def secondRead : List Event :=
  [.write 1 [85], .read 1 1, .write 1 [85], .step 0 fun turn =>
      if turn < 2 then { write := .done headerBytes } else {}]

/--
The pump frees the slot and fills it with the grant for the second byte in the
same turn, and the refused write has no chance to take the slot.
-/
theorem second_grant_before_data :
    ¬GrantsYield (openedTransport.run firstRead) 1 [85] secondRead := by
  intro law
  have contends : Contends (openedTransport.run firstRead) 1 [85] :=
    ⟨by decide +kernel, by decide +kernel, by decide, by decide +kernel⟩
  have bounded := law contends (by decide +kernel) (by decide +kernel) (by decide +kernel)
  revert bounded
  decide +kernel

/-! ## The law without credit due -/

/--
The law holds for a schedule in which no credit is due when a transport step
starts that lets TLS accept the rest of the output slot.
-/
theorem grants_yield_to_data (tls : Tls) (now : Nat)
    (created : YamuxTransport) (earlier events : List Event)
    (id : Nat) (bytes : List UInt8)
    (creation : YamuxTransport.create tls now = some created)
    (clears : (created.run earlier).Along YamuxTransport.Clears events) :
    GrantsYield (created.run earlier) id bytes events := by
  intro contends _ _ refused
  rcases (Carried.create creation).run earlier with done | carried
  · rw [YamuxTransport.run_of_cancelled done]
    exact Nat.le_succ _
  · exact ((carried.yielding contends.granted).bounded.run clears refused).1

/-- Attempt a write and flush the grant without another read. -/
def flushOnly : List Event :=
  [.write 1 [85], .step 0 fun turn =>
      if turn = 0 then { write := .done headerBytes } else {}]

theorem grants_yield_to_data_flushOnly : Contends (openedTransport.run firstRead) 1 [85] ∧
      grantsIn (openedTransport.run firstRead).tls.sent = 0 ∧
      grantsIn ((openedTransport.run firstRead).run flushOnly).tls.sent ≤ 1 := by
  have contends : Contends (openedTransport.run firstRead) 1 [85] :=
    ⟨by decide +kernel, by decide +kernel, by decide, by decide +kernel⟩
  have clears : (openedTransport.run firstRead).Along
      YamuxTransport.Clears flushOnly := by
    decide +kernel
  have law := grants_yield_to_data {} 0 openedTransport firstRead flushOnly 1 [85] rfl clears
  have before : grantsIn (openedTransport.run firstRead).tls.sent = 0 := by decide +kernel
  have bounded := law contends (by decide +kernel) (by decide +kernel) (by decide +kernel)
  rw [before] at bounded
  exact ⟨contends, before, bounded⟩

end EspFrp.Transport
