import EspFrp.Transport.Carriage

/-!
# Both directions of the pump

Outwards, TLS accepts the output of the mux in order, and the mux is told of
a frame only when TLS has accepted all of it.  Inwards, the mux is fed the
bytes that TLS delivers, in order.
-/

namespace EspFrp.Yamux

/-- The output slot holds at most one frame, which fits the queue of TLS. -/
theorem World.step_output_length {world : World}
    (room : headerBytes + ringBytes ≤ bound) (fits : world.mux.output.length ≤ bound)
    (call : Call) : (world.step call).mux.output.length ≤ bound := by
  have short : headerBytes ≤ bound := by omega
  have offered : ∀ mux : Mux, mux.output.length ≤ bound →
      (yamuxOutput mux).2.2.output.length ≤ bound := by
    intro mux fits
    rcases yamuxOutput_cases mux with same | ⟨_, _, ⟨control, _, _, same⟩ |
      ⟨_, slot, stream, _, _, same⟩⟩
    · rw [same]
      exact fits
    · rw [same]
      exact (Header.encode_length control).le.trans short
    rw [same]
    exact (Header.encode_length _).le.trans short
  by_cases spares : call.sparesOutput = true
  · rw [(world.step_sameSlot spares).output]
    exact fits
  cases call with
  | output => exact offered world.mux fits
  | write id bytes =>
    rcases yamuxWrite_cases world.mux id bytes with ⟨_, same | ⟨_, same⟩⟩ | ⟨_, stream, _, same⟩
    · rw [World.step, same]
      exact fits
    · rw [World.step, same]
      exact offered world.mux fits
    · rw [World.step, same]
      change (_ ++ bytes.take _).length ≤ bound
      rw [List.length_append, Header.encode_length, List.length_take]
      have least := Nat.min_le_left
        (min (min bytes.length ringBytes) stream.sendCredit) bytes.length
      have ring : min (min bytes.length ringBytes) stream.sendCredit ≤
          ringBytes := (Nat.min_le_left _ _).trans (Nat.min_le_right _ _)
      exact (Nat.add_le_add_left (least.trans ring) headerBytes).trans room
  | consumeOutput length =>
    change (yamuxConsumeOutput world.mux length).2.output.length ≤ bound
    unfold yamuxConsumeOutput
    iterate 3
      split
      · exact fits
    dsimp only
    split
    · unfold Mux.completeGrant
      split
      · exact Nat.zero_le _
      split
      · exact Nat.zero_le _
      split
      · exact fits
      · exact Nat.zero_le _
    · exact fits
  | _ => exact absurd rfl spares

end EspFrp.Yamux

namespace EspFrp.Transport

open Yamux

/-! ## Outwards -/

/-- A frame is staged as a whole. -/
structure Staged (transport : YamuxTransport) : Prop where
  carried : Carried transport
  fits : transport.mux.output.length ≤ tlsTxBytes
  whole : transport.tls.state = .opened →
    transport.staged = 0 ∨ transport.staged = transport.mux.slotBytes.length

/-- A transport in the middle of a step. -/
structure Stages (transport : YamuxTransport) : Prop where
  staged : Staged transport
  ready : transport.result = .ok

/-- The mux is told of its output only when TLS has accepted all of it. -/
def Hands (transport : YamuxTransport) : Prop :=
  transport.settle.2.mux ≠ transport.mux →
    transport.tls.sent = transport.world.handed ++ transport.mux.slotBytes

variable {next : YamuxTransport}

namespace Staged

theorem create {tls : Tls} {now : Nat} (created : YamuxTransport.create tls now = some transport) :
    Staged transport := by
  refine ⟨.create created, ?_, ?_⟩
  all_goals
    unfold YamuxTransport.create at created
    split at created
    · cases created
    split at created
    · cases created
    cases created
  · exact Nat.zero_le _
  · exact fun _ => .inl rfl

theorem call (staged : Staged transport) {call : Call}
    (keeps : ∀ length, call ≠ .consumeOutput length) : Staged (transport.call call) := by
  refine ⟨staged.carried.call keeps, World.step_output_length (Nat.le_refl _) staged.fits call, ?_⟩
  intro opened
  rcases staged.whole opened with idle | whole
  · exact .inl idle
  rcases (transport.world.step_retains keeps).slot with same | free
  · exact .inr (whole.trans (congrArg List.length same.symm))
  rw [free] at whole
  exact .inl whole

theorem of_stop {result : Result} (carried : Carried (next.stop result).2)
    (fits : next.mux.output.length ≤ tlsTxBytes) : Staged (next.stop result).2 :=
  ⟨carried, fits, fun opened => absurd opened (Tls.cancel_state next.tls)⟩

theorem tlsTurn (staged : Staged transport) (ready : transport.result = .ok)
    (turn : TlsTurn transport limit outcome) : Outcome Stages Staged outcome := by
  have outcomes := staged.carried.tlsTurn ready turn
  cases turn with
  | skipped => exact .goOn ⟨staged, ready⟩ staged
  | @moved next _ same _ _ state =>
    have staged : Staged next := by
      refine ⟨outcomes.holds, same.mux ▸ staged.fits, fun _ => ?_⟩
      rw [same.staged, same.mux]
      exact staged.whole state
    exact .goOn ⟨staged, same.result.trans ready⟩ staged
  | @ended next same _ _ state =>
    have staged : Staged next :=
      ⟨outcomes.holds, same.mux ▸ staged.fits, fun opened => absurd opened state⟩
    exact .goOn ⟨staged, same.result.trans ready⟩ staged
  | stopped same _ fatal => exact .stop (of_stop outcomes.holds (same.mux ▸ staged.fits)) fatal

theorem settle (staged : Staged transport) (ready : transport.result = .ok) :
    Outcome Stages Staged transport.settle := by
  have outcomes := staged.carried.settle ready
  have fits : (transport.call (.consumeOutput transport.staged)).mux.output.length ≤ tlsTxBytes :=
    World.step_output_length (Nat.le_refl _) staged.fits _
  unfold YamuxTransport.settle at outcomes ⊢
  split at outcomes
  · next settles =>
    rw [if_pos settles]
    dsimp only at outcomes ⊢
    split at outcomes
    · next fatal =>
      rw [if_pos fatal]
      exact .stop (of_stop outcomes.holds fits) fatal
    · next done =>
      rw [if_neg done]
      have next : Staged
          { transport.call (.consumeOutput transport.staged) with
            staged := 0 } := ⟨outcomes.holds, fits, fun _ => .inl rfl⟩
      exact .goOn ⟨next, ready⟩ next
  · next kept =>
    rw [if_neg kept]
    exact .goOn ⟨staged, ready⟩ staged

theorem hands (staged : Staged transport) : Hands transport := by
  intro changed
  have settles : transport.staged ≠ 0 ∧ transport.tls.pending = [] ∧
      transport.tls.state = .opened := by
    by_contra kept
    rw [YamuxTransport.settle, if_neg kept] at changed
    exact changed rfl
  obtain ⟨some, drained, opened⟩ := settles
  obtain ⟨_, _, sent, taken⟩ := staged.carried.opened opened
  have whole := (staged.whole opened).resolve_left some
  rw [drained, List.append_nil, whole, List.take_length] at taken
  rw [sent, taken]

theorem deliver (staged : Staged transport) (ready : transport.result = .ok) :
    Outcome Stages Staged transport.deliver := by
  have outcomes := staged.carried.deliver ready
  have fed : Staged (transport.call (.feed transport.input)) :=
    staged.call fun _ => Call.noConfusion
  unfold YamuxTransport.deliver at outcomes ⊢
  dsimp only at outcomes ⊢
  split at outcomes
  · next fatal =>
    rw [if_pos fatal]
    exact .stop (of_stop outcomes.holds fed.fits) fatal.1
  · next going =>
    rw [if_neg going]
    have next : Staged
        { transport.call (.feed transport.input) with
          input := transport.input.drop (yamuxFeed transport.mux transport.input).2.1 } :=
      ⟨outcomes.holds, fed.fits, fed.whole⟩
    exact .goOn ⟨next, ready⟩ next

theorem stage {outcome : Result × YamuxTransport} (staged : Staged transport)
    (ready : transport.result = .ok) (staging : Staging transport outcome) :
    Outcome Stages Staged outcome := by
  have outcomes := staged.carried.stage ready staging
  have filled : Staged (transport.call .output) := staged.call fun _ => Call.noConfusion
  cases staging with
  | skipped => exact .goOn ⟨staged, ready⟩ staged
  | nothing => exact .goOn ⟨filled, ready⟩ filled
  | queued tls accepted _ _ _ _ _ _ length =>
    have short : (transport.call .output).mux.slotBytes.length ≤
        tlsTxBytes := by
      rw [Mux.slotBytes, List.length_drop]
      exact (Nat.sub_le _ _).trans filled.fits
    have next : Staged { transport.call .output with tls := tls, staged := accepted } := by
      refine ⟨outcomes.holds, filled.fits, fun _ => ?_⟩
      rw [Nat.min_eq_left short] at length
      exact length
    exact .goOn ⟨next, ready⟩ next
  | stopped _ _ world _ fatal =>
    refine .stop (of_stop outcomes.holds ?_) fatal
    rw [YamuxTransport.mux, world]
    exact filled.fits

section

variable (staged : Staged transport) (ready : transport.result = .ok) (now : Nat)
include staged ready

theorem turn (answers : TurnAnswers) : Outcome Stages Staged (transport.turn now answers) := by
  refine (staged.tlsTurn ready (staged.carried.flush_turn ready now answers.write)).andThen ?_
  intro flushed flushing
  refine (flushing.staged.settle flushing.ready).andThen ?_
  intro settled settling
  refine (settling.staged.tlsTurn settling.ready
    (settling.staged.carried.receive_turn settling.ready now answers.read)).andThen ?_
  intro received receiving
  refine (receiving.staged.deliver receiving.ready).andThen ?_
  intro delivered delivering
  exact delivering.staged.stage delivering.ready
    (delivering.staged.carried.staging delivering.ready now)

theorem turns (answers : List TurnAnswers) :
    Outcome Stages Staged (transport.turns now answers) := by
  induction answers generalizing transport with
  | nil => exact .goOn ⟨staged, ready⟩ staged
  | cons first _ ih =>
    refine (staged.turn ready now first).andThen ?_
    intro next stages
    exact ih stages.staged stages.ready

/-- In every turn of a step, the mux is told only of accepted output. -/
theorem turns_hand (answers : List TurnAnswers) (answer : SslAnswer Nat)
    (going : (transport.turns now answers).1 = .ok)
    (flushes : ((transport.turns now answers).2.flush now answer).1 = .ok) :
    Hands ((transport.turns now answers).2.flush now answer).2 := by
  have stages := (staged.turns ready now answers).running going
  have flushed := stages.staged.tlsTurn stages.ready
    (stages.staged.carried.flush_turn stages.ready now answer)
  exact (flushed.running flushes).staged.hands

end

theorem tick (staged : Staged transport) (now : Nat) :
    Staged ({ transport with now := now }.call (.tick now)) := by
  have later : Staged { transport with now := now } :=
    ⟨⟨staged.carried.reachable, staged.carried.ahead,
      staged.carried.within, staged.carried.opened, staged.carried.running,
      staged.carried.closed⟩, staged.fits, staged.whole⟩
  exact later.call fun _ => Call.noConfusion

theorem occurs {event : Event} (staged : Staged transport) (occurs : Occurs transport event next) :
    next.cancelled = true ∨ Staged next := by
  refine (staged.carried.occurs occurs).imp_right fun carried => ?_
  cases occurs with
  | nothing => exact staged
  | called _ call _ spares =>
    refine staged.call ?_
    rintro length rfl
    cases spares
  | wrote => exact staged.call fun _ => Call.noConfusion
  | expired now => exact of_stop carried (staged.tick now).fits
  | pumped now _ ready =>
    exact ((staged.tick now).turns (YamuxTransport.ready_iff.mp ready).2 now _).holds
  | cancelled =>
    refine ⟨carried, ?_, fun opened => ?_⟩
    · rw [YamuxTransport.cancel]
      split
      · exact staged.fits
      · exact Nat.zero_le _
    · revert opened
      rw [YamuxTransport.cancel]
      split
      · exact staged.whole
      · exact fun opened => absurd opened (Tls.cancel_state _)

theorem run (staged : Staged transport) (events : List Event) :
    (transport.run events).cancelled = true ∨ Staged (transport.run events) := by
  induction events generalizing transport with
  | nil => exact .inr staged
  | cons event rest ih =>
    rcases staged.occurs (transport.after_occurs event) with
      done | staged
    · left
      exact (congrArg YamuxTransport.cancelled
        (YamuxTransport.run_of_cancelled done rest)).trans done
    · exact ih staged

end Staged

/-! ## Inwards -/

namespace YamuxTransport

/-- The bytes that TLS delivers in a part of a turn. -/
def received (transport : YamuxTransport) (now : Nat)
    (answer : SslAnswer (List UInt8)) : List UInt8 :=
  if transport.input = [] ∧ ¬transport.eof then
    (transport.tls.read now inputBytes answer).2.1
  else
    []

/-- The bytes that TLS delivers in a turn. -/
def turnReceived (transport : YamuxTransport) (now : Nat) (answers : TurnAnswers) : List UInt8 :=
  let flushed := transport.flush now answers.write
  let settled := flushed.2.settle
  if flushed.1 = .ok ∧ settled.1 = .ok then
    settled.2.received now answers.read
  else
    []

/-- The bytes that TLS delivers in some turns. -/
def turnsReceived (transport : YamuxTransport) (now : Nat) : List TurnAnswers → List UInt8
  | [] => []
  | answers :: rest =>
    transport.turnReceived now answers ++
      let next := transport.turn now answers
      if next.1 = .ok then next.2.turnsReceived now rest else []

/-- The bytes that TLS delivers in an event. -/
def eventReceived (transport : YamuxTransport) : Event → List UInt8
  | .step now answers =>
    if transport.ready ≠ .ok ∨ (now < transport.now ∨ uint64Max - openTimeoutMs < now) ∨
        (yamuxTick transport.mux now).1 ≠ .ok then
      []
    else
      ({ transport with now := now }.call (.tick now)).turnsReceived now (List.ofFn answers)
  | _ => []

/-- The bytes that TLS delivers in a schedule. -/
def runReceived (transport : YamuxTransport) : List Event → List UInt8
  | [] => []
  | event :: rest => transport.eventReceived event ++ (transport.after event).runReceived rest

end YamuxTransport

/-- The mux was fed these bytes, up to those in the input buffer. -/
structure Fed (bytes : List UInt8) (transport : YamuxTransport) : Prop where
  consumed : transport.world.consumed <+: bytes
  rest : transport.result = .ok → bytes = transport.world.consumed ++ transport.input

namespace Fed

/-- A part of a turn that neither reads nor feeds. -/
theorem keep (fed : Fed bytes transport) (consumed : next.world.consumed = transport.world.consumed)
    (input : next.input = transport.input)
    (result : next.result = .ok → transport.result = .ok) :
    Fed bytes next where
  consumed := consumed.symm ▸ fed.consumed
  rest running := by
    rw [consumed, input]
    exact fed.rest (result running)

/-- A stopped transport feeds nothing more. -/
theorem stopped (consumed : next.world.consumed <+: bytes)
    (fatal : result ≠ .ok) : Fed bytes (next.stop result).2 :=
  ⟨consumed, fun running => absurd running fatal⟩

variable (fed : Fed bytes transport)
include fed

theorem flush (now : Nat) (answer : SslAnswer Nat) : Fed bytes (transport.flush now answer).2 := by
  unfold YamuxTransport.flush
  split
  · exact fed
  dsimp only
  split
  · exact fed.keep rfl rfl id
  split
  · next fatal => exact .stopped fed.consumed fatal.1
  · exact fed.keep rfl rfl id

theorem settle : Fed bytes transport.settle.2 := by
  unfold YamuxTransport.settle
  split
  · dsimp only
    split
    · next fatal => exact .stopped fed.consumed fatal
    · exact fed.keep rfl rfl id
  · exact fed

theorem receive (ready : transport.result = .ok) (now : Nat) (answer : SslAnswer (List UInt8)) :
    Fed (bytes ++ transport.received now answer) (transport.receive now answer).2 := by
  unfold YamuxTransport.receive YamuxTransport.received
  split
  · next reads =>
    have all : bytes = transport.world.consumed := by rw [fed.rest ready, reads.1, List.append_nil]
    have more := fed.consumed.trans (List.prefix_append bytes
      (transport.tls.read now inputBytes answer).2.1)
    dsimp only
    split
    · exact ⟨more, fun _ => by rw [← all]⟩
    split
    · next fatal => exact .stopped more fatal.1
    · exact ⟨more, fun _ => by rw [← all]⟩
  · rw [List.append_nil]
    exact fed

theorem deliver (ready : transport.result = .ok) : Fed bytes transport.deliver.2 := by
  have all := fed.rest ready
  have more : transport.world.consumed ++ transport.input.take
      (yamuxFeed transport.mux transport.input).2.1 <+: bytes := by
    rw [all, List.prefix_append_right_inj]
    exact List.take_prefix _ _
  unfold YamuxTransport.deliver
  dsimp only
  split
  · next fatal => exact .stopped more fatal.1
  refine ⟨more, fun _ => ?_⟩
  change bytes = transport.world.consumed ++ _ ++ _
  rw [all, List.append_assoc, List.take_append_drop]

theorem stage (now : Nat) : Fed bytes (transport.stage now).2 := by
  unfold YamuxTransport.stage
  split
  · dsimp only
    split
    · split
      · next fatal => exact .stopped fed.consumed fatal.1
      · exact fed.keep rfl rfl id
    split
    · exact .stopped fed.consumed (by assumption)
    · exact fed.keep rfl rfl id
  · exact fed

theorem turn (staged : Staged transport) (ready : transport.result = .ok)
    (now : Nat) (answers : TurnAnswers) :
    Fed (bytes ++ transport.turnReceived now answers) (transport.turn now answers).2 := by
  have flushes := staged.tlsTurn ready (staged.carried.flush_turn ready now answers.write)
  have flushed := fed.flush now answers.write
  unfold YamuxTransport.turn YamuxTransport.turnReceived
  dsimp only [YamuxTransport.andThen]
  by_cases first : (transport.flush now answers.write).1 = .ok
  · have flushing := flushes.running first
    have settles := flushing.staged.settle flushing.ready
    rw [if_pos first]
    by_cases second : (transport.flush now answers.write).2.settle.1 = .ok
    · have settling := settles.running second
      have receives := settling.staged.tlsTurn settling.ready
        (settling.staged.carried.receive_turn settling.ready now answers.read)
      have received := flushed.settle.receive settling.ready now answers.read
      rw [if_pos second, if_pos ⟨first, second⟩]
      split
      · next third =>
        have receiving := receives.running third
        have delivered := received.deliver receiving.ready
        split
        · exact delivered.stage now
        · exact delivered
      · exact received
    · rw [if_neg second, if_neg fun both => second both.2, List.append_nil]
      exact flushed.settle
  · rw [if_neg first, if_neg fun both => first both.1, List.append_nil]
    exact flushed

theorem turns (staged : Staged transport) (ready : transport.result = .ok)
    (now : Nat) (answers : List TurnAnswers) :
    Fed (bytes ++ transport.turnsReceived now answers) (transport.turns now answers).2 := by
  induction answers generalizing transport bytes with
  | nil =>
    rw [YamuxTransport.turnsReceived, List.append_nil]
    exact fed
  | cons first _ ih =>
    have turned := fed.turn staged ready now first
    rw [YamuxTransport.turnsReceived, YamuxTransport.turns,
      YamuxTransport.andThen, ← List.append_assoc]
    dsimp only
    split
    · next going =>
      have next := (staged.turn ready now first).running going
      exact ih turned next.staged next.ready
    rw [List.append_nil]
    exact turned

theorem step (staged : transport.cancelled = true ∨ Staged transport)
    (now : Nat) (answers : Fin stepTurns → TurnAnswers) :
    Fed (bytes ++ transport.eventReceived (.step now answers)) (transport.step now answers).2 := by
  rw [YamuxTransport.eventReceived, YamuxTransport.step]
  by_cases refused : transport.ready ≠ .ok
  · rw [if_pos refused, if_pos (Or.inl refused), List.append_nil]
    exact fed
  rw [if_neg refused]
  by_cases early : now < transport.now ∨ uint64Max - openTimeoutMs < now
  · rw [if_pos early, if_pos (Or.inr (Or.inl early)), List.append_nil]
    exact fed
  rw [if_neg early]
  by_cases fatal : (yamuxTick transport.mux now).1 ≠ .ok
  · rw [if_pos fatal, if_pos (Or.inr (Or.inr fatal)), List.append_nil]
    exact .stopped fed.consumed fatal
  rw [if_neg fatal, if_neg (not_or.mpr ⟨refused, not_or.mpr
    ⟨early, fatal⟩⟩), YamuxTransport.andThen, apply_ite Prod.snd, ite_self]
  have running := YamuxTransport.ready_iff.mp (not_ne_iff.mp refused)
  have ticked : Fed bytes ({ transport with now := now }.call (.tick now)) := fed.keep rfl rfl id
  rcases staged with done | staged
  · rw [running.1] at done
    cases done
  · exact ticked.turns (staged.tick now) running.2 now _

theorem streamAction (stream : Nat) (action : Mux → Nat → Result × Mux) (call : Call)
    (quiet : (transport.world.step call).consumed = transport.world.consumed) :
    Fed bytes (transport.streamAction stream action call).2 := by
  unfold YamuxTransport.streamAction
  split
  · exact fed
  split
  · exact fed
  · exact fed.keep quiet rfl id

theorem after (staged : transport.cancelled = true ∨ Staged transport) (event : Event) :
    Fed (bytes ++ transport.eventReceived event) (transport.after event) := by
  cases event with
  | step now answers => exact fed.step staged now answers
  | openStream allocated =>
    change Fed (bytes ++ []) (transport.openStream allocated).2.2
    rw [List.append_nil, YamuxTransport.openStream]
    iterate 2
      split
      · exact fed
    exact fed.keep rfl rfl id
  | write stream offered =>
    change Fed (bytes ++ []) (transport.writeStream stream offered).2.2
    rw [List.append_nil, YamuxTransport.writeStream]
    iterate 3
      split
      · exact fed
    exact fed.keep rfl rfl id
  | read stream capacity =>
    change Fed (bytes ++ []) (transport.readStream stream capacity).2.2
    rw [List.append_nil, YamuxTransport.readStream]
    iterate 2
      split
      · exact fed
    exact fed.keep rfl rfl id
  | closeWrite stream =>
    change Fed (bytes ++ []) (transport.closeWrite stream).2
    rw [List.append_nil]
    exact fed.streamAction stream _ _ rfl
  | reset stream =>
    change Fed (bytes ++ []) (transport.reset stream).2
    rw [List.append_nil]
    exact fed.streamAction stream _ _ rfl
  | release stream =>
    change Fed (bytes ++ []) (transport.release stream).2
    rw [List.append_nil]
    exact fed.streamAction stream _ _ rfl
  | cancel =>
    change Fed (bytes ++ []) transport.cancel
    rw [List.append_nil, YamuxTransport.cancel]
    split
    · exact fed
    · exact ⟨fed.consumed, fun running => Result.noConfusion running⟩

theorem run (staged : transport.cancelled = true ∨ Staged transport) (events : List Event) :
    Fed (bytes ++ transport.runReceived events) (transport.run events) := by
  induction events generalizing transport bytes with
  | nil =>
    rw [YamuxTransport.runReceived, List.append_nil]
    exact fed
  | cons event _ ih =>
    rw [YamuxTransport.runReceived, ← List.append_assoc]
    refine ih (fed.after staged event) ?_
    rcases staged with done | staged
    · left
      rw [(transport.after_occurs event).of_cancelled done]
      exact done
    · exact staged.occurs (transport.after_occurs event)

end Fed

/-! ## Both directions -/

/-- The bytes between TLS and the mux, in every schedule.

The mux is fed what TLS delivers, in order.  Until the transport is cancelled,
the bytes that TLS has accepted are a prefix of the output of the mux and
begin with all bytes that the mux was told of; the queue of TLS, which it is
offered again until it accepts, continues them.  In every turn of every step
the mux is told of a frame only if TLS has accepted the whole of it.  A
cancelled transport moves no byte. -/
theorem pump_preserves (tls : Tls) (now : Nat) (events : List Event) :
    match YamuxTransport.create tls now with
    | none => True
    | some created =>
      let last := created.run events
      Fed (created.runReceived events) last ∧ (last.cancelled = false →
          last.tls.sent <+: last.world.emitted ∧ last.world.handed <+: last.tls.sent ∧
            (last.tls.state = .opened → last.tls.sent ++ last.tls.pending <+: last.world.emitted)) ∧
        (last.ready = .ok → ∀ now answers answer,
          let ticked := { last with now := now }.call (.tick now)
          (ticked.turns now answers).1 = .ok →
          ((ticked.turns now answers).2.flush now answer).1 = .ok →
          Hands ((ticked.turns now answers).2.flush now answer).2) ∧
        last.cancel.tls.sent = last.tls.sent ∧
        ∀ event, last.cancel.after event = last.cancel := by
  cases creation : YamuxTransport.create tls now with
  | none => exact trivial
  | some created =>
    have staged := Staged.create creation
    have fresh : Fed [] created := by
      unfold YamuxTransport.create at creation
      split at creation
      · cases creation
      split at creation
      · cases creation
      cases creation
      exact ⟨List.prefix_rfl, fun _ => rfl⟩
    have reached := staged.run events
    refine ⟨fresh.run (.inr staged) events, fun active => ?_,
      fun ready moment answers answer going flushes => ?_, ?_, fun event => ?_⟩
    · rcases reached with done | staged
      · rw [active] at done
        cases done
      refine ⟨staged.carried.within, staged.carried.ahead, fun opened => ?_⟩
      obtain ⟨_, _, sent, taken⟩ := staged.carried.opened opened
      rw [sent, List.append_assoc, ← taken, World.emitted, List.prefix_append_right_inj]
      exact List.take_prefix _ _
    · have running := YamuxTransport.ready_iff.mp ready
      rcases reached with done | staged
      · rw [running.1] at done
        cases done
      · exact (staged.tick moment).turns_hand running.2 moment answers answer going flushes
    · rw [YamuxTransport.cancel]
      split
      · rfl
      · exact Tls.cancel_sent _
    · refine (YamuxTransport.after_occurs _ event).of_cancelled ?_
      rw [YamuxTransport.cancel]
      split
      · assumption
      · rfl

/-- The streams of the application, in every schedule.

Until the transport is cancelled, the bytes that TLS has accepted begin a
sequence of frames that the wire format allows and that carries exactly what
was written to each stream, and what was read from a stream was carried by the
bytes that TLS has delivered. -/
theorem streams_intact (tls : Tls) (now : Nat) (events : List Event) :
    match YamuxTransport.create tls now with
    | none => True
    | some created =>
      let last := created.run events
      last.cancelled = false →
        (∃ frames, last.tls.sent <+: encodeFrames frames ∧ (∀ frame ∈ frames, frame.WellFormed) ∧
          ∀ id, id % 2 = 1 → ClientLegal id (framesFor id frames) (last.world.written id)) ∧
        last.world.consumed <+: created.runReceived events ∧
        ∀ id, last.world.readBytes id <+: payloadFor id (framesOf last.world.consumed) := by
  cases creation : YamuxTransport.create tls now with
  | none => exact trivial
  | some created =>
    intro active
    have staged := Staged.create creation
    have fresh : Fed [] created := by
      revert creation
      unfold YamuxTransport.create
      split_ifs <;> rintro ⟨⟩
      exact ⟨List.prefix_rfl, fun _ => rfl⟩
    have fed := fresh.run (.inr staged) events
    obtain done | ⟨carried, _⟩ := staged.run events
    · exact absurd (active.symm.trans done) (by simp)
    obtain ⟨history, traced⟩ := carried.reachable.traced
    obtain ⟨wired, client, _⟩ := traced.legal
    refine ⟨⟨history.log (created.run events).mux, ?_, wired.wellFormed, client.legal⟩,
      fed.consumed, fun id => ?_⟩
    · rw [wired.log_bytes, Mux.unsent, ← List.append_assoc]
      exact carried.within.trans (List.prefix_append _ _)
    · rw [traced.parsed.framesOf_consumed, ← List.append_assoc, payloadFor_append]
      exact (traced.delivered.returned id).trans (List.prefix_append _ _)

end EspFrp.Transport
