import EspFrp.Transport.YamuxTls

/-!
# The bytes between the mux and TLS

`Carried` relates the bytes that TLS has accepted to the output of the mux:
they are the bytes the mux has handed over, followed by the part of its output
slot that TLS has taken since.  Every event keeps this relation.
-/

namespace EspFrp.Yamux

/-- The slot keeps its bytes unless it was empty. -/
structure Retains (world next : World) : Prop where
  handed : next.handed = world.handed
  slot : next.mux.slotBytes = world.mux.slotBytes ∨ world.mux.slotBytes = []

theorem Mux.slotBytes_of_free {mux : Mux} (free : mux.output = []) : mux.slotBytes = [] := by
  unfold Mux.slotBytes
  rw [free, List.drop_nil]

theorem yamuxOutput_retains (mux : Mux) :
    (yamuxOutput mux).2.2.slotBytes = mux.slotBytes ∨ mux.slotBytes = [] := by
  rcases yamuxOutput_cases mux with same | ⟨_, free, _⟩
  · exact Or.inl (congrArg Mux.slotBytes same)
  · exact Or.inr (Mux.slotBytes_of_free free)

/-- Only `efrp_yamux_consume_output` takes bytes out of the slot. -/
theorem World.step_retains (world : World) {call : Call}
    (keeps : ∀ length, call ≠ .consumeOutput length) : Retains world (world.step call) := by
  by_cases spares : call.sparesOutput = true
  · exact ⟨world.step_handed spares, Or.inl (world.step_sameSlot spares).slotBytes⟩
  cases call with
  | output => exact ⟨rfl, yamuxOutput_retains world.mux⟩
  | write id bytes =>
    refine ⟨rfl, ?_⟩
    rcases yamuxWrite_cases world.mux id bytes with ⟨_, outcome⟩ | ⟨_, stream, stages, _⟩
    · rcases outcome with same | ⟨_, asked⟩
      · exact Or.inl (congrArg Mux.slotBytes same)
      rw [show (world.step (.write id bytes)).mux = (yamuxOutput world.mux).2.2 from asked]
      exact yamuxOutput_retains world.mux
    · exact Or.inr (Mux.slotBytes_of_free stages.free)
  | consumeOutput length => exact absurd rfl (keeps length)
  | _ => exact absurd rfl spares

theorem Retains.emitted (retains : Retains world next) : world.emitted <+: next.emitted := by
  unfold World.emitted
  rw [retains.handed]
  rcases retains.slot with same | free
  · rw [same]
  rw [free, List.append_nil]
  exact List.prefix_append _ _

end EspFrp.Yamux

namespace EspFrp.Transport

open Yamux

/-- The mux, the staged bytes and the result are as before. -/
structure SameMux (transport next : YamuxTransport) : Prop where
  world : next.world = transport.world
  staged : next.staged = transport.staged
  result : next.result = transport.result

section

variable (same : SameMux transport next)
include same

theorem SameMux.mux : next.mux = transport.mux := congrArg World.mux same.world

theorem SameMux.ahead (sent : next.tls.sent = transport.tls.sent)
    (ahead : transport.world.handed <+: transport.tls.sent) :
    next.world.handed <+: next.tls.sent := by
  rw [sent, same.world]
  exact ahead

theorem SameMux.within (sent : next.tls.sent = transport.tls.sent)
    (within : transport.tls.sent <+: transport.world.emitted) :
    next.tls.sent <+: next.world.emitted := by
  rw [sent, same.world]
  exact within

end

/-- The bytes TLS has accepted and queued are those of the mux output. -/
structure Carried (transport : YamuxTransport) : Prop where
  reachable : transport.world.Reachable
  ahead : transport.world.handed <+: transport.tls.sent
  within : transport.tls.sent <+: transport.world.emitted
  opened : transport.tls.state = .opened → transport.staged ≤ transport.mux.slotBytes.length ∧
      ∃ flushed, transport.tls.sent = transport.world.handed ++ flushed ∧
          transport.mux.slotBytes.take transport.staged = flushed ++ transport.tls.pending
  running : transport.result = .ok → transport.eof = false → transport.tls.state = .opened
  closed : transport.eof = true → transport.tls.state ≠ .opened

namespace Carried

variable {transport : YamuxTransport}

theorem create (created : YamuxTransport.create tls now = some transport) : Carried transport := by
  unfold YamuxTransport.create at created
  split at created
  · cases created
  split at created
  · cases created
  next usable =>
  cases created
  rcases not_or.mp usable with ⟨opened, free⟩
  refine ⟨.init now, List.nil_prefix, List.nil_prefix, ?_, ?_, nofun⟩
  · intro _
    refine ⟨Nat.zero_le _, [], rfl, ?_⟩
    exact (not_ne_iff.mp free).symm
  · intro _ _
    exact not_ne_iff.mp opened

/-- A call that leaves the slot alone or fills it. -/
theorem call (carried : Carried transport) {call : Call}
    (keeps : ∀ length, call ≠ .consumeOutput length) : Carried (transport.call call) := by
  have retains := transport.world.step_retains keeps
  refine ⟨carried.reachable.step call, retains.handed.symm ▸ carried.ahead,
    carried.within.trans retains.emitted, ?_, carried.running, carried.closed⟩
  intro opened
  obtain ⟨bounded, flushed, sent, taken⟩ := carried.opened opened
  rcases retains.slot with same | free
  · refine ⟨?_, flushed, ?_, ?_⟩
    · exact bounded.trans (congrArg List.length same).ge
    · exact sent.trans (congrArg (· ++ flushed) retains.handed.symm)
    · exact (congrArg (List.take transport.staged) same).trans taken
  · have none : transport.staged = 0 := by
      rw [free] at bounded
      exact Nat.le_zero.mp bounded
    rw [none, List.take_zero] at taken
    refine ⟨?_, flushed, ?_, ?_⟩
    · exact none.le.trans (Nat.zero_le _)
    · exact sent.trans (congrArg (· ++ flushed) retains.handed.symm)
    · exact (congrArg (fun count => List.take count _) none).trans taken

/-- The connection has ended and the transport knows it. -/
theorem of_ended (reachable : transport.world.Reachable)
    (ahead : transport.world.handed <+: transport.tls.sent)
    (within : transport.tls.sent <+: transport.world.emitted)
    (state : transport.tls.state ≠ .opened)
    (known : transport.result = .ok → transport.eof = true) : Carried transport where
  reachable := reachable
  ahead := ahead
  within := within
  opened := fun opened => absurd opened state
  running := by
    intro ready still
    rw [known ready] at still
    cases still
  closed := fun _ => state

theorem of_stop {result : Result} (reachable : transport.world.Reachable)
    (ahead : transport.world.handed <+: transport.tls.sent)
    (within : transport.tls.sent <+: transport.world.emitted)
    (fatal : result ≠ .ok) : Carried (transport.stop result).2 :=
  of_ended reachable ((Tls.cancel_sent transport.tls).symm ▸ ahead)
    ((Tls.cancel_sent transport.tls).symm ▸ within)
    (Tls.cancel_state transport.tls) fun ready => absurd ready fatal

/-- TLS has accepted a part of its queue. -/
theorem flushes (carried : Carried transport) (same : SameMux transport next)
    (eof : next.eof = transport.eof) (state : transport.tls.state = .opened)
    (flushes : transport.tls.Flushes count next.tls) : Carried next := by
  obtain ⟨bounded, flushed, sent, taken⟩ := carried.opened state
  have more : next.tls.sent =
      next.world.handed ++ (flushed ++ transport.tls.pending.take count) := by
    rw [flushes.sent, sent, List.append_assoc, same.world]
  have rest : next.mux.slotBytes.take next.staged = (flushed ++ transport.tls.pending.take count) ++
        next.tls.pending := by
    rw [flushes.pending, List.append_assoc, List.take_append_drop, same.staged, same.mux, taken]
  have within : flushed ++ transport.tls.pending.take count <+:
      next.mux.slotBytes := by
    refine List.IsPrefix.trans ?_ (List.take_prefix next.staged _)
    rw [rest]
    exact List.prefix_append _ _
  refine ⟨same.world ▸ carried.reachable, ?_, ?_,
    fun _ => ⟨?_, _, more, rest⟩, fun _ _ => flushes.state, ?_⟩
  · rw [more]
    exact List.prefix_append _ _
  · rw [more]
    exact (List.prefix_append_right_inj _).mpr within
  · rw [same.staged, same.mux]
    exact bounded
  · intro ended
    exact absurd state (carried.closed (eof ▸ ended))

end Carried

/-! ## The pump -/

/-- A transport in the middle of a step. -/
structure Pumping (transport : YamuxTransport) : Prop where
  carried : Carried transport
  ready : transport.result = .ok

/--
What holds after a part of a turn: one property in any case, and another one
if the turn goes on.
-/
structure Outcome (Running Holds : YamuxTransport → Prop)
    (outcome : Result × YamuxTransport) : Prop where
  holds : Holds outcome.2
  running : outcome.1 = .ok → Running outcome.2

namespace Outcome

theorem andThen (first : Outcome Running Holds outcome)
    (later : ∀ transport, Running transport → Outcome Next Holds (next transport)) :
    Outcome Next Holds (YamuxTransport.andThen outcome next) := by
  unfold YamuxTransport.andThen
  split
  · next done => exact later outcome.2 (first.running done)
  · next stopped => exact ⟨first.holds, fun done => absurd done stopped⟩

theorem goOn {transport : YamuxTransport} (running : Running transport) (holds : Holds transport) :
    Outcome Running Holds (.ok, transport) := ⟨holds, fun _ => running⟩

theorem stop {transport : YamuxTransport}
    (holds : Holds (transport.stop result).2) (fatal : result ≠ .ok) :
    Outcome Running Holds (transport.stop result) := ⟨holds, fun done => absurd done fatal⟩

end Outcome

/-- What a part of a turn that drives TLS can do. -/
inductive TlsTurn (transport : YamuxTransport) (limit : Nat) : Result × YamuxTransport → Prop where
  | skipped : TlsTurn transport limit (.ok, transport)
  | moved {next : YamuxTransport} (count : Nat) (same : SameMux transport next)
      (eof : next.eof = transport.eof)
      (bounded : count ≤ limit)
      (state : transport.tls.state = .opened)
      (flushes : transport.tls.Flushes count next.tls) :
      TlsTurn transport limit (.ok, next)
  | ended {next : YamuxTransport} (same : SameMux transport next) (eof : next.eof = true)
      (sent : next.tls.sent = transport.tls.sent)
      (state : next.tls.state ≠ .opened) :
      TlsTurn transport limit (.ok, next)
  | stopped {next : YamuxTransport} {result : Result} (same : SameMux transport next)
      (sent : next.tls.sent = transport.tls.sent)
      (fatal : result ≠ .ok) :
      TlsTurn transport limit (next.stop result)

/-- What the last part of a turn can do. -/
inductive Staging (transport : YamuxTransport) : Result × YamuxTransport → Prop where
  | skipped (busy : transport.staged ≠ 0 ∨ transport.eof = true) :
      Staging transport (.ok, transport)
  | nothing (idle : transport.staged = 0) (going : transport.eof = false) :
      Staging transport (.ok, transport.call .output)
  | queued (tls : Tls) (accepted : Nat) (idle : transport.staged = 0)
      (going : transport.eof = false)
      (state : transport.tls.state = .opened)
      (opened : tls.state = .opened)
      (sent : tls.sent = transport.tls.sent)
      (pending : tls.pending = (transport.call .output).mux.slotBytes.take accepted)
      (length : accepted = 0 ∨ accepted =
          min (transport.call .output).mux.slotBytes.length tlsTxBytes) :
      Staging transport (.ok,
          { transport.call .output with
            tls := tls
            staged := accepted })
  | stopped {next : YamuxTransport} {result : Result} (idle : transport.staged = 0)
      (going : transport.eof = false)
      (world : next.world = (transport.call .output).world)
      (sent : next.tls.sent = transport.tls.sent)
      (fatal : result ≠ .ok) :
      Staging transport (next.stop result)

namespace Carried

theorem turn_of_tls (input : List UInt8)
    (state : transport.tls.state = .opened)
    (cases : (result = .ok ∨ result = .wouldBlock) ∧
        (∃ count ≤ limit, transport.tls.Flushes count tls) ∨ TlsEnds transport.tls result tls) :
    TlsTurn transport limit
      (if result = .eof then (.ok, { transport with tls := tls, input := input, eof := true })
      else if result ≠ .ok ∧ result ≠ .wouldBlock then { transport with tls := tls }.stop result
      else (.ok, { transport with tls := tls, input := input })) := by
  rcases cases with ⟨rfl | rfl, count, bounded, flushes⟩ | ends
  · exact .moved count ⟨rfl, rfl, rfl⟩ rfl bounded state flushes
  · exact .moved count ⟨rfl, rfl, rfl⟩ rfl bounded state flushes
  · split
    · next eof => exact .ended ⟨rfl, rfl, rfl⟩ rfl ends.sent (ends.closed eof)
    rw [if_pos ends.fatal]
    exact .stopped ⟨rfl, rfl, rfl⟩ ends.sent ends.fatal.1

theorem flush_turn (carried : Carried transport) (ready : transport.result = .ok) (now : Nat)
    (answer : SslAnswer Nat) : TlsTurn transport (answer.value 0) (transport.flush now answer) := by
  unfold YamuxTransport.flush
  split
  · exact .skipped
  next opened =>
  have state := carried.running ready (Bool.eq_false_of_not_eq_true opened)
  exact turn_of_tls transport.input state (Tls.step_cases state now answer)

theorem receive_turn (carried : Carried transport) (ready : transport.result = .ok) (now : Nat)
    (answer : SslAnswer (List UInt8)) : TlsTurn transport 0 (transport.receive now answer) := by
  unfold YamuxTransport.receive
  split
  · next reads =>
    have state := carried.running ready (Bool.eq_false_of_not_eq_true reads.2)
    exact turn_of_tls _ state ((Tls.read_cases state now inputBytes answer).imp_left
      fun ⟨result, idles⟩ => ⟨result, 0, Nat.le_refl 0, idles.flushes⟩)
  · exact .skipped

/-- A part of a turn that drives TLS. -/
theorem tlsTurn (carried : Carried transport) (ready : transport.result = .ok)
    (turn : TlsTurn transport limit outcome) : Outcome Pumping Carried outcome := by
  cases turn with
  | skipped => exact .goOn ⟨carried, ready⟩ carried
  | moved _ same eof _ state flushes =>
    have moved := carried.flushes same eof state flushes
    exact .goOn ⟨moved, same.result.trans ready⟩ moved
  | ended same eof sent state =>
    have ended := of_ended (same.world ▸ carried.reachable) (same.ahead sent carried.ahead)
      (same.within sent carried.within) state fun _ => eof
    exact .goOn ⟨ended, same.result.trans ready⟩ ended
  | stopped same sent fatal =>
    exact .stop (of_stop (same.world ▸ carried.reachable) (same.ahead sent carried.ahead)
      (same.within sent carried.within) fatal) fatal

section

variable (carried : Carried transport)
include carried

/-- TLS has accepted everything that was staged. -/
theorem settle (ready : transport.result = .ok) : Outcome Pumping Carried transport.settle := by
  unfold YamuxTransport.settle
  split
  · next settled =>
    rcases settled with ⟨_, drained, state⟩
    have reachable := carried.reachable.step (.consumeOutput transport.staged)
    have within : transport.tls.sent <+:
        (transport.call (.consumeOutput transport.staged)).world.emitted := by
      rw [YamuxTransport.call, carried.reachable.emitted_consumeOutput]
      exact carried.within
    dsimp only
    split
    · next fatal =>
      refine .stop (of_stop reachable ?_ within fatal) fatal
      have handed : (transport.call (.consumeOutput transport.staged)).world.handed =
            transport.world.handed ++ [] := congrArg _ (if_neg fatal)
      rw [handed, List.append_nil]
      exact carried.ahead
    · next done =>
      obtain ⟨_, flushed, sent, taken⟩ := carried.opened state
      rw [drained, List.append_nil] at taken
      have handed : (transport.call (.consumeOutput transport.staged)).world.handed =
            transport.world.handed ++ flushed := by
        rw [← taken]
        exact congrArg _ (if_pos (not_ne_iff.mp done))
      have settled : Carried
          { transport.call (.consumeOutput transport.staged) with
            staged := 0 } := by
        refine ⟨reachable, ?_, within, ?_, fun _ _ => state, carried.closed⟩
        · exact handed.trans sent.symm ▸ List.prefix_rfl
        refine fun _ => ⟨Nat.zero_le _, [], ?_, drained.symm⟩
        rw [List.append_nil]
        exact sent.trans handed.symm
      exact .goOn ⟨settled, ready⟩ settled
  · exact .goOn ⟨carried, ready⟩ carried

theorem deliver (ready : transport.result = .ok) : Outcome Pumping Carried transport.deliver := by
  have fed : Carried (transport.call (.feed transport.input)) :=
    carried.call fun _ => Call.noConfusion
  unfold YamuxTransport.deliver
  dsimp only
  split
  · next fatal => exact .stop (of_stop fed.reachable fed.ahead fed.within fatal.1) fatal.1
  have delivered : Carried
      { transport.call (.feed transport.input) with
        input := transport.input.drop (yamuxFeed transport.mux transport.input).2.1 } :=
    ⟨fed.reachable, fed.ahead, fed.within, fed.opened, fed.running, fed.closed⟩
  exact .goOn ⟨delivered, ready⟩ delivered

theorem idle (state : transport.tls.state = .opened) (idle : transport.staged = 0) :
    transport.tls.sent = transport.world.handed ∧ transport.tls.pending = [] := by
  obtain ⟨_, _, sent, taken⟩ := carried.opened state
  rw [idle, List.take_zero] at taken
  rcases List.append_eq_nil_iff.mp taken.symm with ⟨rfl, pending⟩
  exact ⟨sent.trans (List.append_nil _), pending⟩

/-- The first bytes of the slot are queued in the empty queue of TLS. -/
theorem queue (state : transport.tls.state = .opened) (idle : transport.staged = 0)
    (opened : tls.state = .opened) (sent : tls.sent = transport.tls.sent)
    (within : accepted ≤ transport.mux.slotBytes.length)
    (pending : tls.pending = transport.mux.slotBytes.take accepted) :
    Carried { transport with tls := tls, staged := accepted } := by
  refine ⟨carried.reachable, sent.symm ▸ carried.ahead, sent.symm ▸ carried.within,
    fun _ => ⟨within, [], ?_, pending.symm⟩,
    fun _ _ => opened, fun eof _ => carried.closed eof state⟩
  rw [List.append_nil]
  exact sent.trans (carried.idle state idle).1

theorem staging (ready : transport.result = .ok) (now : Nat) :
    Staging transport (transport.stage now) := by
  unfold YamuxTransport.stage
  split
  · next idle =>
    have going := Bool.eq_false_of_not_eq_true idle.2
    have state := carried.running ready going
    have drained := (carried.idle state idle.1).2
    dsimp only
    split
    · next offered =>
      have bytes : (yamuxOutput transport.mux).2.1 = (transport.call .output).mux.slotBytes :=
        yamuxOutput_bytes offered
      rw [bytes]
      rcases Tls.write_cases state now (transport.call .output).mux.slotBytes with
        ⟨result, opened, sent, queued⟩ | ends
      · rw [if_neg (by rcases result with result | result <;>
          rw [result] <;> decide)]
        rcases queued with ⟨none, same⟩ | ⟨_, accepted, pending⟩
        · refine .queued _ _ idle.1 going state opened sent ?_ (Or.inl none)
          rw [same, none, drained, List.take_zero]
        refine .queued _ _ idle.1 going state opened sent ?_ (Or.inr accepted)
        rw [pending, accepted, Nat.min_comm]
        exact List.take_eq_take_min
      · rw [if_pos ends.fatal]
        exact .stopped idle.1 going rfl ends.sent ends.fatal.1
    · next refused =>
      split
      · exact .stopped idle.1 going rfl rfl refused
      · exact .nothing idle.1 going
  · next skips =>
    refine .skipped ?_
    by_contra neither
    rcases not_or.mp neither with ⟨idle, still⟩
    exact skips ⟨not_ne_iff.mp idle, still⟩

end

variable (carried : Carried transport) (ready : transport.result = .ok)
include carried ready

/-- The next output of the mux is queued in TLS. -/
theorem stage (staging : Staging transport outcome) : Outcome Pumping Carried outcome := by
  have filled : Carried (transport.call .output) := carried.call fun _ => Call.noConfusion
  cases staging with
  | skipped => exact .goOn ⟨carried, ready⟩ carried
  | nothing => exact .goOn ⟨filled, ready⟩ filled
  | queued _ accepted idle _ state opened sent pending length =>
    have within : accepted ≤ (transport.call .output).mux.slotBytes.length := by
      rcases length with none | all
      · exact none.le.trans (Nat.zero_le _)
      · exact all.le.trans (Nat.min_le_left _ _)
    have queued := filled.queue state idle opened sent within pending
    exact .goOn ⟨queued, ready⟩ queued
  | stopped _ _ world sent fatal =>
    refine .stop (of_stop (world ▸ filled.reachable) ?_ ?_ fatal) fatal
    · rw [world, sent]
      exact filled.ahead
    · rw [world, sent]
      exact filled.within

/-- One turn of the pump. -/
theorem turn (now : Nat) (answers : TurnAnswers) :
    Outcome Pumping Carried (transport.turn now answers) := by
  refine (carried.tlsTurn ready (carried.flush_turn ready now answers.write)).andThen ?_
  intro flushed pumping
  refine (pumping.carried.settle pumping.ready).andThen ?_
  intro settled pumping
  refine (pumping.carried.tlsTurn pumping.ready (pumping.carried.receive_turn pumping.ready now
      answers.read)).andThen ?_
  intro received pumping
  refine (pumping.carried.deliver pumping.ready).andThen ?_
  intro delivered pumping
  exact pumping.carried.stage pumping.ready (pumping.carried.staging pumping.ready now)

theorem turns (now : Nat) (answers : List TurnAnswers) :
    Outcome Pumping Carried (transport.turns now answers) := by
  induction answers generalizing transport with
  | nil => exact .goOn ⟨carried, ready⟩ carried
  | cons first _ ih =>
    refine (carried.turn ready now first).andThen ?_
    intro next pumping
    exact ih pumping.carried pumping.ready

end Carried

/-! ## Events -/

/-- What an event can do to a transport. -/
inductive Occurs (transport : YamuxTransport) : Event → YamuxTransport → Prop where
  | nothing (event : Event) : Occurs transport event transport
  | called (event : Event) (call : Call) (ready : transport.ready = .ok)
      (spares : call.sparesOutput = true) :
      Occurs transport event (transport.call call)
  | wrote (id : Nat) (bytes : List UInt8) (ready : transport.ready = .ok)
      (count : (transport.writeStream id bytes).2.1 = (yamuxWrite transport.mux id bytes).2.1) :
      Occurs transport (.write id bytes) (transport.call (.write id bytes))
  | expired (now : Nat) (answers : Fin stepTurns → TurnAnswers) (result : Result)
      (ready : transport.ready = .ok)
      (fatal : result ≠ .ok) :
      Occurs transport (.step now answers)
        (({ transport with now := now }.call (.tick now)).stop result).2
  | pumped (now : Nat) (answers : Fin stepTurns → TurnAnswers) (ready : transport.ready = .ok) :
      Occurs transport (.step now answers)
        (({ transport with now := now }.call (.tick now)).turns now (List.ofFn answers)).2
  | cancelled (active : transport.cancelled = false) : Occurs transport .cancel transport.cancel

namespace YamuxTransport

variable (transport : YamuxTransport)

theorem streamAction_occurs (event : Event) (id : Nat) (action : Mux → Nat → Result × Mux)
    {call : Call} (spares : call.sparesOutput = true) :
    Occurs transport event (transport.streamAction id action call).2 := by
  unfold streamAction
  split
  · exact .nothing event
  next ready =>
  split
  · exact .nothing event
  · exact .called event call (not_ne_iff.mp ready) spares

theorem step_occurs (now : Nat) (answers : Fin stepTurns → TurnAnswers) :
    Occurs transport (.step now answers) (transport.step now answers).2 := by
  unfold step
  split
  · exact .nothing _
  next ready =>
  split
  · exact .nothing _
  dsimp only
  split
  · next fatal => exact .expired now answers _ (not_ne_iff.mp ready) fatal
  unfold andThen
  rw [apply_ite Prod.snd, ite_self]
  exact .pumped now answers (not_ne_iff.mp ready)

theorem writeStream_occurs (id : Nat) (bytes : List UInt8) :
    Occurs transport (.write id bytes) (transport.writeStream id bytes).2.2 := by
  by_cases refused : transport.ready ≠ .ok
  · rw [writeStream, if_pos refused]
    exact .nothing _
  by_cases wide : uint32Max < id
  · rw [writeStream, if_neg refused, if_pos wide]
    exact .nothing _
  by_cases ended : transport.eof = true
  · rw [writeStream, if_neg refused, if_neg wide, if_pos ended]
    exact .nothing _
  have wrote : transport.writeStream id bytes = ((yamuxWrite transport.mux id bytes).1,
        (yamuxWrite transport.mux id bytes).2.1,
        transport.call (.write id bytes)) := by
    rw [writeStream, if_neg refused, if_neg wide, if_neg ended]
  have count := congrArg (fun outcome => outcome.2.1) wrote
  rw [wrote]
  exact .wrote id bytes (not_ne_iff.mp refused) count

theorem after_occurs (event : Event) : Occurs transport event (transport.after event) := by
  cases event with
  | step now answers => exact transport.step_occurs now answers
  | openStream allocated =>
    change Occurs transport _ (transport.openStream allocated).2.2
    unfold openStream
    split
    · exact .nothing _
    next ready =>
    split
    · exact .nothing _
    · exact .called _ _ (not_ne_iff.mp ready) rfl
  | write id bytes => exact transport.writeStream_occurs id bytes
  | read id capacity =>
    change Occurs transport _ (transport.readStream id capacity).2.2
    unfold readStream
    split
    · exact .nothing _
    next ready =>
    split
    · exact .nothing _
    · exact .called _ _ (not_ne_iff.mp ready) rfl
  | closeWrite id => exact transport.streamAction_occurs _ id yamuxCloseWrite rfl
  | reset id => exact transport.streamAction_occurs _ id yamuxReset rfl
  | release id => exact transport.streamAction_occurs _ id yamuxRelease rfl
  | cancel =>
    by_cases done : transport.cancelled = true
    · rw [after, cancel, if_pos done]
      exact .nothing _
    · exact .cancelled (Bool.eq_false_of_not_eq_true done)

end YamuxTransport

variable {transport : YamuxTransport}

theorem YamuxTransport.ready_iff :
    transport.ready = .ok ↔ transport.cancelled = false ∧ transport.result = .ok := by
  unfold ready
  cases transport.cancelled with
  | false | true => simp

/-- The transport after the timers of its mux have run. -/
theorem Carried.tick (carried : Carried transport) (now : Nat) :
    Carried ({ transport with now := now }.call (.tick now)) := by
  have later : Carried { transport with now := now } :=
    ⟨carried.reachable, carried.ahead, carried.within, carried.opened,
      carried.running, carried.closed⟩
  exact later.call fun _ => Call.noConfusion

/-- An event keeps the relation between the mux and TLS. -/
theorem Carried.occurs (carried : Carried transport)
    (occurs : Occurs transport event next) : next.cancelled = true ∨ Carried next := by
  cases occurs with
  | nothing => exact Or.inr carried
  | called _ call _ spares =>
    refine Or.inr (carried.call ?_)
    rintro length rfl
    cases spares
  | wrote => exact Or.inr (carried.call fun _ => Call.noConfusion)
  | expired now _ _ _ fatal =>
    have ticked := carried.tick now
    exact Or.inr (of_stop ticked.reachable ticked.ahead ticked.within fatal)
  | pumped now _ ready =>
    exact Or.inr ((carried.tick now).turns (YamuxTransport.ready_iff.mp ready).2 now _).holds
  | cancelled active =>
    left
    rw [YamuxTransport.cancel, active]
    rfl

/-- A cancelled transport stays as it is. -/
theorem Occurs.of_cancelled (done : transport.cancelled = true)
    (occurs : Occurs transport event next) : next = transport := by
  have refused : transport.ready ≠ .ok := by
    intro ready
    rw [(YamuxTransport.ready_iff.mp ready).1] at done
    cases done
  cases occurs with
  | nothing => rfl
  | called _ _ ready | wrote _ _ ready | expired _ _ _ ready
  | pumped _ _ ready => exact absurd ready refused
  | cancelled active =>
    rw [active] at done
    cases done

theorem YamuxTransport.run_of_cancelled (done : transport.cancelled = true)
    (events : List Event) : transport.run events = transport := by
  induction events with
  | nil => rfl
  | cons event _ ih =>
    rw [run, List.foldl_cons, (transport.after_occurs event).of_cancelled done]
    exact ih

/-- The relation holds after every schedule that does not cancel. -/
theorem Carried.run (carried : Carried transport) (events : List Event) :
    (transport.run events).cancelled = true ∨ Carried (transport.run events) := by
  induction events generalizing transport with
  | nil => exact Or.inr carried
  | cons event rest ih =>
    rcases carried.occurs (transport.after_occurs event) with
      done | carried
    · left
      exact (congrArg YamuxTransport.cancelled
        (YamuxTransport.run_of_cancelled done rest)).trans done
    · exact ih carried

end EspFrp.Transport
