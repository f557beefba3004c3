import EspFrp.Control.Plaintext
import EspFrp.Control.Protocol
import EspFrp.Wire.Feeding

/-!
# The session keeps the order

Every stage of a session follows a run of the abstract machine, with the
events that its history records.
-/

namespace EspFrp.Control.Session

variable {Net Sys Peer Rx Tx : Type}

/-- A message was refused. -/
def refusal : Event → Bool
  | .refused _ => true
  | _ => false

/-- The state of the abstract machine. -/
def protocol (session : Session Rx Tx) : Protocol where
  kind := session.kind
  phase := session.phase
  proxyQueued := session.proxyQueued
  pingPending := session.pingPending
  pongs := session.pongs
  started := session.history.any Event.isStart
  starting := session.history.getLast?.any Event.isStart
  refused := session.history.any refusal

/-- Whether and how a session has ended. -/
def standing (session : Session Rx Tx) : Result × Bool := (session.result, session.otherCleared)

/-- What every stage keeps: the standing, the presence of a controller, and what was written. -/
structure Keeps (session next : Session Rx Tx) : Prop where
  standing : next.standing = session.standing
  xtcp : next.xtcp.isSome = session.xtcp.isSome
  plain : session.plain.Sound → Plain.Wrote session.plain next.plain

variable {first second third : Session Rx Tx}

theorem Keeps.trans
    (before : Keeps first second) (after : Keeps second third) : Keeps first third :=
  ⟨after.standing.trans before.standing, after.xtcp.trans before.xtcp,
    fun sound => (before.plain sound).trans after.plain⟩

/-- Nothing the order depends on changes. -/
structure Quiet (session next : Session Rx Tx) : Prop where
  protocol : next.protocol = session.protocol
  history : next.history = session.history
  keeps : Keeps session next

theorem Quiet.refl (session : Session Rx Tx) : Quiet session session := ⟨rfl, rfl, rfl, rfl, .refl⟩

theorem Quiet.trans (before : Quiet first second)
    (after : Quiet second third) : Quiet first third :=
  ⟨after.protocol.trans before.protocol, after.history.trans before.history,
    before.keeps.trans after.keeps⟩

/-- The machine runs along with the history. -/
structure Follows (session next : Session Rx Tx) : Prop where
  run : ∃ events, next.history = session.history ++ events ∧
    Protocol.Run session.protocol events next.protocol
  keeps : Keeps session next

theorem Quiet.follows {session next : Session Rx Tx}
    (quiet : Quiet session next) : Follows session next :=
  ⟨⟨[], by rw [quiet.history, List.append_nil], quiet.protocol ▸ .nil⟩, quiet.keeps⟩

theorem Follows.trans (before : Follows first second)
    (after : Follows second third) : Follows first third := by
  obtain ⟨earlier, grown, first⟩ := before.run
  obtain ⟨later, grownAgain, second⟩ := after.run
  refine ⟨⟨earlier ++ later, ?_, first.append second⟩, before.keeps.trans after.keeps⟩
  rw [grownAgain, grown, List.append_assoc]

/-- One event of the machine. -/
theorem Follows.event {session next : Session Rx Tx} {event : Event}
    (grown : next.history = session.history ++ [event])
    (step : Protocol.Step session.protocol event next.protocol)
    (keeps : Keeps session next) : Follows session next := ⟨⟨[event], grown, step.single⟩, keeps⟩

/-- A session between two stages. -/
structure Ready (session : Session Rx Tx) : Prop where
  free : session.protocol.Free
  coherent : session.protocol.Coherent
  live : session.phase.live = true
  standing : session.standing = (.ok, false)
  xtcp : session.xtcp.isSome = session.kind.xtcp

/-- What a stage may do: it follows the machine, and goes on unless it has
an error. -/
structure Moves (result : Result) (session next : Session Rx Tx) : Prop where
  follows : Follows session next
  settled : next.protocol.starting = false
  live : next.phase.live = true
  trusted : result = .ok → next.protocol.refused = false

theorem Follows.kind {session next : Session Rx Tx}
    (follows : Follows session next) : next.kind = session.kind := by
  obtain ⟨_, _, run⟩ := follows.run
  exact run.kind

theorem Moves.ready {session next : Session Rx Tx} (moves : Moves .ok session next)
    (ready : Ready session) : Ready next where
  free := ⟨moves.settled, moves.trusted rfl⟩
  coherent := by
    obtain ⟨_, _, run⟩ := moves.follows.run
    exact run.coherent ready.coherent
  live := moves.live
  standing := moves.follows.keeps.standing.trans ready.standing
  xtcp := by rw [moves.follows.keeps.xtcp, ready.xtcp, moves.follows.kind]

theorem Quiet.moves {session next : Session Rx Tx} (quiet : Quiet session next)
    (ready : Ready session) (result : Result) : Moves result session next where
  follows := quiet.follows
  settled := by rw [quiet.protocol]; exact ready.free.settled
  live := by
    have phase : next.phase = session.phase := congrArg Protocol.phase quiet.protocol
    rw [phase]
    exact ready.live
  trusted _ := by rw [quiet.protocol]; exact ready.free.trusted

/-! ## The quiet parts -/

theorem advance_quiet (session : Session Rx Tx) (used : Nat) :
    Quiet session (session.advance used) := by
  dsimp only [advance]
  split <;> exact ⟨rfl, rfl, rfl, rfl, .refl⟩

/-- The controller places no second frame beside the one it holds. -/
theorem plain_emit {session : Session Rx Tx} {xtcp next : Xtcp.Controller}
    (present : session.xtcp = some xtcp) (emits : Xtcp.Controller.Emits xtcp next)
    (sound : session.plain.Sound) :
    Plain.Wrote session.plain ({ session with xtcp := some next } : Session Rx Tx).plain := by
  have outbox := congrArg (Option.map Xtcp.Controller.outbox) present
  exact .still (sound.emit outbox emits) rfl rfl

/-- An event that queues nothing leaves the writer's view, up to the
phase. -/
theorem plain_grown {session next : Session Rx Tx} {event : Event}
    (grown : next.history = session.history ++ [event])
    (silent : event.frame? = none)
    (same : next.plain =
      { session.plain with
        queued := next.plain.queued
        registered := next.plain.registered })
    (forward : session.phase = .registered → next.phase = .registered)
    (sound : session.plain.Sound) :
    Plain.Wrote session.plain next.plain := by
  have queued : next.plain.queued = session.plain.queued := by
    dsimp only [plain]
    rw [grown, List.filterMap_append]
    simp [silent]
  rw [same, queued]
  refine .still (sound.phase _ fun registered => ?_) rfl rfl
  dsimp only [plain] at registered ⊢
  rw [beq_iff_eq] at registered ⊢
  exact forward registered

section

variable (platform : Platform Net Sys Peer Rx Tx) (now : Nat) (seconds : Int)
  (root : Option Json.Value) (frame : Wire.Kind) (payload : List UInt8)
  (running : Running Net Sys Peer Rx Tx) (session : Session Rx Tx)

theorem controlFinish_quiet : Quiet session (session.controlFinish platform).2 := by
  dsimp only [controlFinish]
  split <;> exact ⟨rfl, rfl, rfl, rfl, .refl⟩

theorem xtcpOutput_quiet : Quiet running.1 (xtcpOutput platform running).2.2.1 := by
  dsimp only [xtcpOutput]
  split
  · next xtcp present _ =>
    exact ⟨rfl, rfl, rfl, by simp [present], plain_emit present
        (Xtcp.Controller.xtcpOutput_emits platform.xtcp xtcp _)⟩
  · exact .refl _

theorem writeLogin_quiet : Quiet running.1 (writeLogin platform running).2.1 := by
  dsimp only [writeLogin]
  split
  · split <;> exact ⟨rfl, rfl, rfl, rfl, .refl⟩
  · exact .refl _
  · exact .refl _

/-- A message is queued when nothing is in progress. -/
theorem plain_queue {session next : Session Rx Tx} {event : Event}
    {frame : List UInt8}
    (grown : next.history = session.history ++ [event])
    (queues : event.frame? = some frame)
    (same : next.plain =
      { session.plain with
        controlTx := frame
        txOffset := 0
        queued := next.plain.queued })
    (idle : session.controlTx = [])
    (untaken : session.plain.Sound → session.plain.taken = 0)
    (known : type ∈ [3, 11])
    (framed : Wire.messageFrame type text = .ok frame)
    (sound : session.plain.Sound) :
    Plain.Wrote session.plain next.plain := by
  have queued : next.plain.queued = session.plain.queued ++ [frame] := by
    dsimp only [plain]
    rw [grown, List.filterMap_append]
    simp [queues]
  have whole : Whole frame := by
    refine ⟨type, ?_, text, framed⟩
    simp only [List.mem_cons, List.not_mem_nil, or_false] at known ⊢
    rcases known with rfl | rfl <;> simp
  rw [same, queued]
  exact .still (sound.queue idle (untaken sound) (Wire.messageFrame_ne_nil framed) whole) rfl rfl

theorem sealControl_quiet (queued : session.controlTx ≠ []) :
    Quiet session (session.sealControl platform).2 := by
  rcases sealed : platform.outbound.write session.tx
      (session.controlTx.drop session.txOffset) with ⟨result, used, tx⟩
  have within := platform.outbound.write_le session.tx (session.controlTx.drop session.txOffset)
  rw [sealed, List.length_drop] at within
  change used ≤ _ at within
  have fits : session.plain.Sound → session.txOffset + used ≤ session.controlTx.length := by
    intro sound
    rcases sound.control with ⟨none, _⟩ | ⟨_, bounded⟩
    · exact absurd none queued
    change session.txOffset < session.controlTx.length at bounded
    omega
  simp only [sealControl, sealed]
  split
  · next same =>
    cases same
    split
    · next complete =>
      exact ⟨rfl, rfl, rfl, rfl, fun sound =>
        ⟨(sound.sealControl queued (fits sound)).1 complete,
          Plain.beginning_prefix _ _ _ _, List.prefix_append _ _⟩⟩
    · next partly =>
      exact ⟨rfl, rfl, rfl, rfl, fun sound =>
        ⟨(sound.sealControl queued (fits sound)).2 partly,
          Plain.beginning_prefix _ _ _ _, List.prefix_append _ _⟩⟩
  · exact ⟨rfl, rfl, rfl, rfl, .refl⟩
  · exact ⟨rfl, rfl, rfl, rfl, .refl⟩

variable {xtcp : Xtcp.Controller}

theorem sealXtcp_quiet (present : session.xtcp = some xtcp)
    (idle : session.controlTx = []) (registered : session.phase = .registered) :
    Quiet session (session.sealXtcp platform xtcp (xtcp.output.drop xtcp.outputOffset)).2 := by
  rcases sealed : platform.outbound.write session.tx
      ((xtcp.output.drop xtcp.outputOffset).take controlBytes) with
    ⟨result, used, tx⟩
  have within := platform.outbound.write_le session.tx
    ((xtcp.output.drop xtcp.outputOffset).take controlBytes)
  rw [sealed, List.length_take, List.length_drop] at within
  change used ≤ _ at within
  have piece : ((xtcp.output.drop xtcp.outputOffset).take controlBytes).take used =
      (xtcp.output.drop xtcp.outputOffset).take used := by
    rw [List.take_take, min_eq_left (within.trans (min_le_left _ _))]
  have outbox : session.plain.outbox = some (xtcp.output, xtcp.outputOffset, xtcp.encoded) :=
    congrArg (Option.map Xtcp.Controller.outbox) present
  have isRegistered : session.plain.registered = true := beq_iff_eq.mpr registered
  simp only [sealXtcp, sealed]
  split
  · next same =>
    cases same
    refine ⟨rfl, rfl, rfl, by simp [present], fun sound => ?_⟩
    have bounded : xtcp.outputOffset + used ≤ xtcp.output.length := by
      have limit := within.trans (min_le_right _ _)
      rcases sound.signal with ⟨none, zero⟩ | ⟨_, some⟩
      · rw [Plain.output, outbox] at none
        rw [Plain.taken, outbox] at zero
        change xtcp.output = [] at none
        change xtcp.outputOffset = 0 at zero
        rw [none] at limit ⊢
        omega
      · rw [Plain.taken, Plain.output, outbox] at some
        change xtcp.outputOffset < xtcp.output.length at some
        omega
    obtain ⟨whole, part⟩ := sound.sealSignal idle isRegistered outbox bounded
    rw [← piece] at whole part
    dsimp only [Xtcp.Controller.consumeOutput]
    split
    · next invalid =>
      have unused : used = 0 := by omega
      subst unused
      have nothing := plain_emit present (.refl xtcp) sound
      simpa [accepted, plain] using nothing
    · split
      · next complete =>
        exact ⟨whole complete, Plain.beginning_prefix _ _ _ _, List.prefix_append _ _⟩
      · next partly =>
        exact ⟨part (Nat.lt_of_le_of_ne bounded partly),
          Plain.beginning_prefix _ _ _ _, List.prefix_append _ _⟩
  · exact ⟨rfl, rfl, rfl, rfl, .refl⟩
  · exact ⟨rfl, rfl, rfl, rfl, .refl⟩

/-- The output that a registered session gets from its controller. -/
theorem xtcpOutput_ok {running reached : Running Net Sys Peer Rx Tx}
    (asked : xtcpOutput platform running = (.ok, bytes, reached)) :
    reached.1.phase = .registered ∧ reached.1.controlTx = running.1.controlTx ∧
      ∃ xtcp, reached.1.xtcp = some xtcp ∧ bytes = xtcp.output.drop xtcp.outputOffset := by
  dsimp only [xtcpOutput] at asked
  split at asked
  · next registered =>
    dsimp only [Xtcp.Controller.xtcpOutput] at asked
    split at asked
    · cases asked
    split at asked
    · split at asked
      · cases asked
      cases asked
      exact ⟨registered, rfl, _, rfl, rfl⟩
    · next bad _ =>
      simp only [Prod.mk.injEq] at asked
      exact absurd asked.1 bad
  · cases asked

/-- A controller without output has no frame in progress. -/
theorem xtcpOutput_none {running reached : Running Net Sys Peer Rx Tx}
    (asked : xtcpOutput platform running = (.wouldBlock, bytes, reached)) :
    reached.1.controlTx = running.1.controlTx ∧
      (reached.1.plain.Sound → reached.1.plain.taken = 0) := by
  obtain ⟨session, world⟩ := running
  dsimp only [xtcpOutput] at asked
  split at asked
  · next xtcp registered present =>
    rcases outcome : xtcp.xtcpOutput platform.xtcp world.sys with ⟨result, output, next, sys⟩
    rw [outcome] at asked
    cases asked
    refine ⟨rfl, fun sound => ?_⟩
    have empty := Xtcp.Controller.xtcpOutput_blocked platform.xtcp outcome
    rcases sound.signal with ⟨_, none⟩ | ⟨_, bounded⟩
    · exact none
    change next.outputOffset < next.output.length at bounded
    rw [empty] at bounded
    cases bounded
  · next unregistered =>
    cases asked
    refine ⟨rfl, fun sound => ?_⟩
    apply Nat.eq_zero_of_not_pos
    intro started
    have registered := beq_iff_eq.mp (sound.apart started).2
    cases present : session.xtcp with
    | none =>
      have none : session.plain.taken = 0 := by simp [Plain.taken, plain, present]
      rw [none] at started
      cases started
    | some xtcp => exact unregistered xtcp present registered

theorem sealNext_quiet : Quiet running.1 (sealNext platform running).2.1 := by
  have asked := xtcpOutput_quiet platform running
  dsimp only [sealNext]
  split
  · next queued => exact sealControl_quiet platform running.1 queued
  · next idle =>
    have empty : running.1.controlTx = [] := by simpa using idle
    rcases outcome : xtcpOutput platform running with ⟨result, bytes, session, world⟩
    rw [outcome] at asked
    split
    · next same =>
      cases same
      obtain ⟨registered, kept, _, present, rfl⟩ := xtcpOutput_ok platform outcome
      split
      · exact asked
      · next found =>
        have same := found.symm.trans present
        cases same
        exact asked.trans (sealXtcp_quiet platform session present (kept.trans empty) registered)
    · next same => cases same; exact asked
    · next same => cases same; exact asked

theorem controlOutput_quiet : Quiet running.1 (controlOutput platform running).2.1 := by
  dsimp only [controlOutput]
  split
  · exact writeLogin_quiet platform running
  split
  · split <;> exact ⟨rfl, rfl, rfl, rfl, .refl⟩
  · exact sealNext_quiet platform running
  · exact .refl _

theorem stepService_quiet : Quiet running.1 (stepService platform now seconds running).2.1 := by
  dsimp only [stepService]
  split
  · exact .refl _
  split
  · next present =>
    split
    · exact .refl _
    exact ⟨rfl, rfl, rfl, by simp [present], plain_emit present
        (Xtcp.Controller.step_moves platform.xtcp _ _ _ _ _ _).1⟩
  · split
    · split <;> exact ⟨rfl, rfl, rfl, rfl, .refl⟩
    · exact ⟨rfl, rfl, rfl, rfl, .refl⟩

theorem stepTransport_quiet : Quiet running.1 (stepTransport platform now running).2.1 := by
  dsimp only [stepTransport]
  split <;> exact ⟨rfl, rfl, rfl, rfl, .refl⟩

theorem checkDeadlines_quiet : Quiet running.1 (checkDeadlines now running).2.1 := by
  dsimp only [checkDeadlines]
  repeat' split
  all_goals exact ⟨rfl, rfl, rfl, rfl, .refl⟩

theorem checkEof_quiet : Quiet running.1 (checkEof platform running).2.1 := by
  dsimp only [checkEof]
  split
  · exact .refl _
  split
  · split
    · exact .refl _
    split
    · exact ⟨rfl, rfl, rfl, rfl, .refl⟩
    · split
      · refine Quiet.trans ?_ (controlFinish_quiet platform _)
        exact ⟨rfl, rfl, rfl, rfl, .refl⟩
      · exact ⟨rfl, rfl, rfl, rfl, .refl⟩
      · exact ⟨rfl, rfl, rfl, rfl, .refl⟩
    · exact ⟨rfl, rfl, rfl, rfl, .refl⟩
  · exact .refl _

/-! ## The eventful parts -/

@[simp]
theorem note_history (event : Event) : (session.note event).history = session.history ++ [event] :=
  rfl

/-- What the history says of the machine after one more event. -/
theorem protocol_grown {session next : Session Rx Tx}
    (grown : next.history = session.history ++ [event]) :
    next.protocol.started = (session.protocol.started || event.isStart) ∧
      next.protocol.starting = event.isStart ∧
      next.protocol.refused = (session.protocol.refused || refusal event) := by
  refine ⟨?_, ?_, ?_⟩ <;> dsimp only [protocol] <;> rw [grown]
  · simp
  · simp
  · simp

section

variable {session next : Session Rx Tx} (ready : session.protocol.Free)
  (grown : next.history = session.history ++ [event])
  (plain : event.isStart = false) (kept : refusal event = false)
include ready grown plain kept

/-- An ordinary event: neither a start nor a refusal. -/
theorem protocol_ordinary : next.protocol.started = session.protocol.started ∧
      next.protocol.starting = session.protocol.starting ∧
      next.protocol.refused = session.protocol.refused := by
  obtain ⟨started, starting, refused⟩ := protocol_grown grown
  refine ⟨?_, ?_, ?_⟩
  · rw [started, plain, Bool.or_false]
  · rw [starting, plain, ready.settled]
  · rw [refused, kept, Bool.or_false]

/-- The machine after one ordinary event, up to the fields that the event
changes. -/
theorem protocol_noted : next.protocol =
      { session.protocol with
        kind := next.kind
        phase := next.phase
        proxyQueued := next.proxyQueued
        pingPending := next.pingPending
        pongs := next.pongs } := by
  obtain ⟨started, starting, refused⟩ := protocol_ordinary ready grown plain kept
  exact Protocol.ext rfl rfl rfl rfl rfl started starting refused

end

/-- A stage that adds one ordinary event. -/
theorem Moves.ordinary {session next : Session Rx Tx} {event : Event} (ready : Ready session)
    (result : Result) (grown : next.history = session.history ++ [event])
    (plain : event.isStart = false) (kept : refusal event = false)
    (step : Protocol.Step session.protocol event
      { session.protocol with
        kind := next.kind
        phase := next.phase
        proxyQueued := next.proxyQueued
        pingPending := next.pingPending
        pongs := next.pongs })
    (live : next.phase.live = true) (keeps : Keeps session next) :
    Moves result session next := by
  obtain ⟨_, starting, refused⟩ := protocol_ordinary ready.free grown plain kept
  rw [← protocol_noted ready.free grown plain kept] at step
  refine ⟨.event grown step keeps, ?_, live, ?_⟩
  · rw [starting]
    exact ready.free.settled
  · intro _
    rw [refused]
    exact ready.free.trusted

omit platform in
/-- The text of a frame that an encoder gave. -/
theorem bind_frame {type : UInt8} {text : Except Work.EncodeError (List UInt8)} {frame : List UInt8}
    (queued : (text.mapError Work.EncodeError.result >>=
      fun text => Wire.messageFrame type text) = .ok frame) :
    ∃ text, Wire.messageFrame type text = .ok frame := by
  cases text with
  | error => cases queued
  | ok text => exact ⟨text, queued⟩

theorem queueDue_moves (ready : Ready running.1) (idle : running.1.controlTx = [])
    (untaken : running.1.plain.Sound → running.1.plain.taken = 0) :
    Moves (queueDue platform seconds running).1 running.1
      (queueDue platform seconds running).2.1 := by
  have nothing := fun result => (Quiet.refl running.1).moves ready result
  dsimp only [queueDue, queueProxy, queuePing]
  split
  · next due =>
    split
    · exact nothing _
    split
    · exact nothing _
    · next frame queued _ =>
      obtain ⟨_, framed⟩ := bind_frame queued
      exact Moves.ordinary ready _ (note_history running.1 (.proxyQueued frame)) rfl rfl
        (.proxyQueued ready.free due.1 (by simpa [protocol] using due.2)) ready.live
        ⟨rfl, rfl, plain_queue (note_history running.1 (.proxyQueued frame)) rfl
          rfl idle untaken (by decide) framed⟩
  split
  · next due =>
    split
    · exact nothing _
    split
    · exact nothing _
    · next frame queued _ =>
      obtain ⟨_, framed⟩ := bind_frame queued
      exact Moves.ordinary ready _ (note_history running.1 (.pingQueued frame)) rfl rfl
        (.pingQueued ready.free due.1 (by simpa [protocol] using due.2.1)) ready.live
        ⟨rfl, rfl, plain_queue (note_history running.1 (.pingQueued frame)) rfl
          rfl idle untaken (by decide) framed⟩
  · exact nothing _

theorem Moves.after {session middle next : Session Rx Tx} {result : Result}
    (quiet : Quiet session middle) (moves : Moves result middle next) : Moves result session next :=
  ⟨quiet.follows.trans moves.follows, moves.settled, moves.live, moves.trusted⟩

variable {result last : Result}

theorem Moves.before {session middle next : Session Rx Tx} (moves : Moves .ok session middle)
    (rest : Moves last middle next) (_ : result = last) : Moves result session next := by
  subst result
  exact ⟨moves.follows.trans rest.follows, rest.settled, rest.live, rest.trusted⟩

theorem prepareControl_moves (ready : Ready running.1) :
    Moves (prepareControl platform seconds running).1 running.1
      (prepareControl platform seconds running).2.1 := by
  have asked := xtcpOutput_quiet platform running
  dsimp only [prepareControl]
  split
  · exact (Quiet.refl _).moves ready _
  · next busy =>
    have empty : running.1.controlTx = [] := by
      by_contra queued
      exact busy (.inl queued)
    rcases outcome : xtcpOutput platform running with ⟨result, bytes, session, world⟩
    rw [outcome] at asked
    have still := (asked.moves ready .ok).ready ready
    split
    · next same =>
      cases same
      obtain ⟨kept, untaken⟩ := xtcpOutput_none platform outcome
      exact (queueDue_moves platform seconds _ still (kept.trans empty) untaken).after asked
    · next same => cases same; exact asked.moves ready _

/-! ## Messages -/

/-- What a refused message may not change. -/
structure Untouched (session next : Session Rx Tx) : Prop where
  quiet : Quiet session next
  address : next.remoteAddress = session.remoteAddress
  requests : next.work.group.status = session.work.group.status
  signals : next.xtcp.map Xtcp.Controller.pendingRequests =
    session.xtcp.map Xtcp.Controller.pendingRequests

theorem Untouched.refl : Untouched session session := ⟨.refl session, rfl, rfl, rfl⟩

/-- A message is accepted in order, or has no effect. -/
inductive Judged : Result → Session Rx Tx → Session Rx Tx → Prop where
  | accepted {session next} (moves : Moves .ok session next) : Judged .ok session next
  | refused {result session next} (error : result ≠ .ok) (untouched : Untouched session next) :
      Judged result session next

theorem acceptRegistration_judged (ready : Ready running.1)
    (phase : running.1.phase = .registering) (queued : running.1.proxyQueued = true) :
    Judged (acceptRegistration platform root running).1 running.1
      (acceptRegistration platform root running).2.1 := by
  dsimp only [acceptRegistration]
  split
  · next error address _ _ =>
    split
    · exact .refused (by simp) (.refl _)
    split
    · exact .refused (by simp) (.refl _)
    split
    · exact .refused (by simp) (.refl _)
    generalize (if address = [] then (true, running.2.sys)
      else platform.work.os.allocate running.2.sys) = allocation
    split
    · exact .accepted (Moves.ordinary ready _ (note_history running.1 (.registered address)) rfl rfl
        (.registered ready.free phase queued) rfl ⟨rfl, rfl,
        plain_grown (note_history running.1 (.registered address)) rfl rfl fun _ => rfl⟩)
    · exact .refused (by simp) (.refl _)
  · exact .refused (by simp) (.refl _)

theorem acceptWork_judged (ready : Ready running.1) (provider : running.1.kind.visiting = false)
    (phase : running.1.phase = .registering ∨ running.1.phase = .registered) :
    Judged (acceptWork root running).1 running.1 (acceptWork root running).2.1 := by
  have step : Protocol.Step running.1.protocol .workRequested
      running.1.protocol := .workRequested ready.free provider phase
  have noted := plain_grown (note_history running.1 .workRequested) rfl rfl id
  dsimp only [acceptWork]
  split
  · exact .refused (by simp) (.refl _)
  split
  · next xtcp present =>
    refine .accepted (Moves.ordinary ready _ (note_history running.1 .workRequested) rfl rfl step
      ready.live ⟨rfl, ?_, fun sound => ?_⟩)
    · rw [show running.1.xtcp = _ from present]
      rfl
    · refine (noted sound).trans (plain_emit present (.kept ?_))
      dsimp only [Xtcp.Controller.request]
      split <;> rfl
  · exact .accepted (Moves.ordinary ready _
      (note_history running.1 .workRequested) rfl rfl step ready.live ⟨rfl, rfl, noted⟩)

/-- What the first answer to a heartbeat does to the service. -/
inductive Served (session : Session Rx Tx) : Result → Session Rx Tx → Prop where
  | kept (none : (session.kind.serves && session.pongs == 0) = false) : Served session .ok session
  | started {next} (serves : session.kind.serves = true) (first : session.pongs = 0)
      (grown : next.history = session.history ++ [.serviceStarted])
      (fields : next.kind = session.kind ∧ next.phase = session.phase ∧
        next.proxyQueued = session.proxyQueued ∧
        next.pingPending = session.pingPending ∧
        next.pongs = session.pongs)
      (keeps : Keeps session next) : Served session .ok next
  | failed {error next} (bad : error ≠ .ok)
      (untouched : Untouched session next) : Served session error next

omit platform in
/-- Starting the listener of a visitor records no request. -/
theorem visitStart_status (os : Local.Os Sys) (set : Work.Set) (sys : Sys) :
    (set.visitStart os sys).2.1.group.status = set.group.status := by
  dsimp only [Work.Set.visitStart]
  split
  · rfl
  · split <;> rfl

omit platform in
/-- Starting a controller records no request. -/
theorem start_pendingRequests (os : Local.Os Sys) (xtcp : Xtcp.Controller) (sys : Sys) :
    (xtcp.start os sys).2.1.pendingRequests = xtcp.pendingRequests := by
  dsimp only [Xtcp.Controller.start]
  split
  · rfl
  · split <;> rfl

omit platform in
theorem start_outbox (os : Local.Os Sys) (xtcp : Xtcp.Controller)
    (sys : Sys) : (xtcp.start os sys).2.1.outbox = xtcp.outbox := by
  dsimp only [Xtcp.Controller.start]
  split
  · rfl
  · split <;> rfl

theorem startService_served (ready : Ready running.1) :
    Served running.1 (startService platform running).1 (startService platform running).2.1 := by
  obtain ⟨session, world⟩ := running
  have present := ready.xtcp
  dsimp only [startService]
  split
  · next later => exact .kept (by simp [later])
  · next first =>
    have zero : session.pongs = 0 := by simpa using first
    split
    · next visitor =>
      have status := visitStart_status platform.work.os session.work world.sys
      revert status
      generalize session.work.visitStart platform.work.os world.sys = answer
      rcases answer with ⟨result, work, sys⟩
      intro status
      split
      · next same =>
        cases same
        exact .started (by rw [visitor]; rfl) zero rfl ⟨rfl, rfl, rfl, rfl, rfl⟩ ⟨rfl, rfl,
          plain_grown (note_history session .serviceStarted) rfl rfl id⟩
      · next bad same =>
        cases same
        exact .failed bad ⟨⟨rfl, rfl, rfl, rfl, .refl⟩, rfl, status, rfl⟩
    · next other =>
      split
      · next none =>
        rw [none] at present
        refine .kept ?_
        cases kind : session.kind with
        | provider => rfl
        | visitor => exact absurd kind other
        | xtcpProvider | xtcpVisitor =>
          rw [kind] at present
          cases present
      · next xtcp some =>
        rw [some] at present
        have serves : session.kind.serves = true := by
          cases kind : session.kind with
          | provider => rw [kind] at present; cases present
          | visitor | xtcpProvider | xtcpVisitor => rfl
        have requests := start_pendingRequests platform.work.os xtcp world.sys
        have output := start_outbox platform.work.os xtcp world.sys
        revert requests output
        generalize xtcp.start platform.work.os world.sys = answer
        rcases answer with ⟨result, started, sys⟩
        intro requests output
        split
        · next same =>
          cases same
          refine .started serves zero rfl ⟨rfl, rfl, rfl, rfl, rfl⟩ ⟨rfl, by simp [some],
            fun sound => ?_⟩
          have noted := plain_grown (note_history session .serviceStarted) rfl rfl id sound
          exact noted.trans (plain_emit some (.kept output))
        · next bad same =>
          cases same
          refine .failed bad ⟨⟨rfl, rfl, rfl, by simp [some],
              plain_emit some (.kept output)⟩, rfl, rfl, ?_⟩
          simpa [some] using requests

omit platform in
/-- The answer that a started service waits for. -/
theorem Served.pong {session served next : Session Rx Tx}
    (service : Served session .ok served) (ready : Ready session)
    (phase : session.phase = .registered)
    (pending : session.pingPending = true)
    (grown : next.history = served.history ++ [.pong])
    (fields : next.kind = served.kind ∧ next.phase = served.phase ∧
      next.proxyQueued = served.proxyQueued)
    (answered : next.pingPending = false)
    (counted : next.pongs = served.pongs + 1) (keeps : Keeps served next) :
    Moves .ok session next := by
  obtain ⟨started, starting, refused⟩ := protocol_grown grown
  obtain ⟨sameKind, samePhase, sameQueued⟩ := fields
  have reached : next.protocol =
      { served.protocol with
        pingPending := false
        pongs := served.pongs + 1
        starting := false } :=
    Protocol.ext sameKind samePhase sameQueued answered counted
      (started.trans (Bool.or_false _)) starting
      (refused.trans (Bool.or_false _))
  cases service with
  | kept none =>
    have step : Protocol.Step session.protocol .pong next.protocol := by
      rw [reached]
      exact .pong ready.free.trusted phase pending (ready.free.settled.trans none.symm)
    refine ⟨.event grown step keeps, starting, ?_, fun _ => ?_⟩
    · rw [samePhase]
      exact ready.live
    · rw [refused]
      exact (Bool.or_false _).trans ready.free.trusted
  | failed bad => exact absurd rfl bad
  | started serves first begun same before =>
    obtain ⟨isStarted, isStarting, isRefused⟩ := protocol_grown begun
    obtain ⟨servedKind, servedPhase, servedQueued, servedPending, servedPongs⟩ := same
    have unstarted : session.protocol.started = false := by
      rw [ready.coherent.service, ready.free.settled]
      simp [protocol, first]
    have trusted := isRefused.trans ((Bool.or_false _).trans ready.free.trusted)
    have servedState : served.protocol =
        { session.protocol with started := true, starting := true } :=
      Protocol.ext servedKind servedPhase servedQueued servedPending
        servedPongs (isStarted.trans (Bool.or_true _)) isStarting
        (isRefused.trans (Bool.or_false _))
    have start : Protocol.Step session.protocol .serviceStarted
        served.protocol := by
      rw [servedState]
      exact .serviceStarted ready.free serves phase pending first unstarted
    have answer : Protocol.Step served.protocol .pong next.protocol := by
      rw [reached]
      refine .pong trusted (servedPhase.trans phase) (servedPending.trans pending) ?_
      rw [isStarting]
      change true = (served.kind.serves && served.pongs == 0)
      rw [servedKind, serves, servedPongs, first]
      rfl
    have followed : Follows session served := .event begun start before
    refine ⟨followed.trans (.event grown answer keeps), starting, ?_, fun _ => ?_⟩
    · rw [samePhase, servedPhase]
      exact ready.live
    · rw [refused]
      exact (Bool.or_false _).trans trusted

theorem acceptPong_judged (ready : Ready running.1) (phase : running.1.phase = .registered)
    (pending : running.1.pingPending = true) :
    Judged (acceptPong platform root running).1 running.1
      (acceptPong platform root running).2.1 := by
  dsimp only [acceptPong]
  split
  · split
    · exact .refused (by simp) (.refl _)
    split
    · exact .refused (by simp) (.refl _)
    have service := startService_served platform running ready
    revert service
    generalize startService platform running = answer
    rcases answer with ⟨result, served, world⟩
    intro service
    split
    · next same =>
      cases same
      exact .accepted (service.pong ready phase pending rfl ⟨rfl, rfl, rfl⟩ rfl rfl
        ⟨rfl, rfl, plain_grown (note_history served .pong) rfl rfl id⟩)
    · next bad same =>
      cases same
      cases service with
      | kept | started => exact (bad _ _ rfl rfl).elim
      | failed error untouched => exact .refused error untouched
  · exact .refused (by simp) (.refl _)

omit platform in
/-- An answer with an error leaves the controller as it was. -/
theorem response_error (signalling : Xtcp.Platform Net Sys Peer) (xtcp : Xtcp.Controller)
    (frame : Wire.Kind) (payload : List UInt8) (now : Nat) (seconds : Int)
    (world : Xtcp.World Net Sys Peer)
    (error : (xtcp.response signalling frame payload now seconds world).1 ≠ .ok) :
    (xtcp.response signalling frame payload now seconds world).2.1 = xtcp := by
  revert error
  dsimp only [Xtcp.Controller.response]
  split
  · split
    · exact fun _ => rfl
    split
    · exact fun _ => rfl
    split
    · exact fun error => absurd rfl error
    · exact fun error => absurd rfl error
  · exact fun _ => rfl

theorem acceptSignal_judged (ready : Ready running.1)
    (present : running.1.xtcp = some xtcp) (phase : running.1.phase = .registered) :
    Judged (acceptSignal platform xtcp frame payload running).1 running.1
      (acceptSignal platform xtcp frame payload running).2.1 := by
  obtain ⟨session, world⟩ := running
  have kind : session.kind.xtcp = true := by
    rw [← ready.xtcp, present]
    rfl
  have kept := response_error platform.xtcp xtcp frame payload session.now session.unixSeconds world
  have output := congrArg Prod.fst (Xtcp.Controller.response_held
    platform.xtcp xtcp frame payload session.now session.unixSeconds world)
  revert kept output
  dsimp only [acceptSignal]
  generalize xtcp.response platform.xtcp frame payload session.now
    session.unixSeconds world = answer
  rcases answer with ⟨result, changed, reached⟩
  intro kept output
  split
  · next same =>
    cases same
    refine .accepted (Moves.ordinary ready _ (note_history session .answered) rfl rfl
      (.answered ready.free kind phase) ready.live ⟨rfl, ?_, fun sound => ?_⟩)
    · rw [show session.xtcp = some xtcp from present]
      rfl
    · have noted := plain_grown (note_history session .answered) rfl rfl id sound
      exact noted.trans (plain_emit present (.kept output))
  · next bad same =>
    cases same
    have error : result ≠ .ok := bad
    have same : changed = xtcp := kept error
    subst same
    have there : session.xtcp = some changed := present
    exact .refused error ⟨⟨rfl, rfl, rfl, by simp [there], plain_emit there (.refl _)⟩,
        rfl, rfl, by simp [there]⟩

theorem dispatch_judged (ready : Ready running.1) :
    Judged (dispatch platform payload running).1 running.1
      (dispatch platform payload running).2.1 := by
  dsimp only [dispatch]
  split
  · next order => exact acceptRegistration_judged platform _ running ready order.2.1 order.2.2
  split
  · next order => exact acceptPong_judged platform _ running ready order.2.1 order.2.2
  split
  · next order => exact acceptWork_judged _ running ready (by simpa using order.2.1) order.2.2
  · exact .refused (by simp) (.refl _)

theorem judge_judged (ready : Ready running.1) :
    Judged (judge platform frame payload running).1 running.1
      (judge platform frame payload running).2.1 := by
  dsimp only [judge]
  split
  · exact .refused (by simp) (.refl _)
  split
  · next present =>
    split
    · next order => exact acceptSignal_judged platform frame payload running ready present order.2
    · exact dispatch_judged platform payload running ready
  · exact dispatch_judged platform payload running ready

/-! ## Input -/

omit platform in
theorem Moves.refl {session : Session Rx Tx} (ready : Ready session) : Moves .ok session session :=
  (Quiet.refl session).moves ready .ok

omit platform in
/-- A refused message is recorded, and nothing of it is taken over. -/
structure Refuses (session next : Session Rx Tx) : Prop where
  moves : Moves .callbackRejected session next
  last : ∃ payload, next.history = session.history ++ [.refused payload]
  address : next.remoteAddress = session.remoteAddress
  pongs : next.pongs = session.pongs
  requests : next.work.group.status = session.work.group.status
  signals : next.xtcp.map Xtcp.Controller.pendingRequests =
    session.xtcp.map Xtcp.Controller.pendingRequests

variable {payload : List UInt8}

omit platform in
/-- The record of a refused message. -/
theorem Refuses.noted {session next : Session Rx Tx} (ready : Ready session)
    (grown : next.history = session.history ++ [.refused payload])
    (fields : next.kind = session.kind ∧ next.phase = session.phase ∧
      (next.proxyQueued, next.pingPending, next.pongs, next.remoteAddress) =
        (session.proxyQueued, session.pingPending, session.pongs, session.remoteAddress))
    (standing : next.standing = session.standing)
    (work : next.work = session.work) (xtcp : next.xtcp = session.xtcp)
    (plain : session.plain.Sound → Plain.Wrote session.plain next.plain) :
    Refuses session next := by
  obtain ⟨started, starting, refused⟩ := protocol_grown grown
  obtain ⟨kind, phase, rest⟩ := fields
  obtain ⟨queued, pending, pongs, address⟩ : next.proxyQueued = session.proxyQueued ∧
        next.pingPending = session.pingPending ∧ next.pongs = session.pongs ∧ next.remoteAddress =
        session.remoteAddress := by
    simpa using rest
  have reached : next.protocol = { session.protocol with refused := true } :=
    Protocol.ext kind phase queued pending pongs (started.trans (Bool.or_false _))
      (starting.trans ready.free.settled.symm)
      (refused.trans (Bool.or_true _))
  have step : Protocol.Step session.protocol (.refused payload)
      next.protocol := by
    rw [reached]
    exact .refused ready.free ready.live
  refine ⟨⟨.event grown step ⟨standing, by rw [xtcp], plain⟩, starting, ?_, ?_⟩,
    ⟨payload, grown⟩, address, pongs, by rw [work], by rw [xtcp]⟩
  · rw [phase]
    exact ready.live
  · intro impossible
    cases impossible

omit platform in
/-- The judgement before the record takes nothing over either. -/
theorem Refuses.after {session middle next : Session Rx Tx} (refuses : Refuses middle next)
    (untouched : Untouched session middle) : Refuses session next := by
  obtain ⟨moves, ⟨payload, last⟩, address, pongs, requests, signals⟩ := refuses
  refine ⟨moves.after untouched.quiet, ⟨payload, ?_⟩, address.trans untouched.address,
    pongs.trans (congrArg Protocol.pongs untouched.quiet.protocol),
    requests.trans untouched.requests, signals.trans untouched.signals⟩
  rw [last, untouched.quiet.history]

theorem acceptControl_judged {running next : Running Net Sys Peer Rx Tx} {taken : Bool}
    {frame : Wire.Kind} (ready : Ready running.1)
    (answer : acceptControl platform running frame payload = (taken, next)) :
    (taken = true → Moves .ok running.1 next.1) ∧ (taken = false → Refuses running.1 next.1) := by
  have judged := judge_judged platform frame payload running ready
  revert judged answer
  dsimp only [acceptControl]
  generalize judge platform frame payload running = outcome
  rcases outcome with ⟨result, session, world⟩
  intro answer judged
  split at answer
  · next good =>
    cases answer
    cases judged with
    | accepted moves =>
      obtain ⟨⟨run, standing, controller, plain⟩, settled, live, trusted⟩ := moves
      exact ⟨fun _ => ⟨⟨run, standing, controller, plain⟩, settled, live, trusted⟩, by simp⟩
    | refused error => exact absurd good error
  · next error =>
    cases answer
    cases judged with
    | accepted => exact absurd rfl error
    | refused _ untouched =>
      have still := (untouched.quiet.moves ready .ok).ready ready
      have noted : Refuses session
          ({ session with frameError := result }.note (.refused payload)) :=
        .noted still rfl ⟨rfl, rfl, rfl⟩ rfl rfl rfl
          (plain_grown (note_history session (.refused payload)) rfl rfl id)
      exact ⟨by simp, fun _ => noted.after untouched⟩

theorem takePlaintext_handled (plain : List UInt8) (running : Running Net Sys Peer Rx Tx) :
    Wire.Reader.Handled (fun first second : Running Net Sys Peer Rx Tx =>
        Ready first.1 → Moves .ok first.1 second.1)
      (fun first second => Ready first.1 → Refuses first.1 second.1)
      (running.1.frames.feed (acceptControl platform) running plain).1
      running
      (running.1.frames.feed (acceptControl platform) running plain).2.2.2 := by
  refine Wire.Reader.feedAll_handled ?_ ?_ ?_ ?_ false _ _ _
  · intro state frame payload next answer ready
    exact (acceptControl_judged platform ready answer).1 rfl
  · intro state frame payload next answer ready
    exact (acceptControl_judged platform ready answer).2 rfl
  · intro state ready
    exact .refl ready
  · intro first second third before after ready
    exact (before ready).before (after ((before ready).ready ready)) rfl

omit platform in
theorem Moves.then {session middle next : Session Rx Tx} (moves : Moves result session middle)
    (quiet : Quiet middle next) (errors : last = .ok → result = .ok) : Moves last session next where
  follows := moves.follows.trans quiet.follows
  settled := by
    rw [quiet.protocol]
    exact moves.settled
  live := by
    have phase : next.phase = middle.phase := congrArg Protocol.phase quiet.protocol
    rw [phase]
    exact moves.live
  trusted good := by
    rw [quiet.protocol]
    exact moves.trusted (errors good)

theorem takePlaintext_moves (plain : List UInt8)
    (running : Running Net Sys Peer Rx Tx) (ready : Ready running.1) :
    Moves (takePlaintext platform plain running).1 running.1
      (takePlaintext platform plain running).2.1 := by
  have handled := takePlaintext_handled platform plain running
  revert handled
  dsimp only [takePlaintext]
  generalize running.1.frames.feed (acceptControl platform) running plain = outcome
  rcases outcome with ⟨result, used, frames, session, world⟩
  intro handled
  split
  · next error =>
    have failing : ∀ reason : Result, (if reason ≠ .ok then reason else result) = .ok → False := by
      intro reason good
      split at good
      · next bad => exact bad good
      · exact error good
    cases handled with
    | accepted related =>
      exact (related ready).then ⟨rfl, rfl, rfl, rfl, .refl⟩ fun good => (failing _ good).elim
    | refused related last =>
      have moved := related ready
      have refused := (last (moved.ready ready)).moves
      exact (moved.before refused rfl).then ⟨rfl, rfl, rfl, rfl, .refl⟩
        fun good => (failing _ good).elim
  · next good =>
    have fine : result = .ok := by simpa using good
    subst fine
    cases handled with
    | accepted related => exact (related ready).then ⟨rfl, rfl, rfl, rfl, .refl⟩ fun _ => rfl

theorem adoptControlId_quiet : Quiet session session.adoptControlId.2 := by
  dsimp only [adoptControlId]
  split
  · exact .refl _
  · next present =>
    split
    · exact .refl _
    refine ⟨rfl, rfl, rfl, by simp [present], plain_emit present (.kept ?_)⟩
    dsimp only [Xtcp.Controller.setControlId]
    split
    · rfl
    · split <;> rfl

theorem startRecords_quiet (keys : Option Binding.Keys) :
    Quiet session (session.startRecords platform keys).2 := by
  dsimp only [startRecords]
  split <;> exact ⟨rfl, rfl, rfl, rfl, .refl⟩

omit platform in
/-- The login is over. -/
theorem Moves.loggedIn {session next : Session Rx Tx}
    (ready : Ready session) (phase : session.phase = .authenticating)
    (grown : next.history = session.history ++ [.loggedIn])
    (fields : next.kind = session.kind ∧ next.phase = session.kind.loggedIn ∧
      (next.proxyQueued, next.pingPending, next.pongs) =
        (session.proxyQueued, session.pingPending, session.pongs))
    (keeps : Keeps session next) : Moves .ok session next := by
  obtain ⟨kind, reachedPhase, rest⟩ := fields
  obtain ⟨queued, pending, pongs⟩ : next.proxyQueued = session.proxyQueued ∧ next.pingPending =
        session.pingPending ∧ next.pongs = session.pongs := by
    simpa using rest
  refine Moves.ordinary ready .ok grown rfl rfl ?_ ?_ keeps
  · rw [kind, reachedPhase, queued, pending, pongs]
    exact .loggedIn ready.free phase
  · rw [reachedPhase, Kind.loggedIn]
    split <;> rfl

theorem finishLogin_moves (ready : Ready session) (phase : session.phase = .authenticating) :
    Moves (session.finishLogin platform).1 session (session.finishLogin platform).2 := by
  have adopting := adoptControlId_quiet session
  revert adopting
  dsimp only [finishLogin]
  generalize session.adoptControlId = adoption
  rcases adoption with ⟨result, adopted⟩
  intro adopting
  split
  · next same =>
    cases same
    have still := (adopting.moves ready .ok).ready ready
    have authenticating : adopted.phase = .authenticating :=
      (congrArg Protocol.phase adopting.protocol).trans phase
    split
    · next error handshake _ =>
      have dropped : Quiet adopted { adopted with handshake := handshake } :=
        ⟨rfl, rfl, rfl, rfl, .refl⟩
      exact (adopting.trans dropped).moves ready error
    · next keys runId _ _ =>
      have starting := startRecords_quiet platform
        { adopted with
          runId := runId
          handshake := {}
          controlReady := true } keys
      revert starting
      generalize startRecords platform
        { adopted with
          runId := runId
          handshake := {}
          controlReady := true } keys = records
      rcases records with ⟨result, opened⟩
      intro starting
      have taken : Quiet adopted
          { adopted with
            runId := runId
            handshake := {}
            controlReady := true } := ⟨rfl, rfl, rfl, rfl, .refl⟩
      have quiet := taken.trans starting
      have open_ := (quiet.moves still .ok).ready still
      have waiting : opened.phase = .authenticating :=
        (congrArg Protocol.phase quiet.protocol).trans authenticating
      split
      · next same =>
        cases same
        refine Moves.after (adopting.trans quiet) ?_
        split
        all_goals
          next visiting =>
            exact .loggedIn open_ waiting rfl
              ⟨rfl, by simpa [protocol, Kind.loggedIn, note] using visiting, rfl⟩ ⟨rfl, rfl,
                plain_grown (note_history opened .loggedIn) rfl rfl
                  (by rw [waiting]; intro other; cases other)⟩
      · next same =>
        cases same
        exact (adopting.trans quiet).moves ready _
  · next same =>
    cases same
    exact adopting.moves ready _

theorem takeBytes_moves (ready : Ready session) :
    Moves (session.takeBytes platform).1 session (session.takeBytes platform).2 := by
  dsimp only [takeBytes]
  split
  · next phase =>
    generalize session.handshake.feed platform.work.parse
      platform.crypto (session.controlRx.drop session.controlOffset) =
      fed
    rcases fed with ⟨result, used, handshake⟩
    generalize earlier : ({ session with
      handshake := handshake
      early := session.early ||
        decide (session.handshake.state = .send) } :
      Session Rx Tx) = middle
    have taken : Quiet session middle := by
      subst earlier
      exact ⟨rfl, rfl, rfl, rfl, .refl⟩
    have still := (taken.moves ready .ok).ready ready
    have waiting : middle.phase = .authenticating :=
      (congrArg Protocol.phase taken.protocol).trans phase
    split
    · exact taken.moves ready _
    split
    · have login := finishLogin_moves platform middle still waiting
      revert login
      generalize middle.finishLogin platform = outcome
      rcases outcome with ⟨result, logged⟩
      intro login
      split
      · next same =>
        cases same
        exact (login.after taken).then (advance_quiet _ _) fun _ => rfl
      · next same =>
        cases same
        exact login.after taken
    · exact (taken.trans (advance_quiet _ _)).moves ready _
  · split
    · refine Quiet.moves ?_ ready _
      exact ⟨rfl, rfl, rfl, rfl, .refl⟩
    refine Quiet.moves (Quiet.trans ?_ (advance_quiet _ _)) ready _
    exact ⟨rfl, rfl, rfl, rfl, .refl⟩

theorem readControl_moves (ready : Ready running.1) :
    Moves (readControl platform running).1 running.1 (readControl platform running).2.1 := by
  dsimp only [readControl]
  split
  · exact takeBytes_moves platform running.1 ready
  split
  · next bytes _ _ =>
    have taken : Quiet running.1 { running.1 with controlRx := bytes, controlOffset := 0 } :=
      ⟨rfl, rfl, rfl, rfl, .refl⟩
    exact (takeBytes_moves platform _ ((taken.moves ready .ok).ready ready)).after taken
  · exact (controlFinish_quiet platform running.1).moves ready _
  · exact (Quiet.refl _).moves ready _
  · exact (Quiet.refl _).moves ready _

theorem controlInput_moves (ready : Ready running.1) :
    Moves (controlInput platform running).1 running.1 (controlInput platform running).2.1 := by
  obtain ⟨session, world⟩ := running
  rcases shown : platform.inbound.plaintext session.rx with ⟨result, plain, rx⟩
  have taken : Quiet session { session with rx := rx } := ⟨rfl, rfl, rfl, rfl, .refl⟩
  have still := (taken.moves ready .ok).ready ready
  simp only [controlInput, shown]
  split
  · exact readControl_moves platform (session, world) ready
  split
  · exact .after taken (takePlaintext_moves platform plain ({ session with rx := rx }, world) still)
  · exact .after taken (readControl_moves platform ({ session with rx := rx }, world) still)
  · exact taken.moves ready _

/-! ## Steps -/

/-- A stage that the order allows. -/
def Orderly (stage : Running Net Sys Peer Rx Tx → Result × Running Net Sys Peer Rx Tx) : Prop :=
  ∀ running, Ready running.1 → Moves (stage running).1 running.1 (stage running).2.1

omit platform in
theorem Orderly.whileOpen (orderly : Orderly stage) : Orderly (whileOpen stage) := by
  intro running ready
  dsimp only [Session.whileOpen]
  split
  · exact (Quiet.refl _).moves ready _
  · exact orderly running ready

theorem turn_orderly : ∀ stage ∈ turn platform now seconds, Orderly stage := by
  intro stage member
  simp only [turn, List.mem_cons, List.not_mem_nil, or_false] at member
  rcases member with rfl | rfl | rfl | rfl | rfl
  · exact controlInput_moves platform
  · exact Orderly.whileOpen (prepareControl_moves platform seconds)
  · exact Orderly.whileOpen fun running ready =>
      (controlOutput_quiet platform running).moves ready _
  · exact Orderly.whileOpen fun running ready =>
      (stepService_quiet platform now seconds running).moves ready _
  exact Orderly.whileOpen fun running ready =>
    (stepTransport_quiet platform now running).moves ready _

theorem stages_orderly : ∀ stage ∈ stages platform now seconds, Orderly stage := by
  intro stage member
  simp only [stages, List.mem_append, List.mem_cons, List.not_mem_nil,
    or_false, List.mem_flatten, List.mem_replicate] at member
  rcases member with ((rfl | rfl | rfl) | ⟨_, ⟨_, rfl⟩, member⟩) | rfl
  · exact fun running ready => (stepTransport_quiet platform now running).moves ready _
  · exact fun running ready => (Quiet.refl running.1).moves ready _
  · exact fun running ready => (checkDeadlines_quiet now running).moves ready _
  · exact turn_orderly platform now seconds stage member
  · exact fun running ready => (checkEof_quiet platform running).moves ready _

/-! ## The end -/

/-- A session that has ended and given up what it held. -/
structure Over (session : Session Rx Tx) : Prop where
  result : session.result ≠ .ok
  dead : session.phase.live = false
  cleared : session.otherCleared = true

/-- What giving up the resources of a session does to its order. -/
structure Cleared (session next : Session Rx Tx) : Prop where
  history : next.history = session.history
  result : next.result = session.result
  cleared : next.otherCleared = true
  protocol : next.protocol =
    { session.protocol with
      pingPending := session.otherCleared && session.pingPending }

theorem clearOther_cleared (sys : Sys) : Cleared session (session.clearOther platform sys).1 := by
  dsimp only [clearOther]
  split
  · next already => exact ⟨rfl, rfl, already, by simp [protocol, already]⟩
  · next before => exact ⟨rfl, rfl, rfl, by simp [protocol, before]⟩

theorem clear_cleared : Cleared running.1 (clear platform running).2.1 := by
  obtain ⟨session, world⟩ := running
  have other : ∀ rx xtcp sys, Cleared session (clearOther platform
        { session with rx := rx, xtcp := xtcp } sys).1 := by
    intro rx xtcp sys
    obtain ⟨history, result, cleared, protocol⟩ :=
      clearOther_cleared platform { session with rx := rx, xtcp := xtcp } sys
    exact ⟨history, result, cleared, protocol⟩
  cases present : session.xtcp with
  | none =>
    obtain ⟨history, result, cleared, protocol⟩ := other
      (platform.inbound.close session.rx).2 none world.sys
    simp only [clear, present]
    exact ⟨history, result, cleared, protocol⟩
  | some xtcp =>
    obtain ⟨history, result, cleared, protocol⟩ := other (platform.inbound.close session.rx).2
      (some xtcp) (xtcp.cancel platform.xtcp session.now world).2.2.sys
    simp only [clear, present]
    split <;> exact ⟨history, result, cleared, protocol⟩

end

end EspFrp.Control.Session
