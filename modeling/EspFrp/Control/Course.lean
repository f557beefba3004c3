import EspFrp.Control.Order

/-!
# The course of a session

Every run of a created session is a run of the abstract machine, which gives
the order of its phases, of its messages and of its end.
-/

namespace EspFrp.Control.Session

variable {Net Sys Peer Rx Tx : Type} (platform : Platform Net Sys Peer Rx Tx)
variable (config : Config) (now : Nat) (result : Result) (running : Running Net Sys Peer Rx Tx)

/-- What was written stays well formed, and a live session finishes what it
has begun. -/
structure Kept (session : Session Rx Tx) : Prop where
  framed : session.plain.Framed
  sound : session.result = .ok → session.plain.Sound

/-- The bytes and the frames of the writer are only added to. -/
structure Writes (session next : Session Rx Tx) : Prop where
  kept : Kept next
  begun : session.begun <+: next.begun
  sent : session.sent <+: next.sent

omit platform in
theorem Writes.trans (before : Writes first second)
    (after : Writes second third) : Writes first third :=
  ⟨after.kept, before.begun.trans after.begun, before.sent.trans after.sent⟩

variable {next session : Session Rx Tx}

omit platform in
theorem Follows.writes (follows : Follows session next)
    (fine : session.result = .ok) (kept : Kept session) : Writes session next :=
  have wrote := follows.keeps.plain (kept.sound fine)
  ⟨⟨wrote.sound.toFramed, fun _ => wrote.sound⟩, wrote.begun, wrote.sent⟩

/-- The machine runs from one state of a session to a later one. -/
structure Advances (session next : Session Rx Tx) : Prop where
  run : ∃ events, next.history = session.history ++ events ∧
    Protocol.Run session.protocol events next.protocol
  state : Ready next ∨ Over next
  writes : Kept session → Writes session next

omit platform in
theorem Advances.after
    (run : ∃ events, middle.history = session.history ++ events ∧
      Protocol.Run session.protocol events middle.protocol)
    (writes : Kept session → Writes session middle)
    (advances : Advances middle next) : Advances session next := by
  obtain ⟨earlier, grown, first⟩ := run
  obtain ⟨⟨later, grownAgain, second⟩, state, after⟩ := advances
  refine ⟨⟨earlier ++ later, ?_, first.append second⟩, state,
    fun kept => (writes kept).trans (after (writes kept).kept)⟩
  rw [grownAgain, grown, List.append_assoc]

omit platform in
/-- Nothing happens any more. -/
theorem Advances.still (history : next.history = session.history)
    (protocol : next.protocol = session.protocol) (state : Ready next ∨ Over next)
    (writes : Kept session → Writes session next) : Advances session next :=
  ⟨⟨[], by rw [history, List.append_nil], protocol ▸ .nil⟩, state, writes⟩

/-- The frames of a session are kept while it gives up its resources. -/
structure Retires (session next : Session Rx Tx) : Prop where
  sent : next.sent = session.sent
  begun : next.begun = session.begun
  framed : session.plain.Framed → next.plain.Framed

omit platform in
theorem Retires.trans (before : Retires first second)
    (after : Retires second third) : Retires first third :=
  ⟨after.sent.trans before.sent, after.begun.trans before.begun,
    fun framed => after.framed (before.framed framed)⟩

omit platform in
theorem Retires.writes (retires : Retires session next) (ended : Over next)
    (kept : Kept session) : Writes session next :=
  ⟨⟨retires.framed kept.framed, fun fine => absurd fine ended.result⟩,
    retires.begun ▸ List.prefix_rfl, retires.sent ▸ List.prefix_rfl⟩

omit platform in
/-- What the controller encoded is known after it is gone. -/
theorem Retires.controller {xtcp : Xtcp.Controller} (present : session.xtcp = some xtcp)
    (remains : next.xtcp = left)
    (known : ∀ some ∈ left, some.encoded = xtcp.encoded)
    (retired : next.retired =
      if left.isNone then xtcp.encoded else session.retired)
    (history : next.history = session.history) (sent : next.sent = session.sent)
    (begun : next.begun = session.begun) : Retires session next := by
  refine ⟨sent, begun, fun framed => framed.keep sent begun ?_ ?_⟩
  · have single : session.retired = [] := framed.single (by simp [plain, present])
    dsimp only [Plain.encoded, Plain.signals, plain]
    rw [history, retired, remains, present, single]
    cases left with
    | none => simp [Xtcp.Controller.outbox]
    | some left => simp [Xtcp.Controller.outbox, known left rfl]
  · intro some
    have single : session.retired = [] := framed.single (by simp [plain, present])
    dsimp only [plain] at some ⊢
    rw [remains] at some
    rw [retired, single]
    cases left with
    | none => cases some
    | some => rfl

omit platform in
theorem Retires.bare (xtcp : next.xtcp = session.xtcp) (retired : next.retired = session.retired)
    (history : next.history = session.history) (sent : next.sent = session.sent)
    (begun : next.begun = session.begun) : Retires session next := by
  refine ⟨sent, begun, fun framed => framed.keep sent begun ?_ ?_⟩
  · dsimp only [Plain.encoded, Plain.signals, plain]
    rw [history, retired, xtcp]
  · dsimp only [plain]
    rw [retired, xtcp]
    exact framed.single

theorem clear_retires : Retires running.1 (clear platform running).2.1 := by
  obtain ⟨session, world⟩ := running
  have other : ∀ rx xtcp sys,
      let cleared := (clearOther platform { session with rx := rx, xtcp := xtcp } sys).1
      cleared.history = session.history ∧ cleared.retired = session.retired ∧
        cleared.sent = session.sent ∧ cleared.begun = session.begun := by
    intro rx xtcp sys
    dsimp only [clearOther]
    split <;> exact ⟨rfl, rfl, rfl, rfl⟩
  cases present : session.xtcp with
  | none =>
    obtain ⟨history, retired, sent, begun⟩ := other
      (platform.inbound.close session.rx).2 none world.sys
    simp only [clear, present]
    exact .bare present.symm retired history sent begun
  | some xtcp =>
    obtain ⟨history, retired, sent, begun⟩ := other (platform.inbound.close session.rx).2
      (some xtcp) (xtcp.cancel platform.xtcp session.now world).2.2.sys
    have first := Xtcp.Controller.cancel_encoded platform.xtcp xtcp session.now world
    simp only [clear, present]
    split
    all_goals
      refine .controller present rfl ?_ ?_ history sent begun
      · intro left kept
        exact (Xtcp.Controller.destroy_encoded platform.xtcp kept).trans
          first
      · exact congrArg₂ (ite _) first retired

/-- A session ends with a result. -/
structure Ends (result : Result) (session next : Session Rx Tx) : Prop where
  history : next.history = session.history ++ [.ended result]
  step : Protocol.Step session.protocol (.ended result) next.protocol
  ended : Over next
  retires : Retires session next

omit platform in
theorem Ends.advances {result : Result} (ends : Ends result session next) : Advances session next :=
  ⟨⟨[.ended result], ends.history, ends.step.single⟩, .inr ends.ended,
    ends.retires.writes ends.ended⟩

/-- `fail` ends a session that has not ended. -/
theorem fail_ends (error : result ≠ .ok) (settled : running.1.protocol.starting = false)
    (live : running.1.phase.live = true) (standing : running.1.standing = (.ok, false)) :
    Ends result running.1 (fail platform result running).2.1 := by
  obtain ⟨session, world⟩ := running
  obtain ⟨fine, uncleared⟩ : session.result = .ok ∧ session.otherCleared = false := by
    simpa [Session.standing] using standing
  generalize marked : ({ session.note (.ended result) with
    result := result
    phase := if result = .cancelled then .stopped else .failed } :
    Session Rx Tx) = ended
  generalize around : ({ world with
    net := platform.work.transport.cancel world.net } :
    Xtcp.World Net Sys Peer) = left
  have cleared := clear_cleared platform (ended, left)
  have retires := clear_retires platform (ended, left)
  rcases outcome : clear platform (ended, left) with ⟨cleanup, next, reached⟩
  rw [outcome] at cleared retires
  obtain ⟨history, sameResult, isCleared, protocol⟩ := cleared
  have grown : next.history = session.history ++ [.ended result] := by
    rw [history, ← marked]
    rfl
  have machine : next.protocol =
      { session.protocol with
        phase := .ended result
        pingPending := false } := by
    have noted : ended.history = session.history ++ [.ended result] := by
      rw [← marked]
      rfl
    obtain ⟨started, starting, refused⟩ := protocol_grown noted
    rw [protocol]
    subst marked
    refine Protocol.ext rfl rfl rfl ?_ rfl (started.trans (Bool.or_false _))
      (starting.trans settled.symm) (refused.trans (Bool.or_false _))
    change (session.otherCleared && session.pingPending) = false
    rw [uncleared]
    rfl
  have step : Protocol.Step session.protocol (.ended result)
      next.protocol := by
    rw [machine]
    exact .ended settled live
  have dead : next.phase.live = false := by
    have phase : next.phase = .ended result := congrArg Protocol.phase machine
    rw [phase]
    rcases Phase.ended_cases result with ends | ends <;> rw [ends] <;> rfl
  have terminal : next.result ≠ .ok := by
    rw [sameResult, ← marked]
    exact error
  have noted : Retires session ended := by
    refine ⟨by rw [← marked]; rfl, by rw [← marked]; rfl, fun framed => ?_⟩
    have queued : ended.plain.queued = session.plain.queued := by
      dsimp only [plain]
      rw [← marked, note_history, List.filterMap_append]
      exact List.append_nil _
    refine framed.keep (by rw [← marked]; rfl) (by rw [← marked]; rfl) ?_ ?_
    · rw [Plain.encoded, queued, ← marked]
      rfl
    · rw [← marked]
      exact framed.single
  simp only [fail, fine, ne_eq, not_true_eq_false, if_false, marked, around, outcome]
  split
  · next bad =>
    refine ⟨grown, step, ⟨bad.1, dead, isCleared⟩, noted.trans
      (retires.trans (.bare rfl rfl rfl rfl rfl))⟩
  · exact ⟨grown, step, ⟨terminal, dead, isCleared⟩, noted.trans retires⟩

/-- A session that has ended stays as it is. -/
structure Rests (session next : Session Rx Tx) : Prop where
  history : next.history = session.history
  protocol : next.protocol = session.protocol
  ended : Over next
  retires : Retires session next

omit platform in
theorem Rests.advances (rests : Rests session next) : Advances session next :=
  .still rests.history rests.protocol (.inr rests.ended) (rests.retires.writes rests.ended)

omit platform in
/-- A session that is as it was. -/
theorem Advances.refl (state : Ready session ∨ Over session) : Advances session session :=
  .still rfl rfl state fun kept => ⟨kept, List.prefix_rfl, List.prefix_rfl⟩

/-- `fail` does nothing to the order of a session that has ended. -/
theorem fail_over (ended : Over running.1) :
    Rests running.1 (fail platform result running).2.1 := by
  obtain ⟨_, _⟩ := running
  rw [fail, if_pos ended.result]
  exact ⟨rfl, rfl, ⟨ended.result, ended.dead, ended.cleared⟩, .bare rfl rfl rfl rfl rfl⟩

theorem follow_advances
    (stages : List (Running Net Sys Peer Rx Tx → Result × Running Net Sys Peer Rx Tx))
    (orderly : ∀ stage ∈ stages, Orderly stage) (running : Running Net Sys Peer Rx Tx)
    (ready : Ready running.1) : Advances running.1 (follow platform stages running).2.1 := by
  induction stages generalizing running with
  | nil => exact .refl (.inl ready)
  | cons stage _ ih =>
    have moves := orderly stage List.mem_cons_self running ready
    have fine := congrArg Prod.fst ready.standing
    rcases outcome : stage running with ⟨result, next⟩
    rw [outcome] at moves
    rw [follow, outcome]
    cases result with
    | ok =>
      exact .after moves.follows.run (moves.follows.writes fine) (ih
        (fun stage member => orderly stage
          (List.mem_cons_of_mem _ member)) next (moves.ready ready))
    | _ =>
      exact .after moves.follows.run (moves.follows.writes fine) (fail_ends platform _ next
        (by simp) moves.settled moves.live
        (moves.follows.keeps.standing.trans ready.standing)).advances

/-! ## Moves -/

theorem step_advances (seconds : Int) (running : Running Net Sys Peer Rx Tx)
    (state : Ready running.1 ∨ Over running.1) :
    Advances running.1 (step platform now seconds running).2.1 := by
  obtain ⟨session, world⟩ := running
  rcases state with ready | ended
  · have fine : session.result = .ok := congrArg Prod.fst ready.standing
    rw [step, if_neg (not_not.mpr fine)]
    split
    · exact .refl (.inl ready)
    have timed : Quiet session { session with now := now, unixSeconds := seconds } :=
      ⟨rfl, rfl, rfl, rfl, .refl⟩
    exact .after timed.follows.run (timed.follows.writes fine) (follow_advances platform _
      (stages_orderly platform now seconds)
      ({ session with now := now, unixSeconds := seconds }, world)
      ((timed.moves ready .ok).ready ready))
  · rw [step, if_pos ended.result]
    exact (fail_over platform _ (session, world) ended).advances

theorem cancel_advances (state : Ready running.1 ∨ Over running.1) :
    Advances running.1 (cancel platform running).2.1 ∧ Over (cancel platform running).2.1 := by
  rcases state with ready | ended
  · have ends := fail_ends platform .cancelled running (by simp)
      ready.free.settled ready.live ready.standing
    exact ⟨ends.advances, ends.ended⟩
  have rests := fail_over platform .cancelled running ended
  exact ⟨rests.advances, rests.ended⟩

theorem drain_advances (state : Ready running.1 ∨ Over running.1) :
    Advances running.1 (drain platform now running).1 := by
  obtain ⟨_, world⟩ := running
  rw [drain]
  split
  · exact .refl state
  · next running =>
    rcases state with ready | ended
    · exact absurd (.inl (congrArg Prod.fst ready.standing)) running
    split
    · exact Rests.advances ⟨rfl, rfl, ⟨ended.result, ended.dead, ended.cleared⟩,
        .bare rfl rfl rfl rfl rfl⟩
    · next xtcp present =>
      refine Rests.advances ⟨rfl, rfl, ⟨ended.result, ended.dead, ended.cleared⟩,
        .controller present rfl ?_ rfl rfl rfl rfl⟩
      rintro left ⟨⟩
      exact Xtcp.Controller.cancel_encoded platform.xtcp xtcp now world

section

variable (running : Running Net Sys Peer Rx Tx)

/-- Clearing again changes nothing of the order. -/
theorem clear_rests (ended : Over running.1) : Rests running.1 (clear platform running).2.1 := by
  obtain ⟨history, result, cleared, protocol⟩ := clear_cleared platform running
  rw [ended.cleared, Bool.true_and] at protocol
  have phase : (clear platform running).2.1.phase = running.1.phase :=
    congrArg Protocol.phase protocol
  refine ⟨history, protocol, ⟨?_, ?_, cleared⟩, clear_retires platform running⟩
  · rw [result]
    exact ended.result
  · rw [phase]
    exact ended.dead

theorem destroy_advances (state : Ready running.1 ∨ Over running.1) :
    Advances running.1 (destroy platform running).2.1 := by
  obtain ⟨⟨run, _, writes⟩, ended⟩ := cancel_advances platform running state
  rcases cancelled : cancel platform running with ⟨result, session, world⟩
  rw [cancelled] at run ended writes
  rcases emptied : session.work.cancel platform.work.os
      platform.work.datagrams world.sys with ⟨idle, work, sys⟩
  have kept : Rests session { session with work := work } :=
    ⟨rfl, rfl, ⟨ended.result, ended.dead, ended.cleared⟩, .bare rfl rfl rfl rfl rfl⟩
  refine .after run writes (.after kept.advances.run kept.advances.writes ?_)
  simp only [destroy, cancelled, emptied]
  split
  · have rests := clear_rests platform ({ session with work := work },
      { world with sys := sys }) kept.ended
    exact rests.advances
  · exact .refl (.inr kept.ended)

theorem move_advances (next : Move) (state : Ready running.1 ∨ Over running.1) :
    Advances running.1 (move platform running next).1 := by
  cases next with
  | step now seconds => exact step_advances platform now seconds running state
  | cancel => exact (cancel_advances platform running state).1
  | drain now => exact drain_advances platform now running state
  | destroy => exact destroy_advances platform running state

theorem run_advances (moves : List Move) (state : Ready running.1 ∨ Over running.1) :
    Advances running.1 (run platform running moves).1 := by
  induction moves generalizing running with
  | nil => exact .refl state
  | cons next _ ih =>
    have moved := move_advances platform running next state
    exact .after moved.run moved.writes (ih _ moved.state)

end

/-! ## A created session -/

omit platform in
/-- A new controller holds no frame. -/
theorem controller_outbox :
    ∀ box ∈ config.controller.map Xtcp.Controller.outbox, box = ([], 0, []) := by
  intro box member
  rw [Option.mem_map] at member
  obtain ⟨_, created, rfl⟩ := member
  dsimp only [Config.controller] at created
  split at created <;> cases created <;> rfl

/-- A created session is ready, and nothing has happened. -/
theorem create_ready {config : Config} {rx : Rx} {tx : Tx} {now : Nat}
    {world next : Xtcp.World Net Sys Peer} {session : Session Rx Tx}
    (created : create platform config rx tx now world = (.ok session, next)) :
    Ready session ∧ session.history = [] ∧
      session.protocol = { kind := config.kind } ∧ Kept session := by
  dsimp only [create] at created
  split at created
  · cases created
  split at created
  · split at created
    · cases created
      have initial := Protocol.Coherent.initial config.kind
      have sound := Plain.Sound.initial (config.controller.map Xtcp.Controller.outbox)
        (controller_outbox config)
      refine ⟨⟨⟨rfl, rfl⟩, initial, rfl, rfl, ?_⟩, rfl, rfl, sound.toFramed, fun _ => sound⟩
      cases kind : config.kind <;> simp [Config.controller, kind, Kind.xtcp]
    · cases created
  · cases created

/-! ## The order of a whole run -/

/-- The order of the events of a session between two moves. -/
structure Ordered (session : Session Rx Tx) : Prop where
  counted : session.pongs = session.history.countP Event.isPong
  visitors : session.kind.visiting = true →
    session.history.countP Event.isProxy = 0 ∧ session.phase ≠ .registering
  proxyOnce : session.history.countP Event.isProxy ≤ 1
  registrationOnce : session.history.countP Event.isRegistration ≤ 1
  startOnce : session.history.countP Event.isStart ≤ 1
  ping : ∀ before frame after, session.history = before ++ .pingQueued frame :: after →
      before.countP Event.isPing = before.countP Event.isPong ∧
        (session.kind.visiting = false → before.countP Event.isProxy = 1)
  pong : ∀ before after, session.history = before ++ .pong :: after →
    before.countP Event.isPing = before.countP Event.isPong + 1 ∧
      (session.kind.serves = true → before.countP Event.isPong = 0 →
        before.getLast? = some .serviceStarted)
  work : ∀ before after, session.history = before ++ .workRequested :: after →
      session.kind.visiting = false ∧ .loggedIn ∈ before
  start : ∀ before after, session.history = before ++ .serviceStarted :: after →
      before.countP Event.isPong = 0 ∧ ∃ rest, after = .pong :: rest
  refused : ∀ before payload after, session.history = before ++ .refused payload :: after →
      ∃ result, after = [.ended result]

omit platform in
/-- The order of the machine, read off a history. -/
theorem Ordered.of_run
    (run : Protocol.Run { kind := session.kind } session.history session.protocol)
    (state : Ready session ∨ Over session) : Ordered session := by
  obtain ⟨coherent, counted⟩ := run.ordered
  have split := fun {before after : List Event} {event : Event}
      (same : session.history = before ++ event :: after) =>
    (same ▸ run : Protocol.Run { kind := session.kind }
      (before ++ event :: after) session.protocol).split
  have halved : session.phase.rank / 2 ≤ 1 := by cases session.phase <;> decide
  refine ⟨counted.pongs.symm, fun visiting => ?_, ?_, ?_, ?_, ?_, ?_, ?_, ?_, ?_⟩
  · obtain ⟨unqueued, phase⟩ := coherent.visitors visiting
    refine ⟨?_, phase⟩
    rw [counted.proxies, unqueued]
    rfl
  · rw [counted.proxies]
    exact Bool.toNat_le _
  · exact counted.registrations.trans halved
  · rw [counted.starts]
    exact Bool.toNat_le _
  · intro before frame after same
    obtain ⟨_, _, earlier, step, _⟩ := split same
    obtain ⟨agrees, counts⟩ := earlier.ordered
    cases step with
    | pingQueued _ phase idle =>
      refine ⟨?_, fun provider => ?_⟩
      · rw [counts.pings (by rw [phase]; rfl), counts.pongs, idle]
        rfl
      · rw [counts.proxies, agrees.queued (by rw [earlier.kind]; exact provider) phase]
        rfl
  · intro before after same
    obtain ⟨_, _, earlier, step, _⟩ := split same
    obtain ⟨_, counts⟩ := earlier.ordered
    cases step with
    | pong _ phase pending service =>
      refine ⟨?_, fun serves none => ?_⟩
      · rw [counts.pings (by rw [phase]; rfl), counts.pongs, pending]
        rfl
      · rw [counts.pongs] at none
        rw [earlier.kind, show ({ kind := session.kind } :
          Protocol).kind.serves = true from serves, none] at service
        exact (earlier.starting service).1
  · intro before after same
    obtain ⟨_, _, earlier, step, _⟩ := split same
    cases step with
    | workRequested _ provider phase =>
      rw [earlier.kind] at provider
      exact ⟨provider, earlier.loggedIn phase⟩
  · intro before after same
    obtain ⟨_, _, earlier, step, later⟩ := split same
    obtain ⟨_, counts⟩ := earlier.ordered
    cases step with
    | serviceStarted free _ phase _ first =>
      refine ⟨counts.pongs.trans first, ?_⟩
      cases after with
      | nil =>
        have last := later.nil_eq rfl
        have starting : session.protocol.starting = true := by rw [last]
        rcases state with ready | ended
        · rw [ready.free.settled] at starting
          cases starting
        have dead : session.protocol.phase.live = false := ended.dead
        rw [(run.starting starting).2] at dead
        cases dead
      | cons _ rest =>
        obtain ⟨_, step, _⟩ := later.head
        exact ⟨rest, by rw [step.after_start rfl]⟩
  · intro before payload after same
    obtain ⟨reached, _, _, step, later⟩ := split same
    cases step with
    | refused free live =>
      cases after with
      | nil =>
        have last := later.nil_eq rfl
        rcases state with ready | ended
        · have trusted := ready.free.trusted
          rw [last] at trusted
          cases trusted
        have dead : session.protocol.phase.live = false := ended.dead
        rw [last] at dead
        rw [live] at dead
        cases dead
      | cons =>
        obtain ⟨over_, step, final⟩ := later.head
        obtain ⟨result, rfl⟩ := step.after_refused rfl
        refine ⟨result, ?_⟩
        have dead : over_.phase.live = false := by
          cases step with
          | ended =>
            rcases Phase.ended_cases result with ends | ends
            · exact congrArg Phase.live ends
            · exact congrArg Phase.live ends
        rw [final.after_end dead]

/-- What the writer has taken, at any time of any session.

It is a prefix of whole frames, each one as it was encoded for a registration,
a heartbeat, a request or a report.  All of them but the last are finished,
and while the session lives, the last one is finished before any other is
begun.  Further moves add to what was written and replace nothing. -/
theorem plaintext_framed (config : Config) (rx : Rx) (tx : Tx) (now : Nat)
    (world : Xtcp.World Net Sys Peer) (moves later : List Move) :
    match create platform config rx tx now world with
    | (.error _, _) => True
    | (.ok session, world) =>
      let reached := run platform (session, world) moves
      let last := run platform reached later
      reached.1.plain.Framed ∧ (reached.1.result = .ok → reached.1.plain.Sound) ∧
        reached.1.begun <+: last.1.begun ∧
        reached.1.sent <+: last.1.sent := by
  rcases created : create platform config rx tx now world with ⟨answer, around⟩
  cases answer with
  | error => exact trivial
  | ok session =>
    obtain ⟨ready, _, _, fresh⟩ := create_ready platform created
    have first := run_advances platform (session, around) moves (.inl ready)
    have kept := (first.writes fresh).kept
    have second := run_advances platform (run platform (session, around) moves) later first.state
    have grown := second.writes kept
    exact ⟨kept.framed, kept.sound, grown.begun, grown.sent⟩

end EspFrp.Control.Session
