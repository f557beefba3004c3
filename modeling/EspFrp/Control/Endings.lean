import EspFrp.Control.Course
import EspFrp.Work.Answers

/-!
# Why a session ends

A session ends with the error of a stage.  No stage answers with a request to
wait, as long as nothing is fed to a login that has not been sent.
-/

namespace EspFrp.Login.Handshake

/-- A login that can go on. -/
structure Going (handshake : Handshake) : Prop where
  ready : handshake.ready = .ok
  frames : handshake.frames.failure = .ok

theorem Going.settled {handshake : Handshake} (going : handshake.Going) :
    handshake.failure ≠ .wouldBlock := by
  have ready := going.ready
  rw [Handshake.ready] at ready
  split at ready
  · simp [ready]
  · cases ready

theorem derive_settled (crypto : Crypto) {token client server : List UInt8}
    (failed : Binding.derive crypto.hashing crypto.hkdf token client server = .error error) :
    error ≠ .wouldBlock := by
  dsimp only [Binding.derive] at failed
  split at failed
  · cases failed
    simp
  have terminal : error.Terminal := by
    cases hashed : crypto.hashing.hash (Binding.transcriptSpans client server) with
    | error =>
      rw [hashed] at failed
      cases failed
      exact crypto.hashing_terminal _ _ hashed
    | ok salt =>
      rw [hashed] at failed
      cases first : crypto.hkdf token salt .clientToServer with
      | error =>
        simp only [bind, Except.bind, first] at failed
        cases failed
        exact crypto.hkdf_terminal _ _ _ _ first
      | ok =>
        simp only [bind, Except.bind, first] at failed
        split at failed
        · next second =>
          cases failed
          exact crypto.hkdf_terminal _ _ _ _ second
        · cases failed
  exact terminal.2

/-- The answer to a frame is a real one, and nothing has failed before. -/
structure Judged (result : Result) (handshake next : Handshake) : Prop where
  settled : result ≠ .wouldBlock
  same : (next.active, next.failure) = (handshake.active, handshake.failure)

theorem acceptHello_judged (parse : Json.Parser) (crypto : Crypto)
    (handshake : Handshake) (payload : List UInt8) :
    Judged (handshake.acceptHello parse crypto payload).1 handshake
      (handshake.acceptHello parse crypto payload).2 := by
  dsimp only [acceptHello]
  split
  · split
    · split
      · exact ⟨by simp, rfl⟩
      · next failed => exact ⟨derive_settled crypto failed, rfl⟩
    refine ⟨?_, rfl⟩
    dsimp only [selects]
    repeat' split
    all_goals simp
  · exact ⟨by simp, rfl⟩
  · exact ⟨by simp, rfl⟩

theorem acceptLogin_judged (parse : Json.Parser) (handshake : Handshake) (payload : List UInt8) :
    Judged (handshake.acceptLogin parse payload).1 handshake
      (handshake.acceptLogin parse payload).2 := by
  dsimp only [acceptLogin]
  repeat' split
  all_goals exact ⟨by simp, rfl⟩

/-- A frame that is taken leaves the login as ready as it was, one that is
refused leaves its error. -/
theorem acceptFrame_cases {taken : Bool}
    (answer : acceptFrame parse crypto handshake kind payload = (taken, next)) :
    (taken = true → (next.active, next.failure) = (handshake.active, handshake.failure)) ∧
      (taken = false → next.failure ≠ .wouldBlock) := by
  dsimp only [acceptFrame] at answer
  split at answer
  · have judged := acceptHello_judged parse crypto handshake payload
    split at answer <;> cases answer
    · exact ⟨fun _ => judged.same, by simp⟩
    · exact ⟨by simp, fun _ => judged.settled⟩
  · have judged := acceptLogin_judged parse handshake payload
    split at answer <;> cases answer
    · exact ⟨fun _ => judged.same, by simp⟩
    · exact ⟨by simp, fun _ => judged.settled⟩
  · cases answer
    exact ⟨by simp, by simp⟩

/-- What a window of bytes does to a login. -/
theorem feedLoop_going (parse : Json.Parser) (crypto : Crypto) (fuel : Nat)
    (handshake : Handshake) (bytes : List UInt8) (used : Nat) (going : handshake.Going) :
    (feedLoop parse crypto fuel handshake bytes used).1 ≠ .wouldBlock ∧
      ((feedLoop parse crypto fuel handshake bytes used).1 = .ok →
        (feedLoop parse crypto fuel handshake bytes used).2.2.Going) := by
  induction fuel generalizing handshake bytes used with
  | zero => exact ⟨by simp [feedLoop], fun _ => going⟩
  | succ _ ih =>
    have handled := @Wire.Reader.feedAll_handled _ (acceptFrame parse crypto)
      (fun handshake next => (next.active, next.failure) = (handshake.active, handshake.failure))
      (fun _ next => next.failure ≠ .wouldBlock)
      (fun _ _ _ _ answer => (acceptFrame_cases answer).1 rfl)
      (fun _ _ _ _ answer => (acceptFrame_cases answer).2 rfl) (fun _ => rfl)
      (fun first second => second.trans first) true handshake.frames handshake bytes
    have failure := Wire.Reader.feedAll_failure (acceptFrame parse crypto)
      true handshake.frames handshake bytes going.frames
    rw [feedLoop]
    split
    · exact ⟨by simp, fun _ => going⟩
    dsimp only [Wire.Reader.feedOne]
    revert handled failure
    generalize Wire.Reader.feedAll (acceptFrame parse crypto) true
      handshake.frames handshake bytes = feeding
    rcases feeding with ⟨result, count, frames, next⟩
    intro handled failure
    obtain ⟨kept, settled⟩ := failure
    split
    · next failed =>
      have error : next.failure ≠ .wouldBlock := by
        cases handled with
        | accepted related =>
          rw [(Prod.mk.inj related).2]
          exact going.settled
        | refused _ last => exact last
      split
      · next bad => exact ⟨error, fun fine => absurd fine bad⟩
      · exact ⟨settled, fun fine => absurd fine failed⟩
    · next fine =>
      have ready : next.ready = .ok := by
        cases handled with
        | accepted related =>
          obtain ⟨active, failure⟩ := Prod.mk.inj related
          have before := going.ready
          rw [Handshake.ready] at before ⊢
          rw [active, failure, before]
        | refused => exact absurd (by simp) fine
      have still : Going { next with frames := frames } := ⟨ready, kept.trans (not_not.mp fine)⟩
      split
      · exact ⟨by simp, fun _ => still⟩
      · exact ih _ _ _ still

end EspFrp.Login.Handshake

namespace EspFrp.Control.Session

open Binding Login Streams

variable {Net Sys Peer Rx Tx : Type}

/-- A session in which nothing has failed. -/
structure Sound (session : Session Rx Tx) : Prop where
  frames : session.frames.failure = .ok
  frameError : session.frameError = .ok
  login : session.phase = .authenticating →
    session.handshake.Going ∧ session.handshake.state ≠ .done
  xtcp : ∀ xtcp ∈ session.xtcp, xtcp.Tidy

/-- What soundness depends on, and whether input came early. -/
def core (session : Session Rx Tx) : Bool × Wire.Reader × Result × Phase × Handshake ×
      Option (Role × Nat × Option Xtcp.Admission) :=
  (session.early, session.frames, session.frameError, session.phase,
    session.handshake, session.xtcp.map Xtcp.Controller.intake)

variable {next session : Session Rx Tx}

theorem core_parts (same : next.core = session.core) :
    next.early = session.early ∧ next.frames = session.frames ∧
      next.frameError = session.frameError ∧
      next.phase = session.phase ∧ next.handshake = session.handshake ∧
      ((∀ xtcp ∈ session.xtcp, xtcp.Tidy) → ∀ xtcp ∈ next.xtcp, xtcp.Tidy) := by
  obtain ⟨early, rest⟩ := Prod.mk.inj same
  obtain ⟨frames, rest⟩ := Prod.mk.inj rest
  obtain ⟨frameError, rest⟩ := Prod.mk.inj rest
  obtain ⟨phase, rest⟩ := Prod.mk.inj rest
  obtain ⟨handshake, xtcp⟩ := Prod.mk.inj rest
  refine ⟨early, frames, frameError, phase, handshake, ?_⟩
  intro tidy changed there
  rw [there] at xtcp
  obtain ⟨before, present, intake⟩ := Option.map_eq_some_iff.mp xtcp.symm
  exact (tidy before present).keep intake.symm

theorem Sound.keep (sound : Sound session) (same : next.core = session.core) : Sound next := by
  obtain ⟨_, frames, frameError, phase, handshake, tidy⟩ := core_parts same
  refine ⟨by rw [frames, sound.frames], by rw [frameError, sound.frameError], ?_, tidy sound.xtcp⟩
  rw [phase, handshake]
  exact sound.login

theorem xtcp_core {xtcp next : Xtcp.Controller}
    (present : session.xtcp = some xtcp) (intake : next.intake = xtcp.intake) :
    ({ session with xtcp := some next } : Session Rx Tx).core =
      session.core := by
  simp [core, present, intake]

/-- What a stage answers and leaves, for a login that gets nothing early. -/
structure Passes (result : Result) (session next : Session Rx Tx) : Prop where
  early : next.early = false → session.early = false
  settled : next.early = false → result ≠ .wouldBlock
  sound : result = .ok → Sound next

variable {result : Result}

theorem Passes.after {middle : Session Rx Tx} (passes : Passes result middle next)
    (same : middle.core = session.core) : Passes result session next :=
  ⟨fun calm => (core_parts same).1 ▸ passes.early calm, passes.settled, passes.sound⟩

theorem Sound.pass (sound : Sound session) (settled : result ≠ .wouldBlock)
    (same : next.core = session.core) : Passes result session next :=
  ⟨fun calm => (core_parts same).1 ▸ calm, fun _ => settled, fun _ => sound.keep same⟩

/-- A stage that ends the session. -/
theorem Passes.refuse (error : result.Terminal)
    (early : next.early = session.early) : Passes result session next :=
  ⟨fun calm => early ▸ calm, fun _ => error.2, fun fine => absurd fine error.1⟩

/-- A stage that passes from every sound session. -/
def Passing (stage : Running Net Sys Peer Rx Tx → Result × Running Net Sys Peer Rx Tx) : Prop :=
  ∀ running, Sound running.1 → Passes (stage running).1 running.1 (stage running).2.1

section

variable (platform : Platform Net Sys Peer Rx Tx)
variable (now : Nat) (seconds : Int) (running : Running Net Sys Peer Rx Tx)

/-! ## Output -/

theorem bind_terminal {type : UInt8} {error : Result} {text : Except Work.EncodeError (List UInt8)}
    (failed : (text.mapError Work.EncodeError.result >>=
      fun text => Wire.messageFrame type text) = .error error) :
    error.Terminal := by
  cases text with
  | error reason =>
    cases failed
    cases reason <;> decide
  | ok =>
    simp only [Except.mapError, bind, Except.bind, Wire.messageFrame, Wire.header] at failed
    split at failed <;> cases failed
    decide

theorem queueDue_passing : Passing (queueDue platform seconds) := by
  rintro ⟨session, world⟩ sound
  dsimp only [queueDue, queueProxy, queuePing]
  repeat' split
  all_goals first
    | next failed => exact sound.pass (bind_terminal failed).2 rfl
    | exact sound.pass (by simp) rfl

theorem xtcpOutput_core : (xtcpOutput platform running).2.2.1.core = running.1.core := by
  obtain ⟨_, world⟩ := running
  dsimp only [xtcpOutput]
  split
  · next xtcp present _ =>
    have same : (xtcp.emitReport platform.xtcp world.sys).2.1.intake =
        xtcp.intake := by
      dsimp only [Xtcp.Controller.emitReport]
      repeat' split
      all_goals rfl
    refine xtcp_core present ?_
    dsimp only [Xtcp.Controller.xtcpOutput]
    split
    · rfl
    split
    · next answer =>
      rw [answer] at same
      split <;> exact same
    · next answer =>
      rw [answer] at same
      exact same
  · rfl

theorem prepareControl_passing : Passing (prepareControl platform seconds) := by
  intro running sound
  have same := xtcpOutput_core platform running
  obtain ⟨_, _⟩ := running
  dsimp only [prepareControl]
  split
  · exact sound.pass (by simp) rfl
  split
  · next asked =>
    rw [asked] at same
    exact (queueDue_passing platform seconds _ (sound.keep same)).after same
  · next blocked asked =>
    rw [asked] at same
    exact sound.pass blocked same

/-- A login that is being sent goes on, or has been sent. -/
theorem consumeOutput_going {handshake : Handshake} (used : Nat)
    (going : handshake.Going) (undone : handshake.state ≠ .done) :
    (handshake.consumeOutput used).1 ≠ .wouldBlock ∧ (handshake.consumeOutput used).2.Going ∧
      (handshake.consumeOutput used).2.state ≠ .done := by
  have ready := going.ready
  dsimp only [Handshake.consumeOutput]
  rw [if_neg (not_not.mpr ready)]
  repeat' split
  all_goals refine ⟨by simp, ⟨ready, going.frames⟩, ?_⟩
  all_goals first | exact undone | simp

theorem writeLogin_passes (sound : Sound running.1) (phase : running.1.phase = .authenticating) :
    Passes (writeLogin platform running).1 running.1 (writeLogin platform running).2.1 := by
  obtain ⟨_, _⟩ := running
  obtain ⟨going, undone⟩ := sound.login phase
  dsimp only [writeLogin]
  split
  · split
    · next used _ _ =>
      obtain ⟨settled, still, state⟩ := consumeOutput_going used going undone
      exact ⟨id, fun _ => settled, fun _ => ⟨sound.frames,
        sound.frameError, fun _ => ⟨still, state⟩, sound.xtcp⟩⟩
    all_goals exact sound.pass (by first | assumption | simp) rfl
  all_goals exact sound.pass (by first | assumption | simp) rfl

theorem sealNext_passing : Passing (sealNext platform) := by
  intro running sound
  have same := xtcpOutput_core platform running
  obtain ⟨_, _⟩ := running
  dsimp only [sealNext]
  split
  · dsimp only [sealControl]
    repeat' split
    all_goals exact sound.pass (by first | assumption | simp) rfl
  split
  · next asked =>
    rw [asked] at same
    split
    · exact sound.pass (by simp) same
    · next xtcp present =>
      dsimp only [sealXtcp]
      split
      · next used _ _ =>
        have consumed : (xtcp.consumeOutput used).1 ≠ .wouldBlock ∧
            (xtcp.consumeOutput used).2.intake = xtcp.intake := by
          dsimp only [Xtcp.Controller.consumeOutput]
          repeat' split
          all_goals exact ⟨by simp, rfl⟩
        exact sound.pass consumed.1 ((xtcp_core present consumed.2).trans same)
      all_goals exact sound.pass (by first | assumption | simp) same
  all_goals
    next asked =>
      rw [asked] at same
      exact sound.pass (by first | assumption | simp) same

theorem controlOutput_passing : Passing (controlOutput platform) := by
  rintro ⟨session, world⟩ sound
  dsimp only [controlOutput]
  split
  · next phase => exact writeLogin_passes platform _ sound phase
  split
  · split
    · exact sound.pass (platform.outbound.consumeOutput_settled _ _) rfl
    all_goals exact sound.pass (by first | assumption | simp) rfl
  · exact sealNext_passing platform _ sound
  · next blocked _ => exact sound.pass blocked rfl

/-! ## Services, the transport and the time -/

theorem stepService_passing : Passing (stepService platform now seconds) := by
  rintro ⟨session, world⟩ sound
  dsimp only [stepService]
  split
  · exact sound.pass (by simp) rfl
  split
  · next xtcp present =>
    split
    · exact sound.pass (by simp) rfl
    have steady := (Xtcp.Controller.step_moves platform.xtcp xtcp now
      seconds session.runId session.token world).2 (sound.xtcp xtcp present)
    refine ⟨id, fun _ => steady.settled, fun _ => ⟨sound.frames, sound.frameError, sound.login, ?_⟩⟩
    rintro _ ⟨⟩
    exact steady.tidy
  · split
    · split
      · exact sound.pass (by simp) rfl
      exact sound.pass (Work.Set.visitStep_settled platform.work _ _ _
        _ _ _ platform.info_settled) rfl
    · exact sound.pass (Work.Set.workStep_settled platform.work _ _ _ _
        _ _ _ platform.info_settled) rfl

theorem stepTransport_passing : Passing (stepTransport platform now) := by
  rintro ⟨session, world⟩ sound
  dsimp only [stepTransport]
  split
  all_goals exact sound.pass (by first | assumption | simp) rfl

omit platform in
theorem tick_going {handshake : Handshake}
    (going : handshake.Going) (undone : handshake.state ≠ .done) :
    (handshake.tick now).1 ≠ .wouldBlock ∧
      ((handshake.tick now).1 = .ok → (handshake.tick now).2.Going ∧
        (handshake.tick now).2.state ≠ .done) := by
  dsimp only [Handshake.tick, Handshake.fail]
  rw [if_neg (not_not.mpr going.ready)]
  repeat' split
  all_goals exact ⟨by simp, by
    simp [undone, show Handshake.Going { handshake with lastNow := now } from
      ⟨going.ready, going.frames⟩]⟩

omit platform in
theorem checkDeadlines_passing : @Passing Net Sys Peer Rx Tx (checkDeadlines now) := by
  rintro ⟨session, world⟩ sound
  dsimp only [checkDeadlines]
  generalize ticked : (if session.phase = .authenticating then
    session.handshake.tick now else (.ok, session.handshake)) = pair
  have going : pair.1 ≠ .wouldBlock ∧ (pair.1 = .ok →
      session.phase = .authenticating → pair.2.Going ∧ pair.2.state ≠ .done) := by
    rw [← ticked]
    split
    · next phase =>
      obtain ⟨settled, still⟩ := tick_going now (sound.login phase).1 (sound.login phase).2
      exact ⟨settled, fun fine _ => still fine⟩
    · next phase => exact ⟨by simp, fun _ same => absurd same phase⟩
  split
  · next failed => exact .refuse ⟨failed, going.1⟩ rfl
  · next fine =>
    have still : Sound { session with handshake := pair.2 } :=
      ⟨sound.frames, sound.frameError, going.2 (not_not.mp fine), sound.xtcp⟩
    repeat' split
    all_goals exact ⟨id, by simp, fun _ => still⟩

theorem controlFinish_passes (session : Session Rx Tx) (sound : Sound session) :
    Passes (session.controlFinish platform).1 session (session.controlFinish platform).2 := by
  dsimp only [controlFinish]
  split
  · next phase =>
    have ready := (sound.login phase).1.ready
    have finished : session.handshake.finish.1 = .ok ∨ session.handshake.finish.1 = .truncated := by
      dsimp only [Handshake.finish, Handshake.fail]
      rw [if_neg (not_not.mpr ready)]
      split
      · exact .inl rfl
      · exact .inr rfl
    refine .refuse ?_ rfl
    rcases finished with same | same <;> simp [same, Result.Terminal]
  · have settled : (if platform.inbound.finish session.rx = .ok then
        session.frames.finish else platform.inbound.finish session.rx) ≠
        .wouldBlock := by
      split
      · exact Wire.Reader.finish_settled _ sound.frames
      · exact platform.inbound.finish_settled _
    generalize (if platform.inbound.finish session.rx = .ok then
      session.frames.finish else platform.inbound.finish session.rx) =
      result at settled
    refine .refuse ?_ rfl
    split
    · exact ⟨by simp, by simp⟩
    · next failed => exact ⟨failed, settled⟩

theorem checkEof_passing : Passing (checkEof platform) := by
  rintro ⟨session, world⟩ sound
  have described : (platform.work.transport.streamInfo world.net
      session.stream).1 ≠ .wouldBlock := by
    dsimp only [Transport.streamInfo]
    split
    · simp
    · exact platform.info_settled _ _
  dsimp only [checkEof]
  split
  · exact sound.pass (by simp) rfl
  split
  · split
    · exact sound.pass (by simp) rfl
    generalize (if session.phase = .authenticating then
      (Result.wouldBlock, session.rx) else
      ((platform.inbound.plaintext session.rx).1,
        (platform.inbound.plaintext session.rx).2.2)) = pending
    rcases pending with ⟨result, rx⟩
    split
    · exact sound.pass (by simp) rfl
    · split
      · have finished := controlFinish_passes platform { session with rx := rx } (sound.keep rfl)
        exact finished.after rfl
      all_goals exact sound.pass (by first | assumption | simp) rfl
    · next blocked => exact sound.pass blocked rfl
  · next answer =>
    rw [answer] at described
    exact sound.pass described rfl

/-! ## Input -/

theorem startService_passing : Passing (startService platform) := by
  rintro ⟨session, world⟩ sound
  have listens : ∀ address port sys, (Local.Listener.create platform.work.os address port sys).1 ≠
        .wouldBlock := by
    intro address port sys
    dsimp only [Local.Listener.create]
    repeat' split
    all_goals simp
  have visits : (session.work.visitStart platform.work.os world.sys).1 ≠ .wouldBlock := by
    dsimp only [Work.Set.visitStart]
    repeat' split
    all_goals first | exact listens _ _ _ | simp
  dsimp only [startService]
  split
  · exact sound.pass (by simp) rfl
  split
  · split
    · exact sound.pass (by simp) rfl
    · next answer =>
      rw [answer] at visits
      exact sound.pass visits rfl
  · split
    · exact sound.pass (by simp) rfl
    · next xtcp present =>
      have started : (xtcp.start platform.work.os world.sys).1 ≠
          .wouldBlock ∧ (xtcp.start platform.work.os
          world.sys).2.1.intake = xtcp.intake := by
        dsimp only [Xtcp.Controller.start]
        repeat' split
        all_goals exact ⟨by first | exact listens _ _ _ | simp, rfl⟩
      split
      all_goals
        next answer =>
          rw [answer] at started
          exact sound.pass started.1 (xtcp_core present started.2)

theorem dispatch_passing (payload : List UInt8) : Passing (dispatch platform payload) := by
  intro running sound
  have starts := startService_passing platform running sound
  obtain ⟨_, _⟩ := running
  dsimp only [dispatch]
  split
  · dsimp only [acceptRegistration]
    repeat' split
    all_goals first
      | exact sound.pass (by simp) rfl
      | exact ⟨id, by simp, fun _ => ⟨sound.frames, sound.frameError, by simp, sound.xtcp⟩⟩
  · split
    · dsimp only [acceptPong]
      repeat' split
      all_goals first
        | exact sound.pass (by simp) rfl
        | next answer =>
          rw [answer] at starts
          exact ⟨starts.early, by simp, fun _ => (starts.sound rfl).keep rfl⟩
        | next answer =>
          rw [answer] at starts
          exact starts
    · split
      · dsimp only [acceptWork]
        repeat' split
        all_goals first
          | exact sound.pass (by simp) rfl
          | next xtcp present =>
            refine ⟨id, by simp, fun _ => ⟨sound.frames, sound.frameError, sound.login, ?_⟩⟩
            rintro _ ⟨⟩
            exact Xtcp.Controller.request_tidy (sound.xtcp xtcp present)
      · exact sound.pass (by simp) rfl

theorem judge_passing (frame : Wire.Kind) (payload : List UInt8) :
    Passing (judge platform frame payload) := by
  rintro ⟨session, world⟩ sound
  have dispatched := dispatch_passing platform payload (session, world) sound
  dsimp only [judge]
  split
  · exact sound.pass (by simp) rfl
  split
  · next xtcp present =>
    have steady := Xtcp.Controller.response_steady platform.xtcp xtcp frame payload session.now
      session.unixSeconds world (sound.xtcp xtcp present)
    have intake := congrArg Prod.snd (Xtcp.Controller.response_held
      platform.xtcp xtcp frame payload session.now
      session.unixSeconds world)
    split
    · dsimp only [acceptSignal]
      split
      all_goals
        next answer =>
          rw [answer] at steady intake
          exact sound.pass steady.settled (xtcp_core present intake)
    · exact dispatched
  · exact dispatched

/-- A frame that is taken leaves a sound session, one that is refused
leaves its error. -/
theorem acceptControl_cases {running next : Running Net Sys Peer Rx Tx}
    (answer : acceptControl platform running frame payload = (taken, next))
    (sound : Sound running.1) :
    (next.1.early = false → running.1.early = false) ∧ (taken = true → Sound next.1) ∧
      (taken = false → next.1.early = false → next.1.frameError ≠ .wouldBlock) := by
  have judged := judge_passing platform frame payload running sound
  dsimp only [acceptControl] at answer
  split at answer
  · next fine =>
    cases answer
    have still := judged.sound fine
    exact ⟨judged.early, fun _ => ⟨still.frames, fine, still.login, still.xtcp⟩, by simp⟩
  · cases answer
    exact ⟨judged.early, by simp, fun _ => judged.settled⟩

theorem takePlaintext_passing (plain : List UInt8) : Passing (takePlaintext platform plain) := by
  rintro ⟨session, world⟩ sound
  have handled := @Wire.Reader.feedAll_handled _ (acceptControl platform)
    (fun running next => Sound running.1 → Sound next.1 ∧
      (next.1.early = false → running.1.early = false))
    (fun running next => Sound running.1 → (next.1.early = false → running.1.early = false ∧
        next.1.frameError ≠ .wouldBlock))
    (fun _ _ _ _ answer sound =>
      let ⟨early, taken, _⟩ := acceptControl_cases platform answer sound
      ⟨taken rfl, early⟩)
    (fun _ _ _ _ answer sound calm =>
      let ⟨early, _, refused⟩ := acceptControl_cases platform answer sound
      ⟨early calm, refused rfl calm⟩)
    (fun _ sound => ⟨sound, id⟩)
    (fun first second sound => ⟨(second (first sound).1).1, fun calm =>
      (first sound).2 ((second (first sound).1).2 calm)⟩)
    false session.frames (session, world) plain
  have failure := Wire.Reader.feedAll_failure (acceptControl platform)
    false session.frames (session, world) plain sound.frames
  rcases feeding : Wire.Reader.feedAll (acceptControl platform) false
    session.frames (session, world) plain with
    ⟨result, used, frames, next, reached⟩
  rw [feeding] at handled failure
  simp only [takePlaintext, Wire.Reader.feed, feeding]
  obtain ⟨kept, settled⟩ := failure
  have error : next.early = false → session.early = false ∧ next.frameError ≠ .wouldBlock := by
    cases handled with
    | accepted related =>
      obtain ⟨still, early⟩ := related sound
      have fine : next.frameError = .ok := still.frameError
      exact fun calm => ⟨early calm, by simp [fine]⟩
    | refused related last =>
      obtain ⟨still, early⟩ := related sound
      exact fun calm => ⟨early (last still calm).1, (last still calm).2⟩
  split
  · next failed =>
    refine ⟨fun calm => (error calm).1, fun calm => ?_, fun fine => ?_⟩
    · split
      · exact (error calm).2
      · exact settled
    · split at fine
      · next bad => exact absurd fine bad
      · exact absurd fine failed
  · next fine =>
    refine ⟨fun calm => (error calm).1, fun _ => platform.inbound.consume_settled _ _, fun _ => ?_⟩
    cases handled with
    | accepted related =>
      obtain ⟨still, _⟩ := related sound
      exact ⟨kept.trans (not_not.mp fine), still.frameError, still.login, still.xtcp⟩
    | refused => exact absurd (by simp) fine

omit platform in
/-- What bytes do to a login that has been sent. -/
theorem feed_going (parse : Json.Parser) (crypto : Crypto) (bytes : List UInt8)
    {handshake : Handshake} (going : handshake.Going) (undone : handshake.state ≠ .done) :
    (handshake.state ≠ .send → (handshake.feed parse crypto bytes).1 ≠ .wouldBlock) ∧
      ((handshake.feed parse crypto bytes).1 = .ok →
        (handshake.feed parse crypto bytes).2.2.Going) := by
  dsimp only [Handshake.feed]
  rw [if_neg (not_not.mpr going.ready)]
  have looped := Handshake.feedLoop_going parse crypto bytes.length handshake bytes 0 going
  split
  · next sending => exact ⟨fun sent => absurd sending sent, by simp⟩
  · next ended => exact absurd ended undone
  · exact ⟨fun _ => looped.1, looped.2⟩
  · exact ⟨fun _ => looped.1, looped.2⟩
  · exact ⟨by simp, by simp⟩

omit platform in
theorem advance_core (session : Session Rx Tx) (used : Nat) :
    (session.advance used).core = session.core := by
  dsimp only [advance]
  split <;> rfl

section

variable (session : Session Rx Tx)

omit platform in
theorem adoptControlId_core (going : session.handshake.Going) :
    session.adoptControlId.1 ≠ .wouldBlock ∧ session.adoptControlId.2.core = session.core := by
  dsimp only [adoptControlId]
  split
  · exact ⟨by simp, rfl⟩
  · next xtcp present =>
    split
    · next failed =>
      refine ⟨?_, rfl⟩
      dsimp only [Handshake.xtcpControlId] at failed
      rw [if_neg (not_not.mpr going.ready)] at failed
      split at failed <;> cases failed
      simp
    · next controlId _ =>
      have kept : (xtcp.setControlId controlId).1 ≠ .wouldBlock ∧
          (xtcp.setControlId controlId).2.intake = xtcp.intake := by
        dsimp only [Xtcp.Controller.setControlId]
        repeat' split
        all_goals exact ⟨by simp, rfl⟩
      exact ⟨kept.1, xtcp_core present kept.2⟩

theorem startRecords_core (keys : Option Keys) :
    (session.startRecords platform keys).1 ≠ .wouldBlock ∧
      (session.startRecords platform keys).2.core = session.core := by
  dsimp only [startRecords]
  split
  · exact ⟨platform.inbound.init_settled _ _, rfl⟩
  · exact ⟨platform.outbound.init_settled _ _, rfl⟩

/-- The login ends with keys, or with an error. -/
theorem finishLogin_passes (going : session.handshake.Going) (frameError : session.frameError = .ok)
    (tidy : ∀ xtcp ∈ session.xtcp, xtcp.Tidy) :
    Passes (finishLogin platform session).1 session (finishLogin platform session).2 := by
  obtain ⟨settled, same⟩ := adoptControlId_core session going
  dsimp only [finishLogin]
  revert settled same
  generalize session.adoptControlId = adopted
  rcases adopted with ⟨result, first⟩
  intro settled same
  obtain ⟨early, _, error, _, handshake, kept⟩ := core_parts same
  split
  · next answer =>
    cases answer
    rw [handshake]
    dsimp only [Handshake.takeResult]
    rw [if_neg (not_not.mpr going.ready)]
    split
    · next taken =>
      split at taken <;> cases taken
      exact .refuse ⟨by simp, by simp⟩ early
    · next keys runId _ taken =>
      obtain ⟨begun, records⟩ := startRecords_core platform
        { first with
          runId := runId
          handshake := {}
          controlReady := true } keys
      revert begun records
      generalize startRecords platform { first with
        runId := runId
        handshake := {}
        controlReady := true } keys = started
      rcases started with ⟨result, second⟩
      intro begun records
      obtain ⟨prompt, _, fine, _, _, tidied⟩ := core_parts records
      have noted := fine.trans (error.trans frameError)
      have calm := prompt.trans early
      split
      · next answer =>
        cases answer
        split <;> exact ⟨fun quiet => calm ▸ quiet, by simp,
          fun _ => ⟨rfl, noted, by simp, tidied (kept tidy)⟩⟩
      · next bad answer =>
        cases answer
        exact .refuse ⟨bad, begun⟩ calm
  · next bad answer =>
    cases answer
    exact .refuse ⟨bad, settled⟩ early

theorem takeBytes_passes (sound : Sound session) :
    Passes (session.takeBytes platform).1 session (session.takeBytes platform).2 := by
  dsimp only [takeBytes]
  split
  · next phase =>
    obtain ⟨going, undone⟩ := sound.login phase
    have fed := feed_going platform.work.parse platform.crypto
      (session.controlRx.drop session.controlOffset) going undone
    revert fed
    generalize session.handshake.feed platform.work.parse platform.crypto
      (session.controlRx.drop session.controlOffset) = feeding
    rcases feeding with ⟨result, used, next⟩
    intro fed
    generalize noticed : (session.early ||
      decide (session.handshake.state = .send)) = early
    have calm : early = false → session.early = false ∧ session.handshake.state ≠ .send := by
      rintro rfl
      obtain ⟨before, sent⟩ := Bool.or_eq_false_iff.mp noticed
      exact ⟨before, of_decide_eq_false sent⟩
    split
    · next failed =>
      exact ⟨fun quiet => (calm quiet).1, fun quiet =>
        fed.1 (calm quiet).2, fun fine => absurd fine failed⟩
    · next fine =>
      have still := fed.2 (not_not.mp fine)
      split
      · have ended := finishLogin_passes platform
          { session with handshake := next, early := early } still
          sound.frameError sound.xtcp
        split
        · next last answer =>
          rw [answer] at ended
          have same := advance_core last used
          have kept := (core_parts same).1
          exact ⟨fun quiet => (calm (ended.early (kept ▸ quiet))).1,
            by simp, fun _ => (ended.sound rfl).keep same⟩
        · next answer =>
          rw [answer] at ended
          exact ⟨fun quiet => (calm (ended.early quiet)).1, ended.settled, ended.sound⟩
      · next undone =>
        have same := advance_core { session with handshake := next, early := early } used
        have kept := (core_parts same).1
        refine ⟨fun quiet => (calm (kept.symm.trans quiet)).1, by simp, fun _ => Sound.keep ?_ same⟩
        exact ⟨sound.frames, sound.frameError, fun _ => ⟨still, undone⟩, sound.xtcp⟩
  · split
    · next failed => exact .refuse failed rfl
    · exact sound.pass (by simp) (advance_core _ _)

end

theorem readControl_passing : Passing (readControl platform) := by
  rintro ⟨session, world⟩ sound
  dsimp only [readControl]
  split
  · exact takeBytes_passes platform session sound
  split
  · next bytes _ _ =>
    have taken := takeBytes_passes platform { session with controlRx := bytes, controlOffset := 0 }
      (sound.keep rfl)
    exact taken.after rfl
  · exact controlFinish_passes platform session sound
  all_goals exact sound.pass (by first | assumption | simp) rfl

theorem controlInput_passing : Passing (controlInput platform) := by
  rintro ⟨session, world⟩ sound
  rcases asked : platform.inbound.plaintext session.rx with ⟨result, plain, rx⟩
  have still : Sound { session with rx := rx } := sound.keep rfl
  simp only [controlInput, asked]
  split
  · exact readControl_passing platform (session, world) sound
  split
  · exact (takePlaintext_passing platform plain ({ session with rx := rx }, world) still).after rfl
  · exact (readControl_passing platform ({ session with rx := rx }, world) still).after rfl
  · next blocked => exact sound.pass blocked rfl

/-! ## Whole runs -/

omit platform in
theorem Passing.whileOpen (passing : Passing stage) : Passing (whileOpen stage) := by
  intro running sound
  dsimp only [Session.whileOpen]
  split
  · exact sound.pass (by simp) rfl
  · exact passing running sound

theorem stages_passing : ∀ stage ∈ stages platform now seconds, Passing stage := by
  intro stage member
  simp only [stages, turn, List.mem_append, List.mem_cons, List.not_mem_nil, or_false,
    List.mem_flatten, List.mem_replicate] at member
  rcases member with ((rfl | rfl | rfl) | ⟨_, ⟨_, rfl⟩, member⟩) | rfl
  · exact stepTransport_passing platform now
  · exact fun running sound => sound.pass (platform.status_settled _) rfl
  · exact checkDeadlines_passing now
  · simp only [List.mem_cons, List.not_mem_nil, or_false] at member
    rcases member with rfl | rfl | rfl | rfl | rfl
    · exact controlInput_passing platform
    · exact (prepareControl_passing platform seconds).whileOpen
    · exact (controlOutput_passing platform).whileOpen
    · exact (stepService_passing platform now seconds).whileOpen
    · exact (stepTransport_passing platform now).whileOpen
  · exact checkEof_passing platform

/-- A session has ended for a reason. -/
structure Reasoned (session : Session Rx Tx) : Prop where
  error : session.result ≠ .ok
  settled : session.early = false → session.result ≠ .wouldBlock

/-- A move of a session that goes on or has ended. -/
structure Leads (session next : Session Rx Tx) : Prop where
  early : next.early = false → session.early = false
  state : Sound next ∧ next.result = .ok ∨ Reasoned next

theorem clear_early : (clear platform running).2.1.early = running.1.early := by
  obtain ⟨session, _⟩ := running
  have other : ∀ (session : Session Rx Tx) sys,
      (session.clearOther platform sys).1.early = session.early := by
    intro session sys
    dsimp only [clearOther]
    split <;> rfl
  dsimp only [clear]
  repeat' split
  all_goals exact other _ _

/-- The end of a session has the reason it is given, or the one for which
its resources could not be given up. -/
theorem fail_reasoned (result : Result) (running : Running Net Sys Peer Rx Tx)
    (error : result ≠ .ok) (settled : running.1.early = false → result ≠ .wouldBlock)
    (before : running.1.result = .ok ∨ Reasoned running.1) :
    Reasoned (fail platform result running).2.1 ∧
      (fail platform result running).2.1.early = running.1.early := by
  obtain ⟨session, world⟩ := running
  dsimp only [fail]
  split
  · next ended =>
    have reasoned := before.resolve_left ended
    exact ⟨⟨ended, reasoned.settled⟩, rfl⟩
  generalize marked : ({ session.note (.ended result) with
    result := result
    phase := if result = .cancelled then .stopped else .failed } :
    Session Rx Tx) = ended
  generalize ({ world with
    net := platform.work.transport.cancel world.net } :
    Xtcp.World Net Sys Peer) = left
  have cleared := clear_cleared platform (ended, left)
  have early := clear_early platform (ended, left)
  revert cleared early
  generalize clear platform (ended, left) = outcome
  rcases outcome with ⟨cleanup, next, reached⟩
  intro cleared early
  have same : next.early = session.early := by
    rw [early, ← marked]
    rfl
  have given : next.result = result := by rw [cleared.result, ← marked]
  split
  · next bad => exact ⟨⟨bad.1, fun _ => bad.2⟩, same⟩
  refine ⟨⟨given ▸ error, fun calm => ?_⟩, same⟩
  rw [given]
  exact settled (same.symm.trans calm)

theorem follow_leads
    (stages : List (Running Net Sys Peer Rx Tx → Result × Running Net Sys Peer Rx Tx))
    (passing : ∀ stage ∈ stages, Passing stage) (orderly : ∀ stage ∈ stages, Orderly stage)
    (running : Running Net Sys Peer Rx Tx) (sound : Sound running.1) (ready : Ready running.1) :
    Leads running.1 (follow platform stages running).2.1 := by
  induction stages generalizing running with
  | nil => exact ⟨id, .inl ⟨sound, congrArg Prod.fst ready.standing⟩⟩
  | cons stage _ ih =>
    have passed := passing stage List.mem_cons_self running sound
    have moved := orderly stage List.mem_cons_self running ready
    have fine := congrArg Prod.fst (moved.follows.keeps.standing.trans ready.standing)
    rcases outcome : stage running with ⟨result, next⟩
    rw [outcome] at passed moved fine
    rw [follow, outcome]
    cases result with
    | ok =>
      have later := ih (fun stage member => passing stage (List.mem_cons_of_mem _ member))
        (fun stage member => orderly stage (List.mem_cons_of_mem _ member)) next (passed.sound rfl)
        (moved.ready ready)
      exact ⟨fun calm => passed.early (later.early calm), later.state⟩
    | _ =>
      obtain ⟨reasoned, early⟩ := fail_reasoned platform _ next (by simp) passed.settled (.inl fine)
      exact ⟨fun calm => passed.early (early.symm.trans calm), .inr reasoned⟩

theorem move_leads (next : Move)
    (state : Sound running.1 ∧ running.1.result = .ok ∨ Reasoned running.1)
    (course : Ready running.1 ∨ Over running.1) :
    Leads running.1 (move platform running next).1 := by
  obtain ⟨session, world⟩ := running
  have ending := state.imp_left And.right
  obtain ⟨reasoned, early⟩ := fail_reasoned platform .cancelled
    (session, world) (by simp) (fun _ => by simp) ending
  cases next with
  | step now seconds =>
    dsimp only [move, step]
    split
    · next ended =>
      obtain ⟨stopped, same⟩ := fail_reasoned platform session.result (session, world) ended
        (ending.resolve_left ended).settled ending
      exact ⟨fun calm => same.symm.trans calm, .inr stopped⟩
    · next fine =>
      split
      · exact ⟨id, state⟩
      obtain ⟨sound, _⟩ := state.resolve_right fun reasoned => fine reasoned.error
      have ready := course.resolve_right fun over_ => fine over_.result
      have timed : Quiet session { session with now := now, unixSeconds := seconds } :=
        ⟨rfl, rfl, rfl, rfl, .refl⟩
      have led := follow_leads platform _ (stages_passing platform now seconds)
        (stages_orderly platform now seconds)
        ({ session with now := now, unixSeconds := seconds }, world)
        (sound.keep rfl) ((timed.moves ready .ok).ready ready)
      exact ⟨led.early, led.state⟩
  | cancel => exact ⟨fun calm => early.symm.trans calm, .inr reasoned⟩
  | drain =>
    dsimp only [move, drain]
    split
    · exact ⟨id, state⟩
    · next live =>
      have stopped := ending.resolve_left fun fine => live (.inl fine)
      split <;> exact ⟨id, .inr ⟨stopped.error, stopped.settled⟩⟩
  | destroy =>
    rcases cancelled : cancel platform (session, world) with ⟨result, left, reached⟩
    rw [show fail platform .cancelled (session, world) =
      (result, left, reached) from cancelled] at reasoned early
    rcases emptied : left.work.cancel platform.work.os
      platform.work.datagrams reached.sys with ⟨idle, work, sys⟩
    simp only [move, destroy, cancelled, emptied]
    split
    · have cleared := clear_cleared platform
        ({ left with work := work }, { reached with sys := sys })
      have same := clear_early platform ({ left with work := work }, { reached with sys := sys })
      refine ⟨fun calm => early.symm.trans (same.symm.trans calm), .inr ⟨?_, fun calm => ?_⟩⟩
      · rw [cleared.result]
        exact reasoned.error
      · rw [cleared.result]
        exact reasoned.settled (same.symm.trans calm)
    · exact ⟨fun calm => early.symm.trans calm, .inr ⟨reasoned.error, reasoned.settled⟩⟩

theorem run_leads (moves : List Move)
    (state : Sound running.1 ∧ running.1.result = .ok ∨ Reasoned running.1)
    (course : Ready running.1 ∨ Over running.1) :
    Leads running.1 (run platform running moves).1 := by
  induction moves generalizing running with
  | nil => exact ⟨id, state⟩
  | cons next _ ih =>
    have led := move_leads platform running next state course
    have later := ih _ led.state (move_advances platform running next course).state
    exact ⟨fun calm => led.early (later.early calm), later.state⟩

variable {session : Session Rx Tx} {config : Config}

/-- A created session is sound. -/
theorem create_sound {rx : Rx} {tx : Tx} {now : Nat} {world next : Xtcp.World Net Sys Peer}
    (created : create platform config rx tx now world = (.ok session, next)) : Sound session := by
  have going : ∀ (login : Login.Config) sys handshake after,
      Handshake.init platform.login login now sys = (.ok, handshake, after) →
      handshake.Going ∧ handshake.state ≠ .done := by
    intro login sys handshake after begun
    dsimp only [Handshake.init, Handshake.fail] at begun
    repeat' split at begun
    all_goals cases begun
    all_goals exact ⟨⟨rfl, rfl⟩, by simp⟩
  dsimp only [create] at created
  split at created
  · cases created
  split at created
  · next begun =>
    split at created
    · cases created
      refine ⟨rfl, rfl, fun _ => going _ _ _ _ begun, ?_⟩
      intro xtcp there
      dsimp only [Config.controller] at there
      split at there <;> cases there
      · exact ⟨by simp, by simp⟩
      · exact ⟨by simp, fun _ => ⟨rfl, rfl⟩⟩
    · cases created
  · cases created

/-- What a created session leads to. -/
theorem created_leads {rx : Rx} {tx : Tx} {now : Nat} {world around : Xtcp.World Net Sys Peer}
    (created : create platform config rx tx now world = (.ok session, around)) (moves : List Move) :
    Leads session (run platform (session, around) moves).1 := by
  have sound := create_sound platform created
  obtain ⟨ready, _⟩ := create_ready platform created
  exact run_leads platform (session, around) moves
    (.inl ⟨sound, congrArg Prod.fst ready.standing⟩) (.inl ready)

/-- Why a session ends, whatever the server, the transports and the owner do,
as long as no byte reaches a login that has not been sent.

An ended session has a real reason; a session that goes on is sound, so that
the next stage finds nothing that has failed. -/
theorem endings_reasoned (config : Config) (rx : Rx) (tx : Tx) (now : Nat)
    (world : Xtcp.World Net Sys Peer) (moves : List Move) :
    match create platform config rx tx now world with
    | (.error _, _) => True
    | (.ok session, world) =>
      let last := (run platform (session, world) moves).1
      last.early = false → (last.phase.live = true → last.result = .ok ∧ Sound last) ∧
        (last.phase.live = false → last.result.Terminal) := by
  rcases created : create platform config rx tx now world with ⟨answer, around⟩
  cases answer with
  | error => exact trivial
  | ok session =>
    have led := created_leads platform created moves
    obtain ⟨ready, _⟩ := create_ready platform created
    have course := (run_advances platform (session, around) moves (.inl ready)).state
    revert led course
    dsimp only
    generalize (run platform (session, around) moves).1 = last
    intro led course calm
    refine ⟨fun live => ?_, fun dead => ?_⟩
    · rcases course with going | ended
      · have fine := congrArg Prod.fst going.standing
        exact ⟨fine, (led.state.resolve_right fun reasoned => reasoned.error fine).1⟩
      · exact absurd (live.symm.trans ended.dead) (by simp)
    · rcases course with going | ended
      · exact absurd (going.live.symm.trans dead) (by simp)
      have reasoned := led.state.resolve_left fun sound => ended.result sound.2
      exact ⟨reasoned.error, reasoned.settled calm⟩

end

end EspFrp.Control.Session

namespace EspFrp.Control

open Binding Local Streams

/-! ## A scripted platform -/

/-- The answers to the reads of two streams, and what a write may take. -/
structure Wires where
  control : List (Except Result (List UInt8))
  work : List (Except Result (List UInt8)) := []
  opened : Nat := 0
  room : Nat := 4096

/-- Streams that answer from a script and accept everything else. -/
def scripted : Transport Wires where
  step wires _ := (.ok, wires)
  status _ := (.ok, { isOpen := true })
  openStream wires := (.ok, wires.opened, { wires with opened := wires.opened + 1 })
  accept wires := (.wouldBlock, 0, wires)
  info _ _ := (.ok, {})
  write wires _ bytes := (.ok, min wires.room bytes.length, wires)
  read wires id capacity :=
    let (answer, wires) :=
      if id = 0 then
        (wires.control.head?, { wires with control := wires.control.tail })
      else
        (wires.work.head?, { wires with work := wires.work.tail })
    match answer with
    | some (.ok bytes) => (.ok, bytes.take capacity, wires)
    | some (.error error) => (error, [], wires)
    | none => (.wouldBlock, [], wires)
  closeWrite wires _ := (.ok, wires)
  reset wires _ := (.ok, wires)
  release wires _ := (.ok, wires)
  finish _ := .wouldBlock
  cancel := id
  destroy wires := (.ok, wires)
  write_le _ _ _ := Nat.min_le_right _ _
  read_le wires id capacity := by
    dsimp only
    split
    · exact List.length_take_le _ _
    all_goals exact Nat.zero_le _

/-- The connections that wait at a listener, and whether they are alive. -/
structure Machine where
  waiting : Nat := 0
  alive : Bool := true

/-- An operating system on which only the local clients are special. -/
def plainOs : Os Machine where
  boundedLinger := true
  retryClose := true
  fdSetSize := 64
  allocate machine := (true, machine)
  resolve machine := (.ok, [], machine)
  stopResolving machine := (.ok, machine)
  socket machine := (.ok 3, machine)
  configure machine _ := (.ok (), machine)
  connect machine _ := (.ok (), machine)
  writable machine _ := (.ok true, machine)
  pendingError machine _ := (false, machine)
  send machine _ _ := (.error .again, machine)
  recv machine _ _ := (.error .again, machine)
  setLinger machine _ := (.ok (), machine)
  shutdown machine _ := (.ok (), machine)
  close machine _ := (.ok (), machine)
  listen machine _ := (.ok (), machine)
  readable machine _ := (.ok (machine.waiting != 0), machine)
  accept machine _ := (.ok 5, { machine with waiting := machine.waiting - 1 })
  hasPeer machine _ := (machine.alive, machine)
  send_le answer := by cases answer
  recv_le answer := by cases answer

/-- An object with the given texts. -/
def texts (members : List (String × Json.Value)) : Json.Value :=
  .object (members.map fun member => (Json.ascii member.1, member.2))

/-- The canonical text of 32 bytes of which the first is four. -/
def sampleRandom : Json.Value := .text (Json.ascii "BAAAAAAAAAAAAAAAAAAAAAAAAAAAAAAAAAAAAAAAAAA=")

/-- The documents of the script, each under one byte. -/
def sampleParse : Json.Parser
  | [1] =>
    some (texts [("selected", texts [("message", texts [("codec", .text (Json.ascii "json"))]),
        ("crypto", texts [("algorithm", .text (Json.ascii "aes-256-gcm")),
            ("serverRandom", sampleRandom)])])])
  | [2] => some (texts [("run_id", .text [1]), ("xtcp_control_id", sampleRandom)])
  | _ => some (texts [])

/-- A frame of the server. -/
def sampleFrame (kind : UInt8) (payload : List UInt8) : List UInt8 :=
  [0, kind, 0, 0, 0, 0, 0, UInt8.ofNat payload.length] ++ payload

/-- The platform of the script.  A record is its plaintext, and the second
step of a NAT object fails. -/
def sample : Platform Wires Machine Nat (List UInt8) Unit where
  work :=
    { transport := scripted
      os := plainOs
      datagrams :=
        { create := fun machine => (.error .noMemory, machine)
          step := fun machine _ => (.ok, machine)
          send := fun machine _ _ => (.ok, machine)
          recv := fun machine _ _ => (.wouldBlock, [], machine)
          destroy := fun machine _ => (.ok, machine) }
      codec :=
        { headerDecode := fun _ _ => none
          decode := fun _ => .error .truncated
          encode := fun _ _ => .error .truncated }
      parse := sampleParse
      messages :=
        { newWork := fun machine _ _ _ => (.ok [], machine)
          newVisitor := fun machine _ _ _ _ => (.ok [], machine)
          newWork_le := by rintro _ _ _ _ _ _ ⟨⟩; decide
          newVisitor_le := by rintro _ _ _ _ _ _ _ ⟨⟩; decide } }
  peer :=
    { step := fun peer _ => (.ok, peer)
      status := fun _ => (.ok, {})
      openStream := fun peer => (.wouldBlock, 0, peer)
      accept := fun peer => (.wouldBlock, 0, peer)
      info := fun _ _ => (.ok, {})
      write := fun peer _ _ => (.wouldBlock, 0, peer)
      read := fun peer _ _ => (.wouldBlock, [], peer)
      closeWrite := fun peer _ => (.ok, peer)
      reset := fun peer _ => (.ok, peer)
      release := fun peer _ => (.ok, peer)
      finish := fun _ => .ok
      cancel := id
      destroy := fun peer => (.ok, peer)
      write_le := fun _ _ _ => Nat.zero_le _
      read_le := fun _ _ _ => Nat.zero_le _ }
  rendezvous :=
    { random := fun peer => (some (.filled 1 32), peer)
      createIdentity := fun peer => (.ok, peer)
      certificate := fun _ => (.ok, .filled 1 32)
      checkCertificate := fun _ _ _ => .ok
      timeTrusted := fun _ => true
      createNat := fun peer _ => (.ok, peer)
      stepNat := fun peer _ => (if peer = 0 then .ok else .timeout, peer + 1)
      natStatus := fun _ => (.ok, .mapped)
      startDetect := fun peer _ _ _ => (.ok, peer)
      handoff := fun peer _ _ _ => (.ok, peer)
      cancelNat := id
      destroyNat := fun peer => (.ok, peer)
      exporter := fun _ => .ok (.filled 1 32) }
  signals :=
    { request := fun machine _ => (.ok [], machine)
      report := fun machine _ _ => (.ok [], machine)
      response := fun _ _ => some
        { rejected := true
          transactionId := Xtcp.Controller.hexEncode (List.replicate 32 1) } }
  crypto :=
    { hashing := { sha256 := fun _ => .filled 0 32, status := fun _ => .ok }
      hkdf := fun _ _ _ => .ok (.filled 0 32)
      hashing_terminal := by rintro _ _ ⟨⟩
      hkdf_terminal := by rintro _ _ _ _ ⟨⟩ }
  login :=
    { hello := fun machine _ => (.ok [1], machine)
      login := fun machine _ => (.ok [2], machine) }
  newProxy machine := (.ok [], machine)
  ping machine _ _ := (.ok [], machine)
  inbound :=
    { init := fun _ _ => (.ok, [])
      plaintext := fun rx =>
        if rx = [] then (.wouldBlock, [], rx) else (.ok, rx, rx)
      consume := fun rx length => (.ok, rx.drop length)
      feed := fun rx bytes => (.ok, bytes.length, rx ++ bytes)
      finish := fun _ => .ok
      close := fun _ => (.ok, [])
      init_settled := by simp
      consume_settled := by simp
      finish_settled := by simp }
  outbound :=
    { init := fun _ _ => (.ok, ())
      write := fun _ bytes => (.ok, bytes.length, ())
      output := fun _ => (.wouldBlock, [])
      consumeOutput := fun _ _ => (.ok, ())
      destroy := id
      init_settled := by simp
      consumeOutput_settled := by simp
      write_le := fun _ _ => Nat.le_refl _ }
  status_settled _ := by simp [scripted]
  info_settled _ _ := by simp [scripted]

/-- The configuration of the script. -/
def sampleConfig (kind : Kind) : Config where
  kind := kind
  login := { token := [1], unixSeconds := 1, stringsValid := true }
  optionalAddress := true
  localIpv4 := [127, 0, 0, 1]
  localPort := 1

/-- A run on the scripted platform. -/
def trial (kind : Kind) (wires : Wires) (machine : Machine)
    (moves : List Session.Move) : Option (Session (List UInt8) Unit) :=
  match Session.create sample (sampleConfig kind) [] () 0
      { net := wires, sys := machine, peer := 0 } with
  | (.ok session, world) => some (Session.run sample (session, world) moves).1
  | (.error _, _) => none

/-- A server hello that arrives while the login is being sent ends the
session with a request to wait. -/
theorem early_hello_ends : (trial .provider
      { control := [.error .wouldBlock, .ok (sampleFrame 2 [1])]
        room := 20 } {} [.step 1 1]).map
      (fun session => (session.phase, session.result, session.early)) =
      some (.failed, .wouldBlock, true) := by
  decide +kernel

end EspFrp.Control
