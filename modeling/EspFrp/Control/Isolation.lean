import EspFrp.Control.Endings

/-!
# What does not end a session

An answer to an attempt, an admission and a local client are matters of the
controller or of one work stream.  Each of them is contained where it arrives
as the code expects it; the runs after the results show what happens where it
does not.
-/

namespace EspFrp.Control

open Local Session Streams Xtcp

variable {Net Sys Peer Rx Tx : Type} (platform : Platform Net Sys Peer Rx Tx)

/-! ## Answers -/

/-- A well-formed answer arrives while its attempt waits for it. -/
structure Awaited (session : Session Rx Tx) (xtcp : Controller) (payload : List UInt8) : Prop where
  registered : session.phase = .registered
  present : session.xtcp = some xtcp
  clock : 0 < session.unixSeconds
  shaped : 2 ≤ payload.length ∧ payload.getD 0 0 = 0 ∧ payload.getD 1 0 = 22
  signaling : xtcp.phase = .signaling
  asked : ∃ attempt response, xtcp.attempt = some attempt ∧
    platform.signals.response .message payload = some response ∧
    response.transactionId = attempt.transactionId

/-- The identifier of the only attempt of the script. -/
def sampleTransaction : List UInt8 := Controller.hexEncode (List.replicate 32 1)

/-- A login of the script, and the first heartbeat. -/
def sampleLogin : List (Except Result (List UInt8)) :=
  [.error .wouldBlock, .ok (sampleFrame 2 [1]), .ok (sampleFrame 16 [0, 2, 2])]

/-- A visitor whose answer comes when its attempt has failed. -/
def lateAnswer : Wires where
  control := sampleLogin ++ [.ok (sampleFrame 16 [0, 12]),
    .error .wouldBlock, .error .wouldBlock, .error .wouldBlock,
    .ok (sampleFrame 16 [0, 22])]

/-- The allocations succeed, the request is printed, and the control
transport refuses nothing. -/
structure Healthy : Prop where
  allocates : ∀ sys, (platform.work.os.allocate sys).1 = true
  prints : ∀ sys runId token seconds, ∃ text,
    (platform.work.messages.newWork sys runId token seconds).1 = .ok text
  opens : ∀ net, ¬ (platform.work.transport.openStream net).1.Terminal
  calm : Work.Calm platform.work.transport

/-- A provider whose controller is being stepped. -/
structure Serving (session : Session Rx Tx) (xtcp : Controller)
    (now : Nat) (seconds : Int) : Prop where
  present : session.xtcp = some xtcp
  phase : session.phase ≠ .authenticating
  answered : session.pongs ≠ 0
  token : session.token ≠ []
  clock : 0 < seconds ∧ now ≤ timeMax - 60000
  running : xtcp.authenticated = true ∧ xtcp.started = true ∧ xtcp.cancelled = false

/-- The stream of an admission does not end within a frame. -/
def Unbroken (xtcp : Controller) (net : Net) : Prop :=
  ∀ admission ∈ xtcp.admission, (platform.work.transport.streamRead net (some admission.stream)
      1024).1 = .eof → admission.reader.finish ≠ .truncated

section

variable (healthy : Healthy platform) (xtcp : Controller) (admission : Admission) (now : Nat)
  (seconds : Int) (runId token : List UInt8) (world : World Net Sys Peer)

include healthy

theorem openAdmission_ok :
    (xtcp.openAdmission platform.xtcp now seconds runId token world).1 = .ok := by
  have given := healthy.allocates
  have opened := healthy.opens world.net
  dsimp only [Controller.openAdmission]
  split
  · rfl
  split
  · next refused =>
    have taken := given world.sys
    rw [show platform.work.os.allocate world.sys = (false, _) from refused] at taken
    cases taken
  · split
    · obtain ⟨text, printed⟩ := healthy.prints _ runId token seconds
      split
      · next failed =>
        have error := printed.symm.trans failed
        cases error
      · next text printed =>
        have short := platform.work.messages.newWork_le (Prod.ext printed rfl)
        simp only [Wire.messageFrame, Wire.header]
        rw [if_neg (by simp only [Wire.maxPayload]; omega)]
        rfl
    · rfl
    · next bad blocked answer =>
      rw [show platform.work.transport.openStream world.net = _ from answer] at opened
      exact absurd ⟨bad, blocked⟩ opened

/-- An admission that has ended is reset and released. -/
theorem closeAdmission_ok : (xtcp.closeAdmission platform.xtcp admission world).1 = .ok ∧
      ((xtcp.closeAdmission platform.xtcp admission world).2.1.admission = none ∨
        (xtcp.closeAdmission platform.xtcp admission world).2.1 = xtcp) := by
  dsimp only [Controller.closeAdmission]
  split
  · split
    · exact ⟨rfl, .inl rfl⟩
    · exact ⟨rfl, .inr rfl⟩
    · next net _ _ _ _ bad blocked answer =>
      have refused := healthy.calm.release net admission.stream
      rw [show platform.work.transport.release net admission.stream = _ from answer] at refused
      exact absurd ⟨bad, blocked⟩ refused
  · exact ⟨rfl, .inr rfl⟩
  · next bad blocked answer =>
    have refused := healthy.calm.reset world.net admission.stream
    rw [show platform.work.transport.reset world.net admission.stream = _ from answer] at refused
    exact absurd ⟨bad, blocked⟩ refused

theorem endAdmission_ok (fine : admission.reader.failure = .ok)
    (unbroken : admission.reader.finish ≠ .truncated) :
    (xtcp.endAdmission platform.xtcp admission now world).1 = .ok := by
  have ended : admission.reader.finish = .ok := by
    have truncated := unbroken
    dsimp only [Wire.Reader.finish] at truncated ⊢
    rw [if_neg (not_not.mpr fine)] at truncated ⊢
    split
    · next unfinished => exact absurd (if_pos unfinished) truncated
    · rfl
  dsimp only [Controller.endAdmission]
  split
  · split
    · next free =>
      dsimp only [Controller.beginAttempt]
      split
      · next busy =>
        obtain ⟨_, _, _, _⟩ := free
        simp_all
      split
      · next refused =>
        have given := healthy.allocates world.sys
        rw [show platform.work.os.allocate world.sys = (false, _) from refused] at given
        cases given
      · split <;> rfl
    · rfl
  · exact ended

omit healthy in
/-- An admission whose stream has ended is closed. -/
theorem readAdmission_closes (ended : (platform.work.transport.streamRead world.net
      (some admission.stream) 1024).1.Terminal) :
    ∀ after ∈ (xtcp.readAdmission platform.xtcp admission now
      world).2.1.admission, after.closing = true := by
  dsimp only [Controller.readAdmission]
  split
  · next answer => exact absurd (congrArg Prod.fst answer) ended.2
  · dsimp only [Controller.endAdmission]
    split
    · split
      · have held : ∀ (xtcp : Controller) world, (xtcp.beginAttempt platform.xtcp admission.sid now
              world).2.1.admission = xtcp.admission :=
          fun xtcp world => congrArg (·.2.2.2)
            (Controller.beginAttempt_held platform.xtcp xtcp admission.sid now world)
        rw [held]
        rintro _ ⟨⟩
        rfl
      · rintro _ ⟨⟩
        rfl
    · rintro _ ⟨⟩
      rfl
  · next answer => exact absurd (congrArg Prod.fst answer) ended.1
  · rintro _ ⟨⟩
    rfl

theorem stepAdmission_ok (tidy : xtcp.Tidy) (unbroken : Unbroken platform xtcp world.net) :
    (xtcp.stepAdmission platform.xtcp now world).1 = .ok := by
  dsimp only [Controller.stepAdmission]
  split
  · rfl
  · next admission present =>
    split
    · exact (closeAdmission_ok platform healthy xtcp admission world).1
    · next reading =>
      obtain ⟨fine, _⟩ := (tidy.admission admission present).reading (by simpa using reading)
      split
      · rfl
      split
      · dsimp only [Controller.writeAdmission]
        repeat' split
        all_goals rfl
      dsimp only [Controller.readAdmission]
      split
      · rfl
      · next answer =>
        refine endAdmission_ok platform healthy _ _ _ _ fine (unbroken admission present ?_)
        exact congrArg Prod.fst answer
      · rfl
      · rfl

omit healthy in
/-- A new admission has read nothing. -/
theorem openAdmission_unbroken (unbroken : Unbroken platform xtcp world.net) :
    Unbroken platform (xtcp.openAdmission platform.xtcp now seconds runId token world).2.1
      (xtcp.openAdmission platform.xtcp now seconds runId token world).2.2.net := by
  dsimp only [Controller.openAdmission]
  split
  · exact unbroken
  · next busy =>
    have none : xtcp.admission = none := by simp_all
    split
    · exact unbroken
    repeat' split
    all_goals
      intro admission there
      simp only [none, Option.mem_def, Option.some.injEq, reduceCtorEq] at there
    all_goals
      rw [← there]
      exact fun _ => by simp [Wire.Reader.finish]

end

variable {session : Session Rx Tx} {seconds : Int}

/-- A step of a controller is made of three answers. -/
theorem step_ok {xtcp first second : Controller} {now : Nat} {runId : List UInt8}
    {world opened stepped : World Net Sys Peer}
    (serving : Serving session xtcp now seconds)
    (opening : xtcp.openAdmission platform.xtcp now seconds runId
      session.token world = (.ok, first, opened))
    (stepping : first.stepAdmission platform.xtcp now opened = (.ok, second, stepped))
    (accepting : (second.acceptLocal platform.xtcp now stepped).1 = .ok) :
    (xtcp.step platform.xtcp now seconds runId session.token world).1 = .ok := by
  obtain ⟨authenticated, started, cancelled⟩ := serving.running
  have valid : ¬ (session.token = [] ∨ seconds ≤ 0 ∨ timeMax - 60000 < now) := by
    rintro (empty | late | far)
    · exact serving.token empty
    · exact absurd serving.clock.1 (not_lt.mpr late)
    · exact absurd serving.clock.2 (not_le.mpr far)
  rcases acceptance : second.acceptLocal platform.xtcp now stepped with ⟨result, third, reached⟩
  rw [acceptance] at accepting
  cases accepting
  simp only [Controller.step, if_neg valid, authenticated, started,
    cancelled, opening, stepping, acceptance]
  simp only [Bool.false_eq_true, if_false, Bool.not_true, or_self]
  split <;> rfl

/-- The service of a session whose controller answers well. -/
theorem stepService_xtcp {xtcp : Controller} {now : Nat}
    {world : World Net Sys Peer} (serving : Serving session xtcp now seconds)
    (fine : (xtcp.step platform.xtcp now seconds session.runId session.token world).1 = .ok) :
    stepService platform now seconds (session, world) =
      (.ok, { session with
        xtcp := some (xtcp.step platform.xtcp now seconds session.runId session.token world).2.1 },
        (xtcp.step platform.xtcp now seconds session.runId session.token world).2.2) := by
  simp only [stepService, if_neg serving.phase, serving.present, if_neg serving.answered, fine]

/-- A provider whose admission is closed within a frame. -/
def brokenAdmission : Wires where
  control := sampleLogin ++ [.ok (sampleFrame 16 [0, 4]),
    .ok (sampleFrame 16 [0, 12]), .ok (sampleFrame 16 [0, 7])]
  work := [.ok [0, 16, 0], .error .eof]

/-- The listener of an STCP visitor answers. -/
structure Visiting (session : Session Rx Tx) (sys : Sys) : Prop where
  visitor : session.kind = .visitor
  plain : session.xtcp = none
  phase : session.phase ≠ .authenticating
  answered : session.pongs ≠ 0
  listens : ∃ visit listener, session.work.group.visitor = some visit ∧
    session.work.group.peerRole = none ∧ visit.started = true ∧
    visit.listener = some listener ∧
    ¬ (listener.ready platform.work.os sys).1.Terminal

/-- The listener of an XTCP visitor answers, and accepts a connection or
none. -/
structure Accepting (xtcp : Controller) (now : Nat) (sys : Sys) : Prop where
  role : xtcp.role = .visitor
  listens : ∃ listener, xtcp.listener = some listener ∧
    ¬ (listener.ready platform.work.os sys).1.Terminal ∧
    ∀ ready next error, listener.ready platform.work.os sys = (.ok, ready, next) →
      (ready.accept platform.work.os now next).1 = .error error →
      error = .wouldBlock

theorem acceptLocal_ok (xtcp : Controller) (now : Nat) (world : World Net Sys Peer)
    (accepting : Accepting platform xtcp now world.sys) :
    (xtcp.acceptLocal platform.xtcp now world).1 = .ok := by
  obtain ⟨listener, present, usable, accepts⟩ := accepting.listens
  rcases ready : listener.ready platform.work.os world.sys with ⟨result, asked, next⟩
  rw [ready] at usable
  have os : platform.xtcp.business.os = platform.work.os := rfl
  simp only [Controller.acceptLocal, present, os, ready]
  split
  · rcases Result.not_terminal usable with fine | blocked
    · cases fine
      rcases answer : asked.accept platform.work.os now next with ⟨connect, kept, after⟩
      cases connect with
      | ok => simp only [answer]
      | error error =>
        cases accepts asked next error ready (congrArg Prod.fst answer)
        simp only [answer]
    · cases blocked
      rfl
  · rfl

end EspFrp.Control
