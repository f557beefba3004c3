import EspFrp.Xtcp.Outbox

/-!
# The admission of a provider

An admission is read until it ends, then its stream is reset and released.
It starts at most one attempt, a visitor has none, and a step of the
controller never ends with a request to wait.
-/

namespace EspFrp.Xtcp

/-- An admission that reads has not failed, and has not started anything. -/
structure Admission.Tidy (admission : Admission) : Prop where
  single : admission.attempts ≤ 1
  reading : admission.closing = false → admission.reader.failure = .ok ∧ admission.attempts = 0

namespace Controller

variable {Net Sys Peer : Type}

/-- The intake of a controller between two operations. -/
structure Tidy (xtcp : Controller) : Prop where
  admission : ∀ admission ∈ xtcp.admission, admission.Tidy
  visitor : xtcp.role = .visitor → xtcp.pendingRequests = 0 ∧ xtcp.admission = none

theorem Tidy.keep {xtcp next : Controller} (tidy : Tidy xtcp)
    (same : next.intake = xtcp.intake) : Tidy next := by
  obtain ⟨role, pending, admission⟩ : next.role = xtcp.role ∧ next.pendingRequests =
      xtcp.pendingRequests ∧ next.admission = xtcp.admission := by
    simpa [intake] using same
  refine ⟨?_, ?_⟩
  · rw [admission]
    exact tidy.admission
  · rw [role, pending, admission]
    exact tidy.visitor

/-- A provider has another admission. -/
theorem Tidy.holding (xtcp : Controller) {next : Controller} {admission : Admission}
    (provider : xtcp.role ≠ .visitor) (role : next.role = xtcp.role)
    (there : next.admission = some admission) (orderly : admission.Tidy) : Tidy next := by
  refine ⟨?_, ?_⟩
  · rw [there]
    rintro _ ⟨⟩
    exact orderly
  · rw [role]
    exact fun visitor => absurd visitor provider

/-- What an operation answers and leaves. -/
structure Steady (result : Result) (next : Controller) : Prop where
  settled : result ≠ .wouldBlock
  tidy : Tidy next

section

variable (platform : Platform Net Sys Peer)
variable (xtcp : Controller) (admission : Admission) (now : Nat) (seconds : Int)
  (world : World Net Sys Peer)

theorem openAdmission_steady (runId token : List UInt8)
    (world : World Net Sys Peer) (tidy : Tidy xtcp) :
    Steady (xtcp.openAdmission platform now seconds runId token world).1
      (xtcp.openAdmission platform now seconds runId token world).2.1 := by
  dsimp only [openAdmission]
  split
  · exact ⟨by simp, tidy⟩
  · next busy =>
    have provider : xtcp.role ≠ .visitor := fun visitor => busy (.inl (tidy.visitor visitor).1)
    split
    · exact ⟨by simp, tidy⟩
    split
    · split
      · next error _ =>
        refine ⟨by cases error <;> simp [Work.EncodeError.result],
          .holding xtcp provider rfl rfl ⟨by simp, by simp⟩⟩
      split
      · next encoded =>
        refine ⟨?_, .holding xtcp provider rfl rfl ⟨by simp, by simp⟩⟩
        simp only [Wire.messageFrame, Wire.header] at encoded
        split at encoded <;> cases encoded
        simp
      · exact ⟨by simp, .holding xtcp provider rfl rfl ⟨by simp, by simp⟩⟩
    · exact ⟨by simp, tidy⟩
    · next blocked _ => exact ⟨blocked, tidy⟩

theorem closeAdmission_steady (tidy : Tidy xtcp) :
    Steady (xtcp.closeAdmission platform admission world).1
      (xtcp.closeAdmission platform admission world).2.1 := by
  dsimp only [closeAdmission]
  split
  · split
    · exact ⟨by simp, by simp, fun visitor => ⟨(tidy.visitor visitor).1, rfl⟩⟩
    · exact ⟨by simp, tidy⟩
    · next blocked _ => exact ⟨blocked, tidy⟩
  · exact ⟨by simp, tidy⟩
  · next blocked _ => exact ⟨blocked, tidy⟩

/-- The answer of `begin_attempt` where nothing is in its way. -/
theorem beginAttempt_settled (sid : List UInt8) (now : Nat) (world : World Net Sys Peer)
    (free : xtcp.attempt.isNone ∧ xtcp.phase = .idle ∧ xtcp.output = [] ∧ !xtcp.reportPending) :
    (xtcp.beginAttempt platform sid now world).1 ≠ .wouldBlock := by
  dsimp only [beginAttempt]
  split
  · next busy =>
    obtain ⟨_, _, _, _⟩ := free
    simp_all
  split
  · simp
  · split <;> simp

theorem endAdmission_steady (provider : xtcp.role ≠ .visitor)
    (fine : admission.reader.failure = .ok) (unused : admission.attempts = 0) :
    Steady (xtcp.endAdmission platform admission now world).1
      (xtcp.endAdmission platform admission now world).2.1 := by
  dsimp only [endAdmission]
  split
  · split
    · next free =>
      refine ⟨beginAttempt_settled platform _ _ _ _ free, ?_⟩
      refine .keep ?_ (congrArg Prod.snd (beginAttempt_held platform _ _ _ _))
      exact .holding xtcp provider rfl rfl ⟨by simp [unused], by simp⟩
    · refine ⟨by simp, .holding xtcp provider ?_ rfl ⟨by simp [unused], by simp⟩⟩
      exact congrArg (·.2.1) (report_held xtcp admission.sid false)
  · exact ⟨admission.reader.finish_settled fine,
      .holding xtcp provider rfl rfl ⟨by simp [unused], by simp⟩⟩

/-- What a frame leaves of an admission. -/
theorem admitFrame_keeps (parse : Json.Parser) (proxyName : List UInt8) (admission : Admission)
    (kind : Wire.Kind) (payload : List UInt8) :
    (admitFrame parse proxyName admission kind payload).2.attempts = admission.attempts := by
  dsimp only [admitFrame]
  repeat' split
  all_goals rfl

/-- The bytes that were read leave the admission in order. -/
theorem fed_tidy {parse : Json.Parser} {proxyName bytes : List UInt8}
    {begun fed : Admission}
    {reader : Wire.Reader} (fine : begun.reader.failure = .ok)
    (unused : begun.attempts = 0)
    (feeding : begun.reader.feed (admitFrame parse proxyName) begun bytes =
      (result, used, reader, fed)) :
    fed.attempts = 0 ∧ reader.failure = result := by
  have kept := Wire.Reader.feedAll_keeps Admission.attempts
    (admitFrame_keeps parse proxyName) false begun.reader begun bytes
  have failure := Wire.Reader.feedAll_failure (admitFrame parse proxyName)
    false begun.reader begun bytes fine
  rw [Wire.Reader.feed] at feeding
  rw [feeding] at kept failure
  exact ⟨kept.trans unused, failure.1⟩

theorem stepAdmission_steady (tidy : Tidy xtcp) : Steady (xtcp.stepAdmission platform now world).1
      (xtcp.stepAdmission platform now world).2.1 := by
  dsimp only [stepAdmission]
  split
  · exact ⟨by simp, tidy⟩
  · next admission present =>
    have provider : xtcp.role ≠ .visitor := fun visitor => by
      simp [(tidy.visitor visitor).2] at present
    have orderly := tidy.admission admission present
    split
    · exact closeAdmission_steady platform xtcp admission world tidy
    · next reading =>
      obtain ⟨fine, unused⟩ := orderly.reading (by simpa using reading)
      have ended : Admission.Tidy { admission with closing := true } := ⟨orderly.single, by simp⟩
      split
      · exact ⟨by simp, .holding xtcp provider rfl rfl ⟨orderly.single, by simp⟩⟩
      split
      · dsimp only [writeAdmission]
        split
        · refine ⟨by simp, .holding xtcp provider rfl rfl ?_⟩
          split <;> exact ⟨orderly.single, fun _ => ⟨fine, unused⟩⟩
        · exact ⟨by simp, tidy⟩
        · exact ⟨by simp, .holding xtcp provider rfl rfl ended⟩
      · dsimp only [readAdmission]
        split
        · exact ⟨by simp, tidy⟩
        · exact endAdmission_steady platform _ _ _ _ provider fine unused
        · next bytes net _ =>
          generalize started : (if admission.begun = true then
            admission else { admission with
              begun := true
              deadline := now + Work.responseMs }) = begun
          have same : begun.reader.failure = .ok ∧ begun.attempts = 0 := by
            rw [← started]
            split <;> exact ⟨fine, unused⟩
          rcases feeding : begun.reader.feed (admitFrame
            platform.business.parse xtcp.proxyName) begun bytes with
            ⟨result, used, reader, fed⟩
          obtain ⟨single, failure⟩ := fed_tidy same.1 same.2 feeding
          refine ⟨by simp, ?_⟩
          split
          · next taken =>
            exact .holding xtcp provider rfl rfl ⟨by simp [single],
              fun _ => ⟨failure.trans taken, single⟩⟩
          · exact .holding xtcp provider rfl rfl ⟨by simp [single], by simp⟩
        · exact ⟨by simp, .holding xtcp provider rfl rfl ended⟩

/-! ## The other operations -/

theorem acceptLocal_settled : (xtcp.acceptLocal platform now world).1 ≠ .wouldBlock := by
  dsimp only [acceptLocal]
  split
  · split
    · simp
    split
    · split
      · simp
      · simp
      · next blocked _ => exact fun same => blocked (same ▸ rfl)
    · simp
    · next blocked _ => exact blocked
  · simp

theorem step_moves (runId token : List UInt8) (world : World Net Sys Peer) :
    Emits xtcp (xtcp.step platform now seconds runId token world).2.1 ∧
      (Tidy xtcp → Steady (xtcp.step platform now seconds runId token world).1
        (xtcp.step platform now seconds runId token world).2.1) := by
  have drained := Places.held (drainAttempt_held platform xtcp now world)
  dsimp only [step]
  split
  · exact ⟨.refl xtcp, fun tidy => ⟨by simp, tidy⟩⟩
  split
  · exact ⟨drained.emits, fun tidy => ⟨by simp, tidy.keep drained.intake⟩⟩
  split
  · exact ⟨.refl xtcp, fun tidy => ⟨by simp, tidy⟩⟩
  split
  · exact ⟨drained.emits, fun tidy => ⟨by simp, tidy.keep drained.intake⟩⟩
  have outbox := congrArg Prod.fst (openAdmission_label platform xtcp now seconds runId token world)
  have opened := openAdmission_steady platform xtcp now seconds runId token world
  split
  · next first world opening =>
    rw [opening] at outbox opened
    have outbox' := congrArg Prod.fst (stepAdmission_label platform first now world)
    have stepped := stepAdmission_steady platform first now world
    split
    · next second world stepping =>
      rw [stepping] at outbox' stepped
      have settled := acceptLocal_settled platform second now world
      have accepted := acceptLocal_held platform second now world
      split
      · next third world accepting =>
        rw [accepting] at accepted
        have kept := (attemptLocal_held platform third now world).trans accepted
        have advanced := advanceAttempt_places platform (third.attemptLocal platform now world).1
          now seconds (third.attemptLocal platform now world).2
        refine ⟨.after ((congrArg Prod.fst kept).trans (outbox'.trans outbox)) advanced.emits, ?_⟩
        intro tidy
        refine ⟨by simp, (stepped (opened tidy).tidy).tidy.keep ?_⟩
        exact advanced.intake.trans (congrArg Prod.snd kept)
      · next accepting =>
        rw [accepting] at settled accepted
        refine ⟨.kept ((congrArg Prod.fst accepted).trans (outbox'.trans outbox)), ?_⟩
        exact fun tidy => ⟨settled, (stepped (opened tidy).tidy).tidy.keep
          (congrArg Prod.snd accepted)⟩
    · next stepping =>
      rw [stepping] at outbox' stepped
      exact ⟨.kept (outbox'.trans outbox), fun tidy => stepped (opened tidy).tidy⟩
  · next opening =>
    rw [opening] at outbox opened
    exact ⟨.kept outbox, opened⟩

theorem response_steady (kind : Wire.Kind) (payload : List UInt8) (now : Nat) (seconds : Int)
    (world : World Net Sys Peer) (tidy : Tidy xtcp) :
    Steady (xtcp.response platform kind payload now seconds world).1
      (xtcp.response platform kind payload now seconds world).2.1 := by
  refine ⟨?_, tidy.keep (congrArg Prod.snd (response_held platform _ _ _ _ _ _))⟩
  dsimp only [response]
  repeat' split
  all_goals simp

omit platform in
theorem request_tidy {xtcp : Controller} (tidy : Tidy xtcp) : Tidy xtcp.request := by
  dsimp only [request]
  split
  · exact tidy.keep rfl
  · next free =>
    exact ⟨tidy.admission, fun visitor => absurd visitor (by
      simp_all)⟩

end

end Controller

end EspFrp.Xtcp
