import EspFrp.Wire.Feeding
import EspFrp.Xtcp.Controller

/-!
# The output of the controller

A controller holds at most one frame for the control session.  Whatever an
attempt does, a frame in the output stays there as it was encoded, and a new
one is placed only into an empty output.
-/

namespace EspFrp.Xtcp

/-- A request or a report of the controller. -/
def Signal (frame : List UInt8) : Prop :=
  ∃ type ∈ [20, 21, 24], ∃ text, Wire.messageFrame type text = .ok frame

theorem Signal.nonempty (signal : Signal frame) : frame ≠ [] := by
  obtain ⟨_, _, _, encoded⟩ := signal
  exact Wire.messageFrame_ne_nil encoded

namespace Controller

variable {Net Sys Peer : Type}

/-- The frame in the output, how much of it was taken, and all frames. -/
def outbox (xtcp : Controller) : List UInt8 × Nat × List (List UInt8) :=
  (xtcp.output, xtcp.outputOffset, xtcp.encoded)

/-- The role, the request that waits for an admission, and the admission. -/
def intake (xtcp : Controller) : Binding.Role × Nat × Option Admission :=
  (xtcp.role, xtcp.pendingRequests, xtcp.admission)

/-- The output and the role. -/
def label (xtcp : Controller) : (List UInt8 × Nat × List (List UInt8)) × Binding.Role :=
  (xtcp.outbox, xtcp.role)

/-- The output and the intake. -/
def held (xtcp : Controller) : (List UInt8 × Nat × List (List UInt8)) ×
      (Binding.Role × Nat × Option Admission) := (xtcp.outbox, xtcp.intake)

/-- What an operation may do to the output. -/
inductive Emits (xtcp next : Controller) : Prop where
  | kept (same : next.outbox = xtcp.outbox)
  | emitted (frame : List UInt8) (empty : xtcp.output = []) (signal : Signal frame)
      (placed : next.outbox = (frame, 0, xtcp.encoded ++ [frame]))

theorem Emits.refl (xtcp : Controller) : Emits xtcp xtcp := .kept rfl

/-- What an operation on the attempt may do: it leaves the intake alone. -/
structure Places (xtcp next : Controller) : Prop where
  emits : Emits xtcp next
  intake : next.intake = xtcp.intake

theorem Places.held {xtcp next : Controller} (same : next.held = xtcp.held) : Places xtcp next :=
  ⟨.kept (congrArg Prod.fst same), congrArg Prod.snd same⟩

theorem Emits.after (same : second.outbox = first.outbox)
    (emits : Emits second third) : Emits first third := by
  cases emits with
  | kept again => exact .kept (again.trans same)
  | emitted frame empty signal placed =>
    have encoded : second.encoded = first.encoded := congrArg (·.2.2) same
    refine .emitted frame ?_ signal ?_
    · exact (congrArg Prod.fst same).symm.trans empty
    · rw [placed, encoded]

theorem Emits.then (emits : Emits first second)
    (same : third.outbox = second.outbox) : Emits first third := by
  cases emits with
  | kept before => exact .kept (same.trans before)
  | emitted frame empty signal placed => exact .emitted frame empty signal (same.trans placed)

/-! ## Operations that leave the output and the intake alone -/

theorem report_held (xtcp : Controller) (sid : List UInt8)
    (success : Bool) : (xtcp.report sid success).held = xtcp.held := by
  dsimp only [report]
  split
  · rfl
  · split <;> rfl

section

variable (platform : Platform Net Sys Peer) (xtcp : Controller) (sid : List UInt8)
  (result : Result) (kind : Wire.Kind) (payload : List UInt8) (attempt : Attempt) (now : Nat)
  (seconds : Int) (runId token : List UInt8) (peer : Peer) (sys : Sys) (world : World Net Sys Peer)

theorem failAttempt_held : (xtcp.failAttempt platform result world).1.held = xtcp.held := by
  dsimp only [failAttempt]
  split
  · rfl
  split
  · rfl
  · exact report_held _ _ _

theorem drainAttempt_held : (xtcp.drainAttempt platform now world).2.1.held = xtcp.held := by
  dsimp only [drainAttempt]
  repeat' split
  all_goals rfl

theorem beginAttempt_held : (xtcp.beginAttempt platform sid now world).2.1.held = xtcp.held := by
  dsimp only [beginAttempt]
  split
  · rfl
  split
  · rfl
  split
  · rfl
  · exact failAttempt_held platform _ _ _

theorem openAdmission_label :
    (xtcp.openAdmission platform now seconds runId token world).2.1.label = xtcp.label := by
  dsimp only [openAdmission]
  repeat' split
  all_goals rfl

theorem stepAdmission_label : (xtcp.stepAdmission platform now world).2.1.label = xtcp.label := by
  dsimp only [stepAdmission]
  split
  · rfl
  split
  · dsimp only [closeAdmission]
    repeat' split
    all_goals rfl
  split
  · rfl
  split
  · dsimp only [writeAdmission]
    repeat' split
    all_goals rfl
  dsimp only [readAdmission]
  split
  · rfl
  · dsimp only [endAdmission]
    split
    · split
      · exact congrArg (fun held => (held.1, held.2.1)) (beginAttempt_held platform _ _ _ _)
      · exact congrArg (fun held => (held.1, held.2.1)) (report_held _ _ _)
    · rfl
  · repeat' split
    all_goals rfl
  · rfl

theorem readProof_held : (xtcp.readProof platform attempt peer).2.1.held = xtcp.held := by
  dsimp only [readProof]
  repeat' split
  all_goals rfl

theorem writeProof_held : (xtcp.writeProof platform attempt peer).2.1.held = xtcp.held := by
  dsimp only [writeProof]
  repeat' split
  all_goals rfl

theorem finishProof_held : (xtcp.finishProof platform attempt peer).2.1.held = xtcp.held := by
  dsimp only [finishProof]
  split
  · split
    · exact report_held _ _ _
    · rfl
    · rfl
  · rfl

theorem proofStep_held : (xtcp.proofStep platform attempt now peer).2.1.held = xtcp.held := by
  dsimp only [proofStep]
  split
  · rfl
  split
  · rfl
  · next attempt peer _ =>
    have read := readProof_held platform xtcp attempt peer
    split
    · next reading =>
      rw [reading] at read
      exact read
    · next xtcp' attempt peer reading =>
      rw [reading] at read
      have write := writeProof_held platform xtcp' attempt peer
      split
      · next writing =>
        rw [writing] at write
        exact write.trans read
      · next writing =>
        rw [writing] at write
        exact (finishProof_held platform _ _ _).trans (write.trans read)

theorem stepBusiness_held : (xtcp.stepBusiness platform now world).2.1.held = xtcp.held := by
  have adopted : (xtcp.adoptLocal platform now world.sys).2.1.held =
      xtcp.held := by
    dsimp only [adoptLocal]
    split
    · rfl
    · split <;> rfl
  dsimp only [stepBusiness]
  split <;> exact adopted

theorem beginProof_held : (xtcp.beginProof platform attempt peer).2.held = xtcp.held := by
  dsimp only [beginProof]
  split
  · rfl
  · split <;> rfl

theorem stepPeer_held : (xtcp.stepPeer platform attempt now world).2.1.held = xtcp.held := by
  dsimp only [stepPeer]
  split
  · rfl
  split
  · split
    · split
      · rfl
      split
      · rfl
      have begun := beginProof_held platform xtcp attempt
        (platform.business.transport.step world.peer now).2
      split
      · next beginning =>
        rw [beginning] at begun
        split
        · exact begun
        · exact (proofStep_held platform _ _ _ _).trans begun
      · next beginning =>
        rw [beginning] at begun
        exact begun
    · split
      · exact proofStep_held platform _ _ _ _
      split
      · exact stepBusiness_held platform _ _ _
      · rfl
  · rfl

theorem handOver_held : (xtcp.handOver platform attempt now seconds peer).2.1.held = xtcp.held := by
  dsimp only [handOver]
  repeat' split
  all_goals rfl

theorem attemptLocal_held : (xtcp.attemptLocal platform now world).1.held = xtcp.held := by
  dsimp only [attemptLocal]
  split
  · split
    · exact beginAttempt_held platform _ _ _ _
    · exact (failAttempt_held platform _ _ _).trans (beginAttempt_held platform _ _ _ _)
  · rfl

theorem acceptLocal_held : (xtcp.acceptLocal platform now world).2.1.held = xtcp.held := by
  dsimp only [acceptLocal]
  split
  · split
    · rfl
    split
    · split
      · exact attemptLocal_held platform _ _ _
      · rfl
      · rfl
    · rfl
    · rfl
  · rfl

theorem response_held :
    (xtcp.response platform kind payload now seconds world).2.1.held = xtcp.held := by
  dsimp only [response]
  split
  · split
    · rfl
    split
    · rfl
    split
    · rfl
    · exact failAttempt_held platform _ _ _
  · rfl

/-! ## Operations that may place a frame -/

omit platform in
/-- A frame of the codec is a signal of its type. -/
theorem frame_signal (known : type ∈ [20, 21, 24]) (framed : frame type text = .ok bytes) :
    Signal bytes := by
  dsimp only [frame] at framed
  split at framed
  · cases framed
  split at framed
  · cases framed
  · exact ⟨type, known, _, framed⟩

theorem signalRequest_places :
    Places xtcp (xtcp.signalRequest platform attempt seconds world).2.1 := by
  dsimp only [signalRequest]
  split
  · next sys allocated =>
    have empty : xtcp.output = [] := by
      dsimp only [allocateOutput] at allocated
      split at allocated
      · cases allocated
      · next empty => simpa using empty
    split
    · split
      · exact .held rfl
      · next bytes framed =>
        refine ⟨.emitted bytes empty (frame_signal ?_ framed) rfl, rfl⟩
        cases xtcp.role <;> decide
    · exact .held rfl
  · exact .held rfl

theorem emitReport_emits : Emits xtcp (xtcp.emitReport platform sys).2.1 := by
  dsimp only [emitReport]
  split
  · next due =>
    split
    · split
      · exact .kept rfl
      · next bytes framed => exact .emitted bytes due.1 (frame_signal (by decide) framed) rfl
    · exact .kept rfl
  · exact .kept rfl

/-- No output means that there is no frame. -/
theorem xtcpOutput_blocked {xtcp next : Controller} {sys after : Sys} {bytes : List UInt8}
    (asked : xtcp.xtcpOutput platform sys = (.wouldBlock, bytes, next, after)) :
    next.output = [] := by
  dsimp only [xtcpOutput] at asked
  split at asked
  · cases asked
  split at asked
  · split at asked
    · next empty =>
      cases asked
      exact empty
    · cases asked
  · next bad reported =>
    cases asked
    dsimp only [emitReport] at reported
    split at reported
    · next due =>
      split at reported
      · split at reported
        · cases reported
          exact due.1
        · cases reported
      · cases reported
        exact due.1
    · cases reported

theorem xtcpOutput_emits : Emits xtcp (xtcp.xtcpOutput platform sys).2.2.1 := by
  have emits := emitReport_emits platform xtcp sys
  dsimp only [xtcpOutput]
  split
  · exact .refl xtcp
  split
  · next reported =>
    rw [reported] at emits
    split <;> exact emits
  · next reported =>
    rw [reported] at emits
    exact emits

theorem stepAttempt_places : Places xtcp (xtcp.stepAttempt platform now seconds world).2.1 := by
  dsimp only [stepAttempt]
  split
  · exact .held rfl
  · next attempt _ =>
    split
    all_goals try exact .held (stepPeer_held platform _ _ _ _)
    all_goals
      split
      · exact .held rfl
      split
      · split
        · exact signalRequest_places platform _ _ _ _
        split
        · exact .held rfl
        have handed := handOver_held platform xtcp attempt now
          seconds (platform.rendezvous.stepNat world.peer now).2
        split
        · next handing =>
          rw [handing] at handed
          split
          · exact .held handed
          · exact .held ((stepPeer_held platform _ _ _ _).trans handed)
        · next handing =>
          rw [handing] at handed
          exact .held handed
      · exact .held rfl

theorem advanceAttempt_places : Places xtcp (xtcp.advanceAttempt platform now seconds world).1 := by
  have places := stepAttempt_places platform xtcp now seconds world
  dsimp only [advanceAttempt]
  split
  · exact places
  exact ⟨places.emits.then (congrArg Prod.fst (failAttempt_held platform _ _ _)),
    (congrArg Prod.snd (failAttempt_held platform _ _ _)).trans places.intake⟩

/-! ## Ending -/

theorem cancel_encoded : (xtcp.cancel platform now world).2.1.encoded = xtcp.encoded := by
  have drained := fun (xtcp : Controller) world =>
    congrArg (·.1.2.2) (drainAttempt_held platform xtcp now world)
  dsimp only [cancel]
  split
  · split
    · exact drained _ _
    · exact drained _ _
  · split <;> rfl

theorem destroy_encoded {xtcp next : Controller} {now : Nat} {world : World Net Sys Peer}
    (kept : (xtcp.destroy platform now world).2.1 = some next) : next.encoded = xtcp.encoded := by
  have same := cancel_encoded platform xtcp now world
  dsimp only [destroy] at kept
  split at kept
  · cases kept
  · next outcome =>
    cases kept
    rw [outcome] at same
    exact same

end

end Controller

end EspFrp.Xtcp
