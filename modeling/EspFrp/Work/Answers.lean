import EspFrp.Work.Set

/-!
# What a step of the work streams answers

Whatever a local socket, an admission or a datagram does ends its stream
only.  A step of the streams ends with an error only where the transport
itself refuses to describe, reset or release a stream.
-/

namespace EspFrp.Work

open Local Streams

variable {Net Sys : Type}

/-- The results that a transport can make a step of the streams end with. -/
inductive Complaint (transport : Transport Net) : Result → Prop where
  | none : Complaint transport .ok
  | info (net : Net) (id : Nat) : Complaint transport (transport.info net id).1
  | reset (net : Net) (id : Nat) (refused : (transport.reset net id).1.Terminal) :
      Complaint transport (transport.reset net id).1
  | release (net : Net) (id : Nat) (refused : (transport.release net id).1.Terminal) :
      Complaint transport (transport.release net id).1

/-- A transport that describes every stream answers with a real error. -/
theorem Complaint.settled (complaint : Complaint transport result)
    (described : ∀ net id, (transport.info net id).1 ≠ .wouldBlock) : result ≠ .wouldBlock := by
  cases complaint with
  | none => simp
  | info net id => exact described net id
  | reset net id refused | release net id refused => exact refused.2

/-- A transport that refuses nothing for the streams it has. -/
structure Calm (transport : Transport Net) : Prop where
  info : ∀ net id, (transport.info net id).1 = .ok
  reset : ∀ net id, ¬ (transport.reset net id).1.Terminal
  release : ∀ net id, ¬ (transport.release net id).1.Terminal

theorem Complaint.calm
    (complaint : Complaint transport result) (calm : Calm transport) : result = .ok := by
  cases complaint with
  | none => rfl
  | info net id => exact calm.info net id
  | reset net id refused => exact absurd refused (calm.reset net id)
  | release net id refused => exact absurd refused (calm.release net id)

section

variable (platform : Platform Net Sys)
variable (scene : Scene Net Sys) (set : Set) (visit : Visit) (listener : Listener) (slot : Fin 3)
  (now : Nat) (runId : List UInt8) (seconds : Int) (net : Net) (sys : Sys)

theorem Scene.releaseStream_complaint {scene next : Scene Net Sys}
    (refused : scene.releaseStream platform = (some error, next)) :
    Complaint platform.transport error := by
  dsimp only [Scene.releaseStream] at refused
  split at refused
  · cases refused
  · next id _ =>
    split at refused
    · split at refused
      · cases refused
      · cases refused
      · next bad blocked answer =>
        cases refused
        have same := congrArg Prod.fst answer
        dsimp only at same
        rw [← same]
        refine .release _ id ?_
        rw [same]
        exact ⟨bad, blocked⟩
    · cases refused
    · next bad blocked =>
      cases refused
      by_cases ended : scene.stream.result = .ok
      · rw [if_pos ended] at bad
        exact absurd rfl bad
      rw [if_neg ended] at bad blocked ⊢
      exact .reset _ id ⟨bad, blocked⟩

theorem Scene.cleanupWork_complaint :
    Complaint platform.transport (scene.cleanupWork platform now).1 := by
  dsimp only [Scene.cleanupWork]
  split
  · next refused => exact Scene.releaseStream_complaint platform refused
  repeat' split
  all_goals exact .none

theorem Scene.observe_complaint : Complaint platform.transport (scene.observe platform).1 := by
  dsimp only [Scene.observe]
  split
  · exact .none
  · next id _ =>
    split
    · exact .none
    split
    · exact .none
    · next answer =>
      have same := congrArg Prod.fst answer
      rw [← same]
      exact .info _ id

namespace Set

theorem stepSlot_complaint :
    Complaint platform.transport (set.stepSlot platform slot now net sys).1 := by
  dsimp only [stepSlot]
  split
  · exact .none
  · next stream _ =>
    have observed := Scene.observe_complaint platform
      ((set.scene stream net sys).openPeer platform now)
    split
    · split
      · exact Scene.cleanupWork_complaint platform _ now
      · exact .none
    · next answer =>
      rw [answer] at observed
      exact observed

theorem stepSlots_complaint (slots : List (Fin 3)) (set : Set) (net : Net) (sys : Sys) :
    Complaint platform.transport (stepSlots platform now slots set net sys).1 := by
  induction slots generalizing set net sys with
  | nil => exact .none
  | cons slot _ ih =>
    have stepped := stepSlot_complaint platform set slot now net sys
    rw [stepSlots]
    split
    · exact ih _ _ _
    · next answer =>
      rw [answer] at stepped
      exact stepped

theorem stepStreams_complaint :
    Complaint platform.transport (set.stepStreams platform now net sys).1 := by
  have stepped := stepSlots_complaint platform now [set.group.cursor, set.group.cursor + 1,
    set.group.cursor + 2] set net sys
  dsimp only [stepStreams]
  split
  · exact .none
  · next answer =>
    rw [answer] at stepped
    exact stepped

theorem workStep_settled (runId token : List UInt8) (seconds : Int) (net : Net) (sys : Sys)
    (described : ∀ net id, (platform.transport.info net id).1 ≠ .wouldBlock) :
    (set.workStep platform now runId token seconds net sys).1 ≠ .wouldBlock := by
  dsimp only [workStep]
  split
  · simp
  split
  · exact (stepStreams_complaint platform _ _ _ _).settled described
  · next answer =>
    dsimp only [openWork] at answer
    repeat' split at answer
    all_goals grind

/-! ## Local connections -/

theorem acceptVisit_ok (allocates : ∀ sys, (platform.os.allocate sys).1 = true) :
    (set.acceptVisit platform visit listener slot now runId seconds sys).1 = .ok := by
  have given := allocates sys
  dsimp only [acceptVisit]
  split
  · next refused =>
    rw [refused] at given
    cases given
  · split <;> rfl

/-- Whatever a local client does, a visitor with a usable listener goes on. -/
theorem openVisit_ok (allocates : ∀ sys, (platform.os.allocate sys).1 = true)
    (usable : ¬ (listener.ready platform.os sys).1.Terminal) :
    (set.openVisit platform visit listener now runId seconds sys).1 = .ok := by
  revert usable
  dsimp only [openVisit]
  generalize (if listener.acceptedFd.isSome = true then 1 else 0) + set.all.length = sockets
  generalize listener.ready platform.os sys = ready
  rcases ready with ⟨result, asked, next⟩
  intro usable
  rcases Result.not_terminal usable with same | same
  · cases same
    split
    · split
      · exact acceptVisit_ok platform _ _ _ _ _ _ _ _ allocates
      · rfl
    · rfl
    · rfl
    · next none => grind
  · cases same
    rfl

theorem visitStep_settled (described : ∀ net id, (platform.transport.info net id).1 ≠ .wouldBlock) :
    (set.visitStep platform now runId seconds net sys).1 ≠ .wouldBlock := by
  dsimp only [visitStep]
  split
  · split
    · split
      · exact (stepStreams_complaint platform _ _ _ _).settled described
      · next answer =>
        dsimp only [openVisit] at answer
        split at answer
        all_goals repeat' split at answer
        all_goals try dsimp only [acceptVisit] at answer
        all_goals grind
    · simp
  · simp

end Set

end

end EspFrp.Work
