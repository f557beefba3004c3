import EspFrp.Wire.Reader

/-!
# What feeding frames does to the handler

The handler sees complete frames only, in order, and none after the one it
refuses.  A relation that every accepted frame keeps is kept by the whole
window, and a refused frame is the last thing that happens in it.
-/

namespace EspFrp.Wire

/-- A frame is never empty. -/
theorem messageFrame_ne_nil (encoded : messageFrame type text = .ok frame) : frame ≠ [] := by
  rintro rfl
  rw [messageFrame] at encoded
  cases begun : header .message (text.length + 2) with
  | error =>
    rw [begun] at encoded
    cases encoded
  | ok =>
    rw [begun] at encoded
    have empty := Except.ok.inj encoded
    simp at empty

namespace Reader

variable {State : Type}

/-- How a window ends for the handler: every frame of it was accepted, or
one was refused after the others. -/
inductive Handled (accepts refuses : State → State → Prop) : Result → State → State → Prop where
  | accepted {result state next} (related : accepts state next) :
      Handled accepts refuses result state next
  | refused {state middle next} (related : accepts state middle) (last : refuses middle next) :
      Handled accepts refuses .callbackRejected state next

/-- Frames that were accepted earlier come first. -/
theorem Handled.after
    (trans : ∀ {first second third}, accepts first second →
      accepts second third → accepts first third)
    (earlier : accepts state middle)
    (handled : Handled accepts refuses result middle next) :
    Handled accepts refuses result state next := by
  cases handled with
  | accepted related => exact .accepted (trans earlier related)
  | refused related last => exact .refused (trans earlier related) last

/-- What one turn does to the handler and to the reader's failure: the turn fails for a reason of
its own, or keeps what the reader has. -/
inductive Turned (accepts refuses : State → State → Prop) (reader : Reader)
    (state : State) : Turn State → Prop where
  | failed {error used next} (settled : error ≠ .wouldBlock) :
      Turned accepts refuses reader state (.failed error used next state)
  | refused {used next after} (last : refuses state after) :
      Turned accepts refuses reader state (.failed .callbackRejected used next after)
  | more {used next} (same : next.failure = reader.failure) :
      Turned accepts refuses reader state (.more used next state)
  | frame {used next after} (same : next.failure = reader.failure) (related : accepts state after) :
      Turned accepts refuses reader state (.frame used next after)

section

variable {handler : Handler State} {accepts refuses : State → State → Prop}
  (accepted : ∀ state kind payload next,
    handler state kind payload = (true, next) → accepts state next)
  (refused : ∀ state kind payload next,
    handler state kind payload = (false, next) → refuses state next)

include accepted refused

theorem takePayload_turned (reader : Reader)
    (same : reader.failure = before.failure) (state : State) (bytes : List UInt8) (used : Nat) :
    Turned accepts refuses before state (reader.takePayload handler state bytes used) := by
  dsimp only [takePayload]
  split
  · split
    · next answer => exact .refused (refused _ _ _ _ answer)
    · next answer => exact .frame same (accepted _ _ _ _ answer)
  · exact .more same

theorem turn_turned (reader : Reader) (state : State) (bytes : List UInt8) :
    Turned accepts refuses reader state (reader.turn handler state bytes) := by
  cases bytes with
  | nil => exact .more rfl
  | cons =>
    dsimp only [turn]
    split
    · split
      · exact .failed (by simp)
      · exact .more rfl
    split
    · split
      · exact .more rfl
      split
      · next announced =>
        dsimp only [announce] at announced
        repeat' split at announced
        all_goals cases announced
        all_goals exact .failed (by simp)
      · next announced =>
        refine takePayload_turned accepted refused _ ?_ _ _ _
        dsimp only [announce] at announced
        repeat' split at announced
        all_goals cases announced
        rfl
    · exact takePayload_turned accepted refused _ rfl _ _ _

variable (refl : ∀ state, accepts state state)
  (trans : ∀ {first second third}, accepts first second →
    accepts second third → accepts first third)
  (one : Bool)
include refl trans

/-- The whole loop, for a relation that composes. -/
theorem loop_turned (fuel : Nat) (reader : Reader) (state : State)
    (bytes : List UInt8) (used : Nat) :
    Handled accepts refuses (loop handler one fuel reader state bytes used).1 state
        (loop handler one fuel reader state bytes used).2.2.2 ∧
      (reader.failure = .ok → (loop handler one fuel reader state bytes used).2.2.1.failure =
          (loop handler one fuel reader state bytes used).1 ∧
        (loop handler one fuel reader state bytes used).1 ≠ .wouldBlock) := by
  induction fuel generalizing reader state bytes used with
  | zero => exact ⟨.accepted (refl state), fun fine => ⟨fine, by simp [loop]⟩⟩
  | succ _ ih =>
    rw [loop]
    split
    · exact ⟨.accepted (refl state), fun fine => ⟨fine, by simp⟩⟩
    have turned := turn_turned accepted refused reader state bytes
    revert turned
    generalize reader.turn handler state bytes = turn
    intro turned
    cases turned with
    | failed settled => exact ⟨.accepted (refl state), fun _ => ⟨rfl, settled⟩⟩
    | refused last => exact ⟨.refused (refl state) last, fun _ => ⟨rfl, by simp⟩⟩
    | more same => exact (ih _ _ _ _).imp_right fun kept fine => kept (same.trans fine)
    | frame same related =>
      dsimp only
      split
      · exact ⟨.accepted related, fun fine => ⟨same.trans fine, by simp⟩⟩
      · exact (ih _ _ _ _).imp (·.after trans related) fun kept fine => kept (same.trans fine)

/-- `efrp_wire_feed` and `efrp_wire_feed_one` for a relation that
composes. -/
theorem feedAll_handled (reader : Reader) (state : State) (bytes : List UInt8) :
    Handled accepts refuses (feedAll handler one reader state bytes).1 state
      (feedAll handler one reader state bytes).2.2.2 := by
  dsimp only [feedAll]
  split
  · exact .accepted (refl state)
  · exact (loop_turned accepted refused refl trans one _ _ _ _ _).1

end

/-- What no frame changes is not changed by a window. -/
theorem feedAll_keeps (view : State → Value)
    (kept : ∀ state kind payload, view (handler state kind payload).2 = view state) (one : Bool)
    (reader : Reader) (state : State) (bytes : List UInt8) :
    view (feedAll handler one reader state bytes).2.2.2 = view state := by
  have same : ∀ answer state kind payload next,
      handler state kind payload = (answer, next) → view next = view state := by
    intro answer state kind payload next handled
    rw [← kept state kind payload, handled]
  have handled := @feedAll_handled _ handler (fun state next => view next = view state)
    (fun state next => view next = view state) (same true) (same false) (fun _ => rfl)
    (fun first second => second.trans first) one reader state bytes
  generalize (feedAll handler one reader state bytes).1 = result at handled
  cases handled with
  | accepted related => exact related
  | refused related last => exact last.trans related

/-- A reader keeps the error that it reports. -/
theorem feedAll_failure (handler : Handler State) (one : Bool) (reader : Reader) (state : State)
    (bytes : List UInt8) (fine : reader.failure = .ok) :
    (feedAll handler one reader state bytes).2.2.1.failure =
        (feedAll handler one reader state bytes).1 ∧
      (feedAll handler one reader state bytes).1 ≠ .wouldBlock := by
  rw [feedAll, if_neg (not_not.mpr fine)]
  exact (@loop_turned _ handler (fun _ _ => True) (fun _ _ => True) (fun _ _ _ _ _ => trivial)
    (fun _ _ _ _ _ => trivial) (fun _ => trivial) (fun _ _ => trivial) one _ _ _ _ _).2 fine

theorem finish_settled (reader : Reader) (fine : reader.failure = .ok) :
    reader.finish ≠ .wouldBlock := by
  dsimp only [finish]
  rw [if_neg (not_not.mpr fine)]
  split <;> simp

end Reader

end EspFrp.Wire
