import EspFrp.Aead.FlashReader

/-!
# Faithful stores

A store is faithful if it hands out a lease when none is outstanding, keeps
what is written under the lease from the start on, reads it back, and clears
it; and if the library on the same platform never fails.  Nothing is asked
about any other use.  A store in memory shows that this can be had.
-/

namespace EspFrp.Aead

open Library

variable {State : Type}

/--
The store keeps what is written.  `Holds state held` says which lease is
outstanding in a state, and what has been written under it.
-/
structure Platform.Faithful (platform : Platform State)
    (Holds : State → Option (Nat × List UInt8) → Prop) : Prop where
  begin : ∀ {state}, Holds state none → ∃ lease next, platform.begin state = (.ok, lease, next) ∧
      lease ≠ 0 ∧ Holds next (some (lease, []))
  write : ∀ {state lease content} (bytes : List UInt8), Holds state (some (lease, content)) →
    content.length + bytes.length ≤ maxPlaintext →
    ∃ next, platform.write state lease content.length bytes = (.ok, next) ∧
        Holds next (some (lease, content ++ bytes))
  read : ∀ {state lease content offset length}, Holds state (some (lease, content)) →
    offset + length ≤ content.length →
    ∃ next, platform.read state lease offset length =
          (.ok, (content.drop offset).take length, next) ∧
        Holds next (some (lease, content))
  clear : ∀ {state lease content}, Holds state (some (lease, content)) →
    ∃ next, platform.clear state lease = (.ok, next) ∧ Holds next none
  library : ∀ {state held} call, Holds state held →
    (platform.library state call).1.status = .success ∧ Holds (platform.library state call).2 held
  update : ∀ {state held taken available}, Holds state held → taken ≤ available →
    platform.backend.accepts taken available
      (platform.library state (.update taken available)).1.count = true
  conclude : ∀ {state held remaining}, Holds state held →
    (platform.library state (.conclude remaining)).1.count = remaining

/-- The answer of a library that holds nothing back. -/
def LibraryCall.answer : LibraryCall → Answer
  | .update taken _ => ⟨.success, taken⟩
  | .conclude remaining => ⟨.success, remaining⟩
  | _ => ⟨.success, 0⟩

/-- A store in memory with one lease. -/
def memoryPlatform (backend : Backend) (gcm : Gcm) (hash : List UInt8 → Block UInt8 32) :
    Platform (Option (List UInt8)) where
  backend := backend
  gcm := gcm
  hash := hash
  library := fun state call => (call.answer, state)
  begin
    | none => (.ok, 1, some [])
    | some content => (.storageError, 0, some content)
  write
    | some content, _, offset, bytes =>
      if offset = content.length then
        (.ok, some (content ++ bytes))
      else
        (.storageError, some content)
    | none, _, _, _ => (.storageError, none)
  read
    | some content, _, offset, length => (.ok, (content.drop offset).take length, some content)
    | none, _, _, _ => (.storageError, [], none)
  clear
    | some _, _ => (.ok, none)
    | none, _ => (.storageError, none)

theorem memoryPlatform_faithful (backend : Backend) (gcm : Gcm)
    (hash : List UInt8 → Block UInt8 32) :
    (memoryPlatform backend gcm hash).Faithful (fun state held => state.map ((1, ·)) = held) where
  begin := by
    intro state free
    cases state with
    | none => exact ⟨1, some [], rfl, Nat.one_ne_zero, rfl⟩
    | some => cases free
  write := by
    intro state lease content bytes holds _
    cases state with
    | none => cases holds
    | some =>
      cases holds
      exact ⟨some (content ++ bytes), if_pos rfl, rfl⟩
  read := by
    intro state lease content offset length holds _
    cases state with
    | none => cases holds
    | some =>
      cases holds
      exact ⟨some content, rfl, rfl⟩
  clear := by
    intro state lease content holds
    cases state with
    | none => cases holds
    | some => exact ⟨none, rfl, rfl⟩
  library := by
    intro state held call holds
    exact ⟨by cases call <;> rfl, holds⟩
  update := by
    intro state held taken available _ within
    cases backend with
    | openssl => exact decide_eq_true rfl
    | psa => exact decide_eq_true within
  conclude := fun _ => rfl

/-- A cipher that changes nothing. -/
def plainGcm : Gcm where
  encrypt := fun _ _ plaintext => plaintext
  decrypt := fun _ _ ciphertext => ciphertext
  tag := fun _ _ _ _ => .filled 0 16
  encrypt_streaming := fun _ _ => ⟨fun _ => rfl, fun _ _ => rfl⟩
  decrypt_streaming := fun _ _ => ⟨fun _ => rfl, fun _ _ => rfl⟩
  decrypt_encrypt := fun _ _ _ => rfl

end EspFrp.Aead
