import Mathlib.Data.List.Basic

/-!
# Well-formed UTF-8

A text is read one character at a time; a scanner is a function that gives
the length of the character at the start of a text, or nothing if there is
none.  `Utf8.character?` is the scanner of the well-formed byte sequences of
Unicode, in which the first byte decides the length of the character and the
range of its second byte.
-/

namespace EspFrp.Library.Utf8

/-- The text is a sequence of characters of the scanner. -/
def accepts (character : List UInt8 → Option Nat) : Nat → List UInt8 → Bool
  | _, [] => true
  | 0, _ :: _ => false
  | fuel + 1, lead :: rest =>
    match character (lead :: rest) with
    | none => false
    | some size => accepts character fuel ((lead :: rest).drop size)

/-- Two scanners that agree on the bytes of a text agree on the text. -/
theorem accepts_congr {left right : List UInt8 → Option Nat} {allowed : UInt8 → Prop}
    (agree : ∀ bytes : List UInt8, (∀ byte ∈ bytes, allowed byte) → left bytes = right bytes)
    (fuel : Nat) (inside : ∀ byte ∈ bytes, allowed byte) :
    accepts left fuel bytes = accepts right fuel bytes := by
  induction fuel generalizing bytes with
  | zero => cases bytes <;> rfl
  | succ _ shorter =>
    cases bytes with
    | nil => rfl
    | cons lead rest =>
      simp only [accepts, agree (lead :: rest) inside]
      cases right (lead :: rest) with
      | none => rfl
      | some =>
        exact shorter fun byte member => inside byte (List.mem_of_mem_drop member)

theorem accepts_mono (accepted : accepts character fuel bytes = true)
    (more : Nat) : accepts character (fuel + more) bytes = true := by
  induction fuel generalizing bytes with
  | zero => cases bytes with
    | nil => rw [accepts]
    | cons => cases accepted
  | succ _ shorter =>
    cases bytes with
    | nil => rw [accepts]
    | cons lead rest =>
      rw [Nat.add_right_comm]
      simp only [accepts] at accepted ⊢
      revert accepted
      cases character (lead :: rest) with
      | none => exact id
      | some => exact fun accepted => shorter accepted

/-- Two texts of a scanner that does not look behind a character. -/
theorem accepts_append
    (stable : ∀ {bytes size}, character bytes = some size → size ≤ bytes.length ∧
        ∀ more, character (bytes ++ more) = some size)
    (left : accepts character fuel first = true)
    (right : accepts character more second = true) :
    accepts character (fuel + more) (first ++ second) = true := by
  induction fuel generalizing first with
  | zero => cases first with
    | nil => simpa using right
    | cons => cases left
  | succ _ shorter =>
    cases first with
    | nil =>
      rw [Nat.add_comm]
      exact accepts_mono right _
    | cons lead rest =>
      rw [Nat.add_right_comm]
      simp only [accepts, List.cons_append] at left ⊢
      cases scanned : character (lead :: rest) with
      | none =>
        rw [scanned] at left
        cases left
      | some =>
        obtain ⟨inside, same⟩ := stable scanned
        have more := same second
        rw [List.cons_append] at more
        rw [scanned] at left
        rw [more]
        dsimp only
        rw [← List.cons_append, List.drop_append_of_le_length inside]
        exact shorter left

/-- The length of a character and the range of its second byte. -/
def lead? (lead : Nat) : Option (Nat × Nat × Nat) :=
  if lead < 0xc2 then none
  else if lead ≤ 0xdf then some (2, 0x80, 0xbf)
  else if lead = 0xe0 then some (3, 0xa0, 0xbf)
  else if lead ≤ 0xec then some (3, 0x80, 0xbf)
  else if lead = 0xed then some (3, 0x80, 0x9f)
  else if lead ≤ 0xef then some (3, 0x80, 0xbf)
  else if lead = 0xf0 then some (4, 0x90, 0xbf)
  else if lead ≤ 0xf3 then some (4, 0x80, 0xbf)
  else if lead = 0xf4 then some (4, 0x80, 0x8f)
  else none

/-- A continuation byte. -/
def isTail (byte : UInt8) : Bool := 0x80 ≤ byte.toNat && byte.toNat ≤ 0xbf

/-- The length of the well-formed character at the start of a text. -/
def character? : List UInt8 → Option Nat
  | [] => none
  | lead :: rest =>
    if lead.toNat < 0x80 then
      some 1
    else
      match lead? lead.toNat, rest with
      | some (size, low, high), second :: others =>
        if size - 2 ≤ others.length ∧ low ≤ second.toNat ∧ second.toNat ≤ high ∧
              (others.take (size - 2)).all isTail = true then
          some size
        else
          none
      | _, _ => none

/-- The text is well-formed UTF-8. -/
def wellFormed (bytes : List UInt8) : Bool := accepts character? bytes.length bytes

end EspFrp.Library.Utf8
