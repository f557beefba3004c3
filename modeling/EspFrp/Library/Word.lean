import Mathlib.Tactic.Common

/-!
# Unsigned words

Addition and subtraction of 32-bit unsigned words on natural numbers, with
the wrap-around that the fixed width gives them, and the conditions under
which they agree with the operations of the naturals.
-/

namespace EspFrp.Library

/-- The number of 32-bit words. -/
abbrev word32 : Nat := 4294967296

/-- Addition of 32-bit words. -/
def add32 (left right : Nat) : Nat := (left + right) % word32

/-- Subtraction of 32-bit words. -/
def sub32 (left right : Nat) : Nat := (left + (word32 - right % word32)) % word32

variable {left right : Nat}

theorem add32_of_lt (fits : left + right < word32) :
    add32 left right = left + right := Nat.mod_eq_of_lt fits

theorem sub32_of_le (ordered : right ≤ left) (fits : left < word32) :
    sub32 left right = left - right := by
  unfold sub32 word32 at *
  omega

end EspFrp.Library
