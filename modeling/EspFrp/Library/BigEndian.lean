import Mathlib.Data.List.Induction
import Mathlib.Tactic.Ring

/-!
# Big-endian numbers

Fixed-width big-endian encodings of natural numbers.  `toBytes` keeps the low
`width` bytes of its argument, as a sequence of narrowing casts does, and
`ofBytes` reads a byte string of any length.
-/

namespace EspFrp.Library.BigEndian

/-- The low `width` bytes of a number, most significant byte first. -/
def toBytes : Nat → Nat → List UInt8
  | 0, _ => []
  | width + 1, number => toBytes width (number / 256) ++ [UInt8.ofNat number]

/-- The number denoted by a byte string. -/
def ofBytes (bytes : List UInt8) : Nat :=
  bytes.foldl (fun number byte => number * 256 + byte.toNat) 0

@[simp]
theorem toBytes_length (width number : Nat) : (toBytes width number).length = width := by
  induction width generalizing number with
  | zero => rfl
  | succ _ ih => simp [toBytes, ih]

theorem ofBytes_snoc (bytes : List UInt8) (byte : UInt8) :
    ofBytes (bytes ++ [byte]) = ofBytes bytes * 256 + byte.toNat := by
  simp [ofBytes]

/-- Reading an encoding gives back the low bytes. -/
theorem ofBytes_toBytes (width number : Nat) :
    ofBytes (toBytes width number) = number % 256 ^ width := by
  induction width generalizing number with
  | zero => simp [toBytes, ofBytes, Nat.mod_one]
  | succ width ih =>
    have lowByte : (UInt8.ofNat number).toNat = number % 256 := by simp
    rw [toBytes, ofBytes_snoc, ih, lowByte, Nat.pow_succ, Nat.mul_comm (256 ^ width), Nat.mod_mul]
    ring

theorem ofBytes_toBytes_of_lt {width number : Nat} (fits : number < 256 ^ width) :
    ofBytes (toBytes width number) = number := by
  rw [ofBytes_toBytes, Nat.mod_eq_of_lt fits]

theorem ofBytes_lt (bytes : List UInt8) : ofBytes bytes < 256 ^ bytes.length := by
  induction bytes using List.reverseRecOn with
  | nil => simp [ofBytes]
  | append_singleton _ byte =>
    have byteLt := byte.toNat_lt
    rw [ofBytes_snoc, List.length_append, List.length_singleton, Nat.pow_succ]
    omega

/-- Every byte string is the encoding of the number it denotes. -/
theorem toBytes_ofBytes (bytes : List UInt8) : toBytes bytes.length (ofBytes bytes) = bytes := by
  induction bytes using List.reverseRecOn with
  | nil => rfl
  | append_singleton bytes byte ih =>
    have byteLt := byte.toNat_lt
    have quotient : (ofBytes bytes * 256 + byte.toNat) / 256 = ofBytes bytes := by omega
    have lowByte : UInt8.ofNat (ofBytes bytes * 256 + byte.toNat) = byte := by
      apply UInt8.toNat_inj.mp
      rw [UInt8.toNat_ofNat']
      omega
    rw [List.length_append, List.length_singleton, toBytes, ofBytes_snoc, quotient, lowByte, ih]

theorem toBytes_ofBytes_of_length {bytes : List UInt8} {width : Nat}
    (length : bytes.length = width) : toBytes width (ofBytes bytes) = bytes := by
  rw [← length, toBytes_ofBytes]

end EspFrp.Library.BigEndian
