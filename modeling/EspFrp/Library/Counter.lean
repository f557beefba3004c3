import EspFrp.Library.BigEndian

/-!
# Big-endian counters

A byte string that is incremented in place, from its last byte on, until one
byte does not wrap.  Incrementing is the successor of the number that the
string denotes, and it reports whether that successor still fits.
-/

namespace EspFrp.Library.Counter

open BigEndian

variable (byte : UInt8) (bytes : List UInt8)

/-- Add one, and tell whether some byte has stopped the carry. -/
def increment : List UInt8 → Bool × List UInt8
  | [] => (false, [])
  | byte :: rest =>
    let (stopped, lower) := increment rest
    if stopped then
      (true, byte :: lower)
    else
      (decide (byte + 1 ≠ 0), (byte + 1) :: lower)

/-- Every byte of an exhausted counter is at its maximum. -/
def exhausted (bytes : List UInt8) : Bool := bytes.all (· == 255)

@[simp]
theorem increment_length : (increment bytes).2.length = bytes.length := by
  induction bytes with
  | nil => rfl
  | cons _ _ ih =>
    simp only [increment]
    split <;> simp [ih]

theorem ofBytes_cons (rest : List UInt8) :
    ofBytes (byte :: rest) = byte.toNat * 256 ^ rest.length + ofBytes rest := by
  induction rest using List.reverseRecOn with
  | nil => simp [ofBytes]
  | append_singleton _ _ ih =>
    rw [← List.cons_append, ofBytes_snoc, ofBytes_snoc, ih, List.length_append,
      List.length_singleton, Nat.pow_succ]
    ring

theorem successor_toNat : (byte + 1).toNat = (byte.toNat + 1) % 256 := UInt8.toNat_add byte 1

theorem successor_ne_zero_iff : byte + 1 ≠ 0 ↔ byte.toNat + 1 < 256 := by
  have byteLt := byte.toNat_lt
  rw [Ne, ← UInt8.toNat_inj, successor_toNat]
  simp only [UInt8.toNat_zero]
  omega

/-- Incrementing is the successor, modulo the width of the counter. -/
theorem ofBytes_increment : (increment bytes).1 =
        decide (ofBytes bytes + 1 < 256 ^ bytes.length) ∧
      ofBytes (increment bytes).2 = (ofBytes bytes + 1) % 256 ^ bytes.length := by
  induction bytes with
  | nil => decide
  | cons byte rest ih =>
    obtain ⟨stops, value⟩ := ih
    have restLt := ofBytes_lt rest
    have byteLt := byte.toNat_lt
    simp only [increment]
    rw [stops, ofBytes_cons, List.length_cons, Nat.pow_succ]
    generalize widthEq : 256 ^ rest.length = width at *
    by_cases fits : ofBytes rest + 1 < width
    · have room : byte.toNat * width ≤ 255 * width := Nat.mul_le_mul_right width (by omega)
      rw [decide_eq_true fits, if_pos rfl]
      refine ⟨?_, ?_⟩
      · symm
        apply decide_eq_true
        omega
      · rw [ofBytes_cons, increment_length, value, widthEq,
          Nat.mod_eq_of_lt fits, Nat.mod_eq_of_lt (by omega)]
        omega
    · have restMax : ofBytes rest + 1 = width := by omega
      have sum : byte.toNat * width + ofBytes rest + 1 = width * (byte.toNat + 1) := by
        rw [Nat.add_assoc, restMax]
        ring
      have positive : 0 < width := by omega
      rw [decide_eq_false fits, if_neg (by decide), sum]
      refine ⟨?_, ?_⟩
      · rw [decide_eq_decide, Nat.mul_lt_mul_left positive, successor_ne_zero_iff]
      · rw [ofBytes_cons, increment_length, value, widthEq, restMax, Nat.mod_self,
          Nat.mul_mod_mul_left, Nat.mul_comm, Nat.add_zero, successor_toNat]

/-- A counter that has not reached its last value is incremented. -/
theorem increment_toBytes {width number : Nat} (fits : number + 1 < 256 ^ width) :
    increment (toBytes width number) = (true, toBytes width (number + 1)) := by
  obtain ⟨stops, value⟩ := ofBytes_increment (toBytes width number)
  rw [toBytes_length, ofBytes_toBytes_of_lt (by omega)] at stops value
  rw [Nat.mod_eq_of_lt fits] at value
  refine Prod.ext ?_ ?_
  · rw [stops, decide_eq_true fits]
  · rw [← value, toBytes_ofBytes_of_length]
    rw [increment_length, toBytes_length]

/-- A counter is exhausted exactly at its last value. -/
theorem exhausted_eq : exhausted bytes = decide (ofBytes bytes + 1 = 256 ^ bytes.length) := by
  induction bytes with
  | nil => decide
  | cons byte rest ih =>
    have restLt := ofBytes_lt rest
    have byteLt := byte.toNat_lt
    have maximal : byte == 255 ↔ byte.toNat = 255 := by
      rw [beq_iff_eq, ← UInt8.toNat_inj]
      rfl
    rw [exhausted, List.all_cons, ← exhausted, ih, ofBytes_cons, List.length_cons, Nat.pow_succ,
      eq_comm, Bool.eq_iff_iff, decide_eq_true_iff, Bool.and_eq_true, maximal, decide_eq_true_iff]
    generalize 256 ^ rest.length = width at *
    constructor
    · intro last
      by_cases top : byte.toNat = 255
      · rw [top] at last
        exact ⟨top, by omega⟩
      have room : byte.toNat * width ≤ 254 * width := Nat.mul_le_mul_right width (by omega)
      omega
    · rintro ⟨top, last⟩
      rw [top]
      omega

end EspFrp.Library.Counter
