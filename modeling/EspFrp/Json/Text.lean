import EspFrp.Library.Utf8

/-!
# Text in messages

`efrp_json_utf8` of `json_internal.c`: the check of every text that the client
sends or accepts.  It computes the code point of each character and compares
it with the bounds of its length; on a text without a zero byte this is the
definition of well-formed UTF-8.
-/

namespace EspFrp.Json

open Library

/-- The continuation bytes of a character added to its first bits. -/
def codePoint : Nat → List UInt8 → Option Nat
  | bits, [] => some bits
  | bits, byte :: rest =>
    if byte.toNat / 64 ≠ 2 then
      none
    else
      codePoint (bits * 64 + byte.toNat % 64) rest

/-- The number of continuation bytes, the least code point and the bits. -/
def leadByte (lead : Nat) : Option (Nat × Nat × Nat) :=
  if 0xc2 ≤ lead ∧ lead ≤ 0xdf then some (1, 0x80, lead % 32)
  else if 0xe0 ≤ lead ∧ lead ≤ 0xef then some (2, 0x800, lead % 16)
  else if 0xf0 ≤ lead ∧ lead ≤ 0xf4 then some (3, 0x10000, lead % 8)
  else none

/-- The bounds on the code point of a character. -/
def inRange (minimum point : Nat) : Bool :=
  minimum ≤ point && point ≤ 0x10ffff && (point < 0xd800 || 0xdfff < point)

/-- One turn of the loop of `efrp_json_utf8`. -/
def character? : List UInt8 → Option Nat
  | [] => none
  | lead :: rest =>
    if lead.toNat = 0 then
      none
    else if lead.toNat < 128 then
      some 1
    else
      match leadByte lead.toNat with
      | none => none
      | some (extra, minimum, bits) =>
        if rest.length < extra then
          none
        else
          match codePoint bits (rest.take extra) with
          | none => none
          | some point =>
            if inRange minimum point then
              some (extra + 1)
            else
              none

/-- `efrp_json_utf8`. -/
def utf8 (bytes : List UInt8) : Bool := Utf8.accepts character? bytes.length bytes

theorem codePoint_nil (bits : Nat) : codePoint bits [] = some bits := rfl

theorem codePoint_cons (bits : Nat) (byte : UInt8) (rest : List UInt8) :
    codePoint bits (byte :: rest) =
      if Utf8.isTail byte = true then
        codePoint (bits * 64 + (byte.toNat - 128)) rest
      else
        none := by
  have bound := byte.toNat_lt
  simp only [codePoint, Utf8.isTail, Bool.and_eq_true, decide_eq_true_eq]
  split_ifs with other tail tail
  · omega
  · rfl
  · rw [show byte.toNat % 64 = byte.toNat - 128 by omega]
  · omega

theorem two_inRange (range : 0xc2 ≤ lead ∧ lead ≤ 0xdf) (tail : Utf8.isTail second = true) :
    inRange 0x80 (lead % 32 * 64 + (second.toNat - 128)) = true := by
  simp only [Utf8.isTail, inRange, Bool.and_eq_true, Bool.or_eq_true, decide_eq_true_eq] at *
  omega

theorem three_inRange (range : 0xe0 ≤ lead ∧ lead ≤ 0xef)
    (secondTail : Utf8.isTail second = true) (thirdTail : Utf8.isTail third = true) :
    inRange 0x800 ((lead % 16 * 64 + (second.toNat - 128)) * 64 + (third.toNat - 128)) =
      decide ((lead = 0xe0 → 0xa0 ≤ second.toNat) ∧ (lead = 0xed → second.toNat ≤ 0x9f)) := by
  simp only [Utf8.isTail, inRange, Bool.and_eq_true, decide_eq_true_eq] at *
  rw [Bool.eq_iff_iff]
  simp only [Bool.and_eq_true, Bool.or_eq_true, decide_eq_true_eq]
  omega

theorem four_inRange (range : 0xf0 ≤ lead ∧ lead ≤ 0xf4) (secondTail : Utf8.isTail second = true)
    (thirdTail : Utf8.isTail third = true) (fourthTail : Utf8.isTail fourth = true) :
    inRange 0x10000 (((lead % 8 * 64 + (second.toNat - 128)) * 64 +
          (third.toNat - 128)) * 64 + (fourth.toNat - 128)) =
      decide ((lead = 0xf0 → 0x90 ≤ second.toNat) ∧ (lead = 0xf4 → second.toNat ≤ 0x8f)) := by
  simp only [Utf8.isTail, inRange, Bool.and_eq_true, decide_eq_true_eq] at *
  rw [Bool.eq_iff_iff]
  simp only [Bool.and_eq_true, Bool.or_eq_true, decide_eq_true_eq]
  omega

/-- What the table of lead bytes says, by the length of the character. -/
theorem lead?_eq (lead : Nat) (bound : 0x80 ≤ lead) : Utf8.lead? lead =
      if 0xc2 ≤ lead ∧ lead ≤ 0xdf then some (2, 0x80, 0xbf)
      else if 0xe0 ≤ lead ∧ lead ≤ 0xef then
        some (3, if lead = 0xe0 then 0xa0 else 0x80,
          if lead = 0xed then 0x9f else 0xbf)
      else if 0xf0 ≤ lead ∧ lead ≤ 0xf4 then
        some (4, if lead = 0xf0 then 0x90 else 0x80,
          if lead = 0xf4 then 0x8f else 0xbf)
      else none := by
  unfold Utf8.lead?
  split_ifs <;> first | rfl | omega

theorem codePoint_tails (bits : Nat) (other : bytes.all Utf8.isTail = false) :
    codePoint bits bytes = none := by
  induction bytes generalizing bits with
  | nil => cases other
  | cons _ _ later =>
    rw [codePoint_cons]
    split
    · rename_i tail
      rw [List.all_cons, tail, Bool.true_and] at other
      exact later _ other
    · rfl

theorem character?_eq (bytes : List UInt8) (nonzero : ∀ byte ∈ bytes, byte ≠ 0) :
    character? bytes = Utf8.character? bytes := by
  cases bytes with
  | nil => rfl
  | cons lead rest =>
    have leadNonzero : lead.toNat ≠ 0 := fun zero =>
      nonzero lead (.head _) (UInt8.toNat_inj.mp zero)
    simp only [character?, Utf8.character?, if_neg leadNonzero]
    split
    · rfl
    rename_i high
    rw [lead?_eq lead.toNat (Nat.not_lt.mp high), leadByte]
    by_cases two : 0xc2 ≤ lead.toNat ∧ lead.toNat ≤ 0xdf
    · simp only [if_pos two]
      rcases rest with _ | ⟨second, others⟩
      · rfl
      cases tails : Utf8.isTail second with
      | true =>
        have inside := two_inRange two tails
        simp_all [codePoint_cons, codePoint_nil, Utf8.isTail]
      | false =>
        have none := codePoint_tails (lead.toNat % 32) (show [second].all Utf8.isTail = false by
            simp [tails])
        simp_all [Utf8.isTail]
    · simp only [if_neg two]
      by_cases three : 0xe0 ≤ lead.toNat ∧ lead.toNat ≤ 0xef
      · simp only [if_pos three]
        rcases rest with _ | ⟨second, _ | ⟨third, others⟩⟩
        · rfl
        · simp
        cases tails : [second, third].all Utf8.isTail with
        | true =>
          simp only [List.all_cons, List.all_nil, Bool.and_true, Bool.and_eq_true] at tails
          have inside := three_inRange three tails.1 tails.2
          simp only [List.take_succ_cons, List.take_zero, codePoint_cons, tails, if_true,
            codePoint_nil, inside]
          simp [tails]
          simp [Utf8.isTail] at tails
          grind
        | false =>
          have none := codePoint_tails (lead.toNat % 16) tails
          simp [none]
          simp [Utf8.isTail] at tails ⊢
          grind
      · simp only [if_neg three]
        by_cases four : 0xf0 ≤ lead.toNat ∧ lead.toNat ≤ 0xf4
        · simp only [if_pos four]
          rcases rest with
            _ | ⟨second, _ | ⟨third, _ | ⟨fourth, others⟩⟩⟩
          · rfl
          · simp
          · simp
          · cases tails : [second, third, fourth].all Utf8.isTail with
            | true =>
              simp only [List.all_cons, List.all_nil, Bool.and_true, Bool.and_eq_true] at tails
              have inside := four_inRange four tails.1 tails.2.1 tails.2.2
              simp only [List.take_succ_cons, List.take_zero, codePoint_cons, tails, if_true,
                codePoint_nil, inside]
              simp [tails]
              simp [Utf8.isTail] at tails
              grind
            | false =>
              have none := codePoint_tails (lead.toNat % 8) tails
              simp [none]
              simp [Utf8.isTail] at tails ⊢
              grind
        · simp only [if_neg four]

/-- What the turn of the loop has seen of a character. -/
theorem character?_cases (scanned : character? bytes = some size) :
    0 < size ∧ size ≤ bytes.length ∧ ∀ byte ∈ bytes.take size, byte ≠ 0 := by
  cases bytes with
  | nil => cases scanned
  | cons lead rest =>
    rw [character?] at scanned
    split at scanned
    · cases scanned
    next nonzero =>
    have leads : lead ≠ 0 := by
      rintro rfl
      exact nonzero rfl
    split at scanned
    · cases scanned
      simpa using leads
    split at scanned
    · cases scanned
    next extra _ bits _ =>
    split at scanned
    · cases scanned
    next enough =>
    have tails : (rest.take extra).all Utf8.isTail = false → codePoint bits (rest.take extra) = none :=
      codePoint_tails bits
    split at scanned
    · cases scanned
    next read =>
    rw [read] at tails
    split at scanned
    · cases scanned
      refine ⟨Nat.succ_pos _, by simpa using enough, ?_⟩
      rw [List.take_succ_cons, List.forall_mem_cons]
      refine ⟨leads, fun byte member => ?_⟩
      have tail := List.all_eq_true.mp (Bool.not_eq_false _ ▸ mt tails nofun) byte member
      rintro rfl
      cases tail
    · cases scanned

theorem nonzero_of_accepts (accepted : Utf8.accepts character? fuel bytes = true) :
    ∀ byte ∈ bytes, byte ≠ 0 := by
  induction fuel generalizing bytes with
  | zero =>
    cases bytes with
    | nil => exact nofun
    | cons => cases accepted
  | succ _ shorter =>
    cases bytes with
    | nil => exact nofun
    | cons lead rest =>
      rw [Utf8.accepts] at accepted
      split at accepted
      · cases accepted
      next size scanned =>
      rw [← List.take_append_drop size (lead :: rest), List.forall_mem_append]
      exact ⟨(character?_cases scanned).2.2, shorter accepted⟩

/-- On texts without a zero byte the check is that of well-formed UTF-8. -/
theorem utf8_eq_wellFormed (nonzero : ∀ byte ∈ bytes, byte ≠ 0) :
    utf8 bytes = Utf8.wellFormed bytes := Utf8.accepts_congr character?_eq bytes.length nonzero

end EspFrp.Json
