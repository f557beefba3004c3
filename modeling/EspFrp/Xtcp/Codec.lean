import Mathlib.Data.List.TakeDrop
import EspFrp.Xtcp.Stun

/-!
# The addresses of a message

`add_addresses` and `parse_endpoint` of `xtcp_codec.c`.  A text is what stands
before the zero byte that ends it.
-/

namespace EspFrp.Xtcp.Codec

open Stun

/-! ## Numbers -/

/-- `%u`. -/
def digits (value : Nat) : List UInt8 :=
  (Nat.toDigits 10 value).map fun digit => UInt8.ofNat digit.toNat

/-- A digit, which the zero byte behind a text is not. -/
def startsDigit (text : List UInt8) : Bool := 48 ≤ text.headD 0 && text.headD 0 ≤ 57

/-- The loop of `decimal`. -/
def decimalLoop (maximum value : Nat) : List UInt8 → Option (Nat × List UInt8)
  | [] => some (value, [])
  | digit :: rest =>
    if startsDigit (digit :: rest) then
      if maximum / 10 < value then
        none
      else
        let value := (value * 10 + (digit.toNat - 48)) % 2 ^ 32
        if maximum < value then none else decimalLoop maximum value rest
    else
      some (value, digit :: rest)

/-- `decimal`: a number, and the text behind it. -/
def decimal (maximum : Nat) (text : List UInt8) : Option (Nat × List UInt8) :=
  if startsDigit text then
    match decimalLoop maximum 0 text with
    | none => none
    | some (value, rest) =>
      if 1 < text.length - rest.length ∧ text.headD 0 = 48 then none else some (value, rest)
  else
    none

theorem digits_small (small : digit < 10) : digits digit = [UInt8.ofNat (digit + 48)] := by
  have every : ∀ digit < 10, digits digit = [UInt8.ofNat (digit + 48)] := by decide
  exact every digit small

theorem digits_large (large : 10 ≤ value) :
    digits value = digits (value / 10) ++ digits (value % 10) := by
  unfold digits
  rw [Nat.toDigits_of_base_le (by decide) large, List.map_append,
    Nat.toDigits_of_lt_base (Nat.mod_lt value (by decide))]

theorem startsDigit_digits (value : Nat) (rest : List UInt8) :
    startsDigit (digits value ++ rest) = true ∧ ((digits value ++ rest).headD 0 = 48 → value = 0) := by
  induction value using Nat.strongRecOn generalizing rest with
  | ind value shorter =>
    by_cases small : value < 10
    · have every : ∀ digit < 10, startsDigit [UInt8.ofNat (digit + 48)] = true ∧
          (UInt8.ofNat (digit + 48) = 48 → digit = 0) := by decide
      rw [digits_small small]
      exact every value small
    · rw [digits_large (by omega), List.append_assoc]
      obtain ⟨starts, zero⟩ := shorter (value / 10) (by omega) (digits (value % 10) ++ rest)
      exact ⟨starts, fun head => by have := zero head; omega⟩

theorem decimalLoop_digit (small : digit < 10)
    (bound : value * 10 + digit ≤ maximum) (machine : maximum < 2 ^ 28) (rest : List UInt8) :
    decimalLoop maximum value (digits digit ++ rest) =
      decimalLoop maximum (value * 10 + digit) rest := by
  have starts := (startsDigit_digits digit rest).1
  have byte : (UInt8.ofNat (digit + 48)).toNat = digit + 48 := by
    rw [UInt8.toNat_ofNat', Nat.mod_eq_of_lt (by omega)]
  rw [digits_small small] at starts ⊢
  rw [List.singleton_append] at starts ⊢
  rw [decimalLoop, if_pos starts, if_neg (by omega), byte, Nat.add_sub_cancel,
    Nat.mod_eq_of_lt (by omega)]
  exact if_neg (by omega)

/-- The loop reads the digits of a number one by one. -/
theorem decimalLoop_digits (bound : value ≤ maximum)
    (machine : maximum < 2 ^ 28) (rest : List UInt8) :
    decimalLoop maximum 0 (digits value ++ rest) = decimalLoop maximum value rest := by
  induction value using Nat.strongRecOn generalizing rest with
  | ind value shorter =>
    by_cases small : value < 10
    · rw [decimalLoop_digit small (by omega) machine, Nat.zero_mul, Nat.zero_add]
    · rw [digits_large (by omega), List.append_assoc, shorter (value / 10) (by omega) (by omega),
        decimalLoop_digit (Nat.mod_lt value (by decide)) (by omega) machine, Nat.div_add_mod']

theorem decimalLoop_sound (bound : value ≤ maximum) (machine : maximum < 2 ^ 28)
    (read : decimalLoop maximum value text = some (result, rest)) :
    (value = 0 → startsDigit text = true → rest.length < text.length) ∧
      (0 < value ∨ startsDigit text = false → digits value ++ text = digits result ++ rest) ∧
      rest.length ≤ text.length ∧ result ≤ maximum ∧ startsDigit rest = false := by
  induction text generalizing value with
  | nil =>
    cases read
    exact ⟨fun _ => nofun, fun _ => rfl, Nat.le_refl _, bound, rfl⟩
  | cons digit text ih =>
    rw [decimalLoop] at read
    split at read
    · next starts =>
      split at read
      · cases read
      next room =>
      have range : 48 ≤ digit.toNat ∧ digit.toNat ≤ 57 := by
        simpa [startsDigit, UInt8.le_iff_toNat_le] using starts
      rw [Nat.mod_eq_of_lt (by omega)] at read
      dsimp only at read
      split at read
      · cases read
      next fits =>
      obtain ⟨_, same, shorter, last⟩ := ih (by omega) read
      refine ⟨fun _ _ => Nat.lt_succ_of_le shorter, fun nonzero => ?_, Nat.le_succ_of_le shorter, last⟩
      have positive : 0 < value := nonzero.resolve_right (by rw [starts]; exact nofun)
      rw [← same (.inl (by omega)), @digits_large (value * 10 + (digit.toNat - 48)) (by omega),
        show (value * 10 + (digit.toNat - 48)) / 10 = value by omega,
        digits_small (Nat.mod_lt _ (by decide)),
        show (value * 10 + (digit.toNat - 48)) % 10 + 48 = digit.toNat by omega,
        UInt8.ofNat_toNat, List.append_assoc]
      rfl
    · next other =>
      cases read
      exact ⟨fun _ starts => (other starts).elim, fun _ => rfl, Nat.le_refl _, bound,
        Bool.eq_false_of_not_eq_true other⟩

/-- A number is read exactly if it is in range and written without leading zeros. -/
theorem decimal_iff {maximum value : Nat} {text rest : List UInt8} (machine : maximum < 2 ^ 28) :
    decimal maximum text = some (value, rest) ↔
      text = digits value ++ rest ∧ value ≤ maximum ∧ startsDigit rest = false := by
  constructor
  · intro read
    unfold decimal at read
    split at read
    next starts =>
      cases text with
      | nil => cases starts
      | cons digit text =>
        have range : 48 ≤ digit.toNat ∧ digit.toNat ≤ 57 := by
          simpa [startsDigit, UInt8.le_iff_toNat_le] using starts
        split at read
        · cases read
        next value' rest' looped =>
        split at read
        · cases read
        next padded =>
        cases read
        have first : digits (digit.toNat - 48) = [digit] := by
          rw [digits_small (by omega), Nat.sub_add_cancel range.1, UInt8.ofNat_toNat]
        rw [decimalLoop, if_pos starts, if_neg (by omega), Nat.zero_mul, Nat.zero_add,
          Nat.mod_eq_of_lt (by omega)] at looped
        dsimp only at looped
        split at looped
        · cases looped
        next fits =>
        obtain ⟨longer, same, _, last⟩ := decimalLoop_sound (by omega) machine looped
        refine ⟨?_, last⟩
        rw [← List.singleton_append, ← first]
        refine same ?_
        by_contra zero
        rw [not_or, Bool.not_eq_false] at zero
        have less := longer (by omega) zero.2
        refine padded ⟨?_, UInt8.toNat_inj.mp (show digit.toNat = 48 by omega)⟩
        rw [List.length_cons]
        omega
    · cases read
  · rintro ⟨rfl, bound, ends⟩
    obtain ⟨starts, zero⟩ := startsDigit_digits value rest
    have stops : decimalLoop maximum value rest = some (value, rest) := by
      cases rest with
      | nil => rfl
      | cons => rw [decimalLoop, ends]; rfl
    rw [decimal, if_pos starts, decimalLoop_digits bound machine, stops]
    refine if_neg fun padded => ?_
    rw [zero padded.2, List.length_append, Nat.add_sub_cancel] at padded
    exact absurd padded.1 (by decide)

/-! ## Endpoints -/

/-- The text that `add_addresses` writes, if its buffer has room for it. -/
def addressText (endpoint : Endpoint) : Option (List UInt8) :=
  let octet index := digits (endpoint.ipv4.getD index 0).toNat
  let text := octet 0 ++ 46 :: (octet 1 ++ 46 :: (octet 2 ++ 46 :: (octet 3 ++ 58 :: digits endpoint.port)))
  if text.length < 1 ∨ 22 ≤ text.length then none else some text

/-- One turn of the loop of `parse_endpoint`. -/
def parseOctet (separator : UInt8) (text : List UInt8) : Option (UInt8 × List UInt8) :=
  match decimal 255 text with
  | some (value, next :: rest) => if next = separator then some (UInt8.ofNat value, rest) else none
  | _ => none

/-- `parse_endpoint`. -/
def parseEndpoint (text : List UInt8) : Option Endpoint := do
  let (first, text) ← parseOctet 46 text
  let (second, text) ← parseOctet 46 text
  let (third, text) ← parseOctet 46 text
  let (fourth, text) ← parseOctet 58 text
  let (port, text) ← decimal 65535 text
  let endpoint : Endpoint := { ipv4 := [first, second, third, fourth], port := port }
  if text ≠ [] then none else if endpoint.valid then some endpoint else none

theorem parseOctet_iff {separator byte : UInt8} {text rest : List UInt8}
    (other : ∀ rest, startsDigit (separator :: rest) = false) :
    parseOctet separator text = some (byte, rest) ↔ text = digits byte.toNat ++ separator :: rest := by
  have bound := byte.toNat_lt
  unfold parseOctet
  constructor
  · intro read
    split at read
    next value next rest found =>
      split at read
      next same =>
        cases read
        obtain ⟨written, range, _⟩ := (decimal_iff (by decide)).mp found
        rw [written, same, UInt8.toNat_ofNat', Nat.mod_eq_of_lt (by omega)]
      · cases read
    · cases read
  · intro written
    rw [(decimal_iff (by decide)).mpr ⟨written, by omega, other rest⟩]
    simp

theorem digits_length {value width : Nat} (positive : 0 < width) (bound : value < 10 ^ width) :
    (digits value).length ≤ width := by
  rw [digits, List.length_map]
  exact (Nat.length_toDigits_le_iff (by decide) positive).mpr bound

/-- An endpoint as the client has it in memory. -/
structure InMemory (endpoint : Endpoint) : Prop where
  ipv4 : endpoint.ipv4.length = 4
  port : endpoint.port < 65536

theorem addressText_eq (first second third fourth : UInt8) (bound : port < 65536) :
    addressText ⟨[first, second, third, fourth], port⟩ =
      some (digits first.toNat ++ 46 :: (digits second.toNat ++ 46 :: (digits third.toNat ++
        46 :: (digits fourth.toNat ++ 58 :: digits port)))) := by
  have octet (byte : UInt8) : (digits byte.toNat).length ≤ 3 :=
    digits_length (by decide) (by have := byte.toNat_lt; omega)
  have one := octet first
  have two := octet second
  have three := octet third
  have four := octet fourth
  have five := @digits_length port 5 (by decide) (by omega)
  refine if_neg ?_
  simp
  omega

/-- Every endpoint is written, and its text is the only one that is read as
this endpoint; the values of the loop fit in their words. -/
theorem endpoints_canonical (endpoint : Endpoint) (text : List UInt8) :
    (parseEndpoint text = some endpoint ↔
        InMemory endpoint ∧ endpoint.valid = true ∧ addressText endpoint = some text) ∧
      (InMemory endpoint → (addressText endpoint).isSome = true) ∧
      ∀ maximum ≤ 65535, ∀ value ≤ maximum / 10, ∀ digit : UInt8,
        value * 10 + (digit.toNat - 48) < 2 ^ 32 := by
  refine ⟨?_, ?_, fun _ _ _ _ digit => by have := digit.toNat_lt; omega⟩
  · constructor
    · intro parsed
      simp only [parseEndpoint, Option.bind_eq_bind, Option.bind_eq_some_iff, Prod.exists] at parsed
      obtain ⟨first, _, one, second, _, two, third, _, three, fourth, _, four, port, rest, last, ends⟩ :=
        parsed
      rw [parseOctet_iff fun _ => rfl] at one two three four
      obtain ⟨written, range, _⟩ := (decimal_iff (by decide)).mp last
      split at ends
      · cases ends
      next whole =>
      split at ends
      · next valid =>
        cases ends
        rw [not_not] at whole
        subst whole written four three two one
        rw [List.append_nil]
        have bound := Nat.lt_succ_of_le range
        exact ⟨⟨rfl, bound⟩, valid, addressText_eq _ _ _ _ bound⟩
      · cases ends
    · rintro ⟨⟨ipv4, bound⟩, valid, written⟩
      obtain ⟨octets, port⟩ := endpoint
      match octets, ipv4 with
      | [first, second, third, fourth], _ =>
      rw [addressText_eq _ _ _ _ bound] at written
      cases written
      have octet (byte : UInt8) (rest : List UInt8) :=
        (@parseOctet_iff 46 byte _ rest fun _ => rfl).mpr rfl
      have last (byte : UInt8) (rest : List UInt8) :=
        (@parseOctet_iff 58 byte _ rest fun _ => rfl).mpr rfl
      have number : decimal 65535 (digits port) = some (port, []) :=
        (decimal_iff (by decide)).mpr ⟨(List.append_nil _).symm, Nat.le_of_lt_succ bound, rfl⟩
      simp only [parseEndpoint, octet, last, number, Option.bind_eq_bind, Option.bind_some]
      exact if_pos valid
  · rintro ⟨ipv4, bound⟩
    obtain ⟨octets, port⟩ := endpoint
    match octets, ipv4 with
    | [first, second, third, fourth], _ =>
    rw [addressText_eq _ _ _ _ bound]
    rfl

end EspFrp.Xtcp.Codec
