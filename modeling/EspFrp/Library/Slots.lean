import Mathlib.Data.List.Basic

/-!
# Slot tables with natural keys

A slot table is a list of slots, each carrying a key; key zero marks a free
slot.  Code that keeps such a table holds a pointer to the first slot with a
given key and writes through it.  `replaceFirst` is that write: the slot that
`lookup` finds is exchanged and every other slot stays in place.

The lemmas describe the table as a finite map from nonzero keys to slots, so
that a development above it reasons about `lookup` only.
-/

namespace EspFrp.Library.Slots

variable {Slot : Type} (key : Slot → Nat)

/-- The first slot that carries the wanted key. -/
def lookup (wanted : Nat) (slots : List Slot) : Option Slot :=
  slots.find? fun slot => key slot == wanted

/-- Exchange the first slot that carries the wanted key. -/
def replaceFirst (wanted : Nat) (new : Slot) : List Slot → List Slot
  | [] => []
  | slot :: rest =>
    if key slot = wanted then
      new :: rest
    else
      slot :: replaceFirst wanted new rest

/-- No two slots share a key other than zero. -/
def Distinct (slots : List Slot) : Prop :=
  slots.Pairwise fun left right => key left = key right → key left = 0

variable {key}

/-! ## Lookup -/

theorem lookup_cons (wanted : Nat) (slot : Slot) (rest : List Slot) :
    lookup key wanted (slot :: rest) =
      if key slot = wanted then some slot
      else lookup key wanted rest := by
  by_cases found : key slot = wanted <;> simp [lookup, found]

variable {slots : List Slot} {wanted : Nat} {new slot : Slot}

theorem key_of_lookup (found : lookup key wanted slots = some slot) : key slot = wanted := by
  simpa using List.find?_some found

theorem mem_of_lookup (found : lookup key wanted slots = some slot) : slot ∈ slots :=
  List.mem_of_find?_eq_some found

theorem lookup_eq_none_iff :
    lookup key wanted slots = none ↔ ∀ slot ∈ slots, key slot ≠ wanted := by
  simp [lookup]

/-- In a table without shared keys, every occupied slot is found. -/
theorem lookup_of_mem (distinct : Distinct key slots) (member : slot ∈ slots)
    (occupied : key slot ≠ 0) : lookup key (key slot) slots = some slot := by
  induction slots with
  | nil => cases member
  | cons first _ ih =>
    rw [lookup_cons]
    rcases List.pairwise_cons.mp distinct with ⟨apart, restDistinct⟩
    rcases List.mem_cons.mp member with rfl | later
    · rw [if_pos rfl]
    have keyNe : key first ≠ key slot := by
      intro same
      exact occupied (same ▸ apart slot later same)
    rw [if_neg keyNe]
    exact ih restDistinct later

/-! ## Replacement -/

@[simp]
theorem replaceFirst_length (wanted : Nat) (new : Slot) (slots : List Slot) :
    (replaceFirst key wanted new slots).length = slots.length := by
  induction slots with
  | nil => rfl
  | cons first _ ih =>
    by_cases found : key first = wanted <;>
      simp [replaceFirst, found, ih]

/-- Writing a slot back under its own key leaves the keys in place. -/
@[simp]
theorem map_key_replaceFirst (new : Slot) (slots : List Slot) :
    (replaceFirst key (key new) new slots).map key = slots.map key := by
  induction slots with
  | nil => rfl
  | cons first _ ih =>
    by_cases here : key first = key new
    · rw [replaceFirst, if_pos here, List.map_cons, List.map_cons, here]
    · rw [replaceFirst, if_neg here, List.map_cons, List.map_cons, ih]

/-- Of two writes under one key the second one stays. -/
theorem replaceFirst_replaceFirst (second : Slot) (keyEq : key first = wanted) (slots : List Slot) :
    replaceFirst key wanted second (replaceFirst key wanted first slots) =
      replaceFirst key wanted second slots := by
  induction slots with
  | nil => rfl
  | cons slot _ ih =>
    by_cases here : key slot = wanted
    · rw [replaceFirst, if_pos here, replaceFirst, if_pos keyEq, replaceFirst, if_pos here]
    · rw [replaceFirst, if_neg here, replaceFirst, if_neg here, replaceFirst, if_neg here, ih]

/-- Distinctness is a property of the keys alone. -/
theorem distinct_iff_map (slots : List Slot) :
    Distinct key slots ↔ (slots.map key).Pairwise fun left right => left = right → left = 0 := by
  rw [Distinct, List.pairwise_map]

theorem getElem?_replaceFirst_of_ne {index : Nat} (there : slots[index]? = some slot)
    (other : key slot ≠ wanted) : (replaceFirst key wanted new slots)[index]? = some slot := by
  induction slots generalizing index with
  | nil => cases there
  | cons _ _ ih =>
    rw [replaceFirst]
    cases index with
    | zero =>
      cases there
      rw [if_neg other]
      rfl
    | succ =>
      split
      · exact there
      · exact ih there

theorem mem_replaceFirst (member : slot ∈ replaceFirst key wanted new slots) :
    slot = new ∨ slot ∈ slots := by
  induction slots with
  | nil => cases member
  | cons first _ ih =>
    by_cases found : key first = wanted
    · simp only [replaceFirst, if_pos found, List.mem_cons] at member
      exact member.imp_right (List.mem_cons_of_mem first)
    simp only [replaceFirst, if_neg found, List.mem_cons] at member
    rcases member with rfl | later
    · exact Or.inr List.mem_cons_self
    · exact (ih later).imp_right (List.mem_cons_of_mem first)

theorem lookup_replaceFirst_of_ne (otherNe : other ≠ wanted) (newNe : key new ≠ other) :
    lookup key other (replaceFirst key wanted new slots) = lookup key other slots := by
  induction slots with
  | nil => rfl
  | cons first _ ih =>
    by_cases found : key first = wanted
    · have firstNe : key first ≠ other := fun same => otherNe (same.symm.trans found)
      rw [replaceFirst, if_pos found, lookup_cons, lookup_cons, if_neg newNe, if_neg firstNe]
    · rw [replaceFirst, if_neg found, lookup_cons, lookup_cons, ih]

/-- A slot that keeps its key or takes an unused one is found under it. -/
theorem lookup_replaceFirst_new (found : lookup key wanted slots = some old)
    (unused : ∀ slot ∈ slots, key slot ≠ wanted → key slot ≠ key new) :
    lookup key (key new) (replaceFirst key wanted new slots) = some new := by
  induction slots with
  | nil => cases found
  | cons first _ ih =>
    by_cases here : key first = wanted
    · rw [replaceFirst, if_pos here, lookup_cons, if_pos rfl]
    rw [lookup_cons, if_neg here] at found
    rw [replaceFirst, if_neg here, lookup_cons, if_neg (unused first List.mem_cons_self here)]
    exact ih found fun slot member => unused slot (List.mem_cons_of_mem first member)

/-- A slot that gives up its key leaves no other slot with it. -/
theorem lookup_replaceFirst_removed (distinct : Distinct key slots) (occupied : wanted ≠ 0)
    (newNe : key new ≠ wanted) : lookup key wanted (replaceFirst key wanted new slots) = none := by
  induction slots with
  | nil => rfl
  | cons first _ ih =>
    rcases List.pairwise_cons.mp distinct with ⟨apart, restDistinct⟩
    by_cases here : key first = wanted
    · rw [replaceFirst, if_pos here, lookup_cons, if_neg newNe, lookup_eq_none_iff]
      intro slot member same
      exact occupied (here ▸ apart slot member (here.trans same.symm))
    rw [replaceFirst, if_neg here, lookup_cons, if_neg here]
    exact ih restDistinct

theorem distinct_replaceFirst (distinct : Distinct key slots)
    (admissible : key new = 0 ∨ key new = wanted ∨ lookup key (key new) slots = none) :
    Distinct key (replaceFirst key wanted new slots) := by
  induction slots with
  | nil => exact List.Pairwise.nil
  | cons first rest ih =>
    rcases List.pairwise_cons.mp distinct with ⟨apart, restDistinct⟩
    by_cases here : key first = wanted
    · rw [replaceFirst, if_pos here]
      refine List.pairwise_cons.mpr ⟨?_, restDistinct⟩
      intro slot member same
      rcases admissible with free | kept | fresh
      · exact free
      · rw [kept, ← here]
        exact apart slot member (here.trans (kept.symm.trans same))
      exact absurd same.symm (lookup_eq_none_iff.mp fresh slot (List.mem_cons_of_mem first member))
    · rw [replaceFirst, if_neg here]
      have restAdmissible : key new = 0 ∨ key new = wanted ∨ lookup key (key new) rest = none := by
        refine admissible.imp_right (Or.imp_right ?_)
        intro fresh
        rw [lookup_eq_none_iff] at fresh ⊢
        exact fun slot member => fresh slot (List.mem_cons_of_mem first member)
      refine List.pairwise_cons.mpr ⟨?_, ih restDistinct restAdmissible⟩
      intro slot member same
      rcases mem_replaceFirst member with rfl | older
      · rcases admissible with free | kept | fresh
        · exact same.trans free
        · exact absurd (same.trans kept) here
        · exact absurd same (lookup_eq_none_iff.mp fresh first List.mem_cons_self)
      · exact apart slot older same

end EspFrp.Library.Slots

namespace EspFrp.Library

/-- What a map that has been changed at one key holds. -/
theorem update_found {Key Value : Type} [DecidableEq Key]
    {map after : Key → Option Value} {key other : Key} {new : Option Value} {value : Value}
    (changed : after = Function.update map key new) (found : after other = some value) :
    (other = key ∧ new = some value) ∨ (other ≠ key ∧ map other = some value) := by
  subst changed
  by_cases same : other = key
  · subst same
    rw [Function.update_self] at found
    exact .inl ⟨rfl, found⟩
  rw [Function.update_of_ne same] at found
  exact .inr ⟨same, found⟩

end EspFrp.Library
