import Mathlib.Data.List.Rotate
import EspFrp.Library.Block

/-!
# Wrap-around rings over a fixed block of cells

A ring owns a block of `capacity` cells.  The occupied cells start at `head`
and continue for `used` cells, wrapping from the last cell to the first one.
The three bounds of such a window are fields of the structure, so that every
operation below keeps them by construction.

The abstract value of a ring is the list `contents`.  Writing appends a
prefix of the offered elements to it and reading removes a prefix of it; both
operations are two block copies, split where the block ends.
-/

namespace EspFrp.Library

variable {Element : Type}

/-! ## The ring and its contents -/

/-- A block of cells with a window that may wrap around its end. -/
structure Ring (Element : Type) (capacity : Nat) where
  cells : List Element
  head : Nat
  used : Nat
  cells_length : cells.length = capacity
  head_lt : head < capacity
  used_le : used ≤ capacity
deriving DecidableEq, Repr

namespace Ring

variable {capacity : Nat}
variable (ring : Ring Element capacity) (offered : List Element)

/-- The empty ring whose cells all hold `fill`. -/
def empty (fill : Element) (capacity : Nat) (positive : 0 < capacity) : Ring Element capacity where
  cells := List.replicate capacity fill
  head := 0
  used := 0
  cells_length := List.length_replicate
  head_lt := positive
  used_le := Nat.zero_le capacity

/-- The occupied cells, oldest first. -/
def contents (ring : Ring Element capacity) : List Element :=
  (ring.cells.rotate ring.head).take ring.used

/-- The number of elements a write can still accept. -/
def available (ring : Ring Element capacity) : Nat := capacity - ring.used

@[simp]
theorem contents_empty (fill : Element) (positive : 0 < capacity) :
    (empty fill capacity positive).contents = [] := rfl

@[simp]
theorem contents_length : ring.contents.length = ring.used := by
  have bound := ring.used_le
  rw [contents, List.length_take, List.length_rotate, ring.cells_length]
  omega

theorem contents_getElem? {index : Nat} (occupied : index < ring.used) :
    ring.contents[index]? = ring.cells[(ring.head + index) % capacity]? := by
  have bound := ring.used_le
  rw [contents, List.getElem?_take_of_lt occupied,
    List.getElem?_rotate (by rw [ring.cells_length]; omega),
    ring.cells_length, Nat.add_comm]

theorem contents_eq_nil_iff : ring.contents = [] ↔ ring.used = 0 := by
  rw [← List.length_eq_zero_iff, contents_length]

/-- One wrap at most separates two positions of a ring. -/
theorem wrap_eq {head index : Nat} (headLt : head < capacity) (indexLe : index ≤ capacity) :
    (head + index) % capacity =
      if head + index < capacity then head + index
      else head + index - capacity := by
  by_cases direct : head + index < capacity
  · rw [if_pos direct, Nat.mod_eq_of_lt direct]
  · rw [if_neg direct, Nat.mod_eq_sub_mod (by omega), Nat.mod_eq_of_lt (by omega)]

/-! ## Writing -/

/-- The cell after the last occupied one. -/
def tail (ring : Ring Element capacity) : Nat := (ring.head + ring.used) % capacity

theorem tail_lt : ring.tail < capacity := Nat.mod_lt _ (Nat.zero_lt_of_lt ring.head_lt)

/-- The cells after a write: one copy up to the end, one from the start. -/
def writtenCells (ring : Ring Element capacity) (accepted : List Element) : List Element :=
  let first := min (capacity - ring.tail) accepted.length
  overwrite (overwrite ring.cells ring.tail (accepted.take first)) 0 (accepted.drop first)

variable {accepted : List Element}

theorem writtenCells_length (fits : accepted.length ≤ ring.available) :
    (ring.writtenCells accepted).length = capacity := by
  have tailLt := ring.tail_lt
  have cellsLength := ring.cells_length
  simp only [available] at fits
  have firstCopy : (overwrite ring.cells ring.tail (accepted.take
          (min (capacity - ring.tail) accepted.length))).length =
        capacity := by
    rw [overwrite_length, cellsLength]
    rw [List.length_take, cellsLength]
    omega
  rw [writtenCells, overwrite_length, firstCopy]
  rw [List.length_drop, firstCopy]
  omega

/-- The cells of a write in terms of the position in the ring. -/
theorem writtenCells_getElem? (fits : accepted.length ≤ ring.available)
    {index : Nat} (indexLt : index < ring.used + accepted.length) :
    (ring.writtenCells accepted)[(ring.head + index) % capacity]? =
      if index < ring.used then
        ring.cells[(ring.head + index) % capacity]?
      else
        accepted[index - ring.used]? := by
  have headLt := ring.head_lt
  have usedLe := ring.used_le
  have cellsLength := ring.cells_length
  simp only [available] at fits
  have tailEq : ring.tail =
        if ring.head + ring.used < capacity then ring.head + ring.used
        else ring.head + ring.used - capacity := wrap_eq headLt usedLe
  have indexEq := wrap_eq headLt (show index ≤ capacity by omega)
  have firstFits : ring.tail + (accepted.take (min (capacity - ring.tail) accepted.length)).length ≤
        ring.cells.length := by
    have tailLt := ring.tail_lt
    rw [List.length_take, cellsLength]
    omega
  have secondFits : 0 + (accepted.drop (min (capacity - ring.tail) accepted.length)).length ≤
        (overwrite ring.cells ring.tail (accepted.take (min (capacity - ring.tail)
              accepted.length))).length := by
    rw [overwrite_length firstFits, List.length_drop, cellsLength]
    omega
  rw [writtenCells, overwrite_getElem? secondFits, overwrite_getElem? firstFits, List.length_drop,
    List.length_take, List.getElem?_drop]
  by_cases old : index < ring.used
  · rw [if_pos old, if_neg, if_neg]
    · split_ifs at tailEq indexEq <;> omega
    · split_ifs at tailEq indexEq <;> omega
  rw [if_neg old]
  by_cases wrapped : ring.head + index < capacity
  · rw [if_pos wrapped] at indexEq
    rw [if_pos (by omega)] at tailEq
    rw [if_neg (by omega), if_pos (by omega), List.getElem?_take_of_lt (by omega)]
    congr 1
    omega
  · rw [if_neg wrapped] at indexEq
    by_cases tailWrapped : ring.head + ring.used < capacity
    · rw [if_pos tailWrapped] at tailEq
      rw [if_pos (by omega)]
      congr 1
      omega
    · rw [if_neg tailWrapped] at tailEq
      rw [if_neg (by omega), if_pos (by omega), List.getElem?_take_of_lt (by omega)]
      congr 1
      omega

/-- Append the prefix of `offered` for which there is room. -/
def write (ring : Ring Element capacity) (offered : List Element) : Ring Element capacity where
  cells := ring.writtenCells (offered.take ring.available)
  head := ring.head
  used := ring.used + (offered.take ring.available).length
  cells_length := ring.writtenCells_length (List.length_take_le _ _)
  head_lt := ring.head_lt
  used_le := by
    have bound := ring.used_le
    rw [List.length_take, available]
    omega

theorem write_take_available : ring.write (offered.take ring.available) = ring.write offered := by
  simp only [write, List.take_take, Nat.min_self]

/-- Writing appends to the contents. -/
@[simp]
theorem contents_write :
    (ring.write offered).contents = ring.contents ++ offered.take ring.available := by
  have fits : (offered.take ring.available).length ≤ ring.available := List.length_take_le _ _
  apply List.ext_getElem?
  intro index
  by_cases inside : index < ring.used + (offered.take ring.available).length
  · rw [contents_getElem? _ inside]
    change (ring.writtenCells _)[(ring.head + index) % capacity]? = _
    rw [ring.writtenCells_getElem? fits inside]
    by_cases old : index < ring.used
    · rw [if_pos old, List.getElem?_append_left (by rw [contents_length]; exact old),
        contents_getElem? _ old]
    · rw [if_neg old, List.getElem?_append_right (by rw [contents_length]; omega), contents_length]
  · rw [List.getElem?_eq_none, List.getElem?_eq_none]
    · rw [List.length_append, contents_length]
      omega
    · rw [contents_length]
      exact Nat.le_of_not_lt inside

section

variable (ring : Ring Element capacity) {first : List Element}
  (room : first.length ≤ ring.available)
include room

theorem used_write : (ring.write first).used = ring.used + first.length := by
  change ring.used + (first.take ring.available).length = _
  rw [List.take_of_length_le room]

theorem available_write : (ring.write first).available = ring.available - first.length := by
  rw [available, ring.used_write room, available, Nat.sub_add_eq]

/-- Two writes are one, as long as the first one fits. -/
theorem write_append (more : List Element) :
    (ring.write first).write more = ring.write (first ++ more) := by
  have whole := List.take_of_length_le room
  have used := ring.used_write room
  have rest := ring.available_write room
  have cells : (ring.write first).cells = ring.writtenCells first :=
    congrArg ring.writtenCells whole
  have tail : (ring.write first).tail = (ring.tail + first.length) % capacity := by
    rw [Ring.tail, used, Ring.tail, Nat.mod_add_mod, Nat.add_assoc]
    rfl
  have taken : (first ++ more).take ring.available =
      first ++ more.take (ring.write first).available := by
    rw [List.take_append, whole, rest]
  have fits := List.length_take_le (ring.write first).available more
  have headLt := ring.head_lt
  have tailLt := ring.tail_lt
  have usedLe := ring.used_le
  have tailEq := wrap_eq headLt usedLe
  have cellsLength := ring.cells_length
  rw [write]
  simp only [write.eq_1 ring (first ++ more), mk.injEq, taken]
  generalize more.take (ring.write first).available = second at fits ⊢
  rw [rest, available] at fits
  rw [available] at room
  refine ⟨?_, rfl, by rw [used, List.length_append, Nat.add_assoc]⟩
  rw [writtenCells, cells, tail, writtenCells, writtenCells, List.length_append]
  by_cases short : ring.tail + first.length < capacity
  · have split : min (capacity - ring.tail) (first.length + second.length) =
        first.length + min (capacity - (ring.tail + first.length)) second.length := by
      omega
    rw [Nat.mod_eq_of_lt short, Nat.min_eq_right (by omega : first.length ≤ _),
      List.take_length, List.drop_length, overwrite_nil,
      overwrite_append (by omega), split, List.take_length_add_append,
      List.drop_length_add_append]
  · have after : (ring.tail + first.length) % capacity =
        0 + (first.drop (capacity - ring.tail)).length := by
      rw [List.length_drop, Nat.mod_eq_sub_mod (by omega),
        Nat.mod_eq_of_lt (by split_ifs at tailEq <;> omega)]
      omega
    have behind : second.length ≤ capacity - (ring.tail + first.length) % capacity := by
      rw [after, List.length_drop]
      split_ifs at tailEq <;> omega
    rw [Nat.min_eq_left (by omega : _ ≤ first.length),
      Nat.min_eq_left (by omega : _ ≤ first.length + _),
      Nat.min_eq_right behind,
      List.take_length, List.drop_length, overwrite_nil, after,
      overwrite_append (Nat.zero_le _), List.take_append_of_le_length (by
          omega),
      List.drop_append_of_le_length (by omega)]

end

/-! ## Reading -/

/-- The elements a read of at most `count` returns: two copies again. -/
def front (ring : Ring Element capacity) (count : Nat) : List Element :=
  let taken := min count ring.used
  let first := min (capacity - ring.head) taken
  (ring.cells.drop ring.head).take first ++ ring.cells.take (taken - first)

/-- The ring after a read of at most `count` elements. -/
def drop (ring : Ring Element capacity) (count : Nat) : Ring Element capacity where
  cells := ring.cells
  head := (ring.head + min count ring.used) % capacity
  used := ring.used - min count ring.used
  cells_length := ring.cells_length
  head_lt := Nat.mod_lt _ (Nat.zero_lt_of_lt ring.head_lt)
  used_le := (Nat.sub_le _ _).trans ring.used_le

variable (ring : Ring Element capacity) (count : Nat)

/-- A read returns the oldest elements. -/
theorem front_eq : ring.front count = ring.contents.take count := by
  have headLt := ring.head_lt
  have usedLe := ring.used_le
  have cellsLength := ring.cells_length
  have countBound : min count ring.used ≤ capacity := (Nat.min_le_right _ _).trans usedLe
  simp only [front]
  generalize takenEq : min count ring.used = taken at *
  have frontLength : ((ring.cells.drop ring.head).take (min (capacity - ring.head) taken)).length =
        min (capacity - ring.head) taken := by
    rw [List.length_take, List.length_drop, cellsLength]
    omega
  apply List.ext_getElem?
  intro index
  by_cases inside : index < taken
  · rw [List.getElem?_take_of_lt (by omega), contents_getElem? _ (by omega),
      wrap_eq headLt (by omega)]
    by_cases direct : ring.head + index < capacity
    · rw [if_pos direct, List.getElem?_append_left (by omega),
        List.getElem?_take_of_lt (by omega), List.getElem?_drop]
    rw [if_neg direct, List.getElem?_append_right (by omega), frontLength,
      List.getElem?_take_of_lt (by omega)]
    congr 1
    omega
  · rw [List.getElem?_eq_none, List.getElem?_eq_none]
    · rw [List.length_take, contents_length]
      omega
    · rw [List.length_append, frontLength, List.length_take, cellsLength]
      omega

/-- A read removes exactly the elements it returns. -/
@[simp]
theorem contents_drop : (ring.drop count).contents = ring.contents.drop count := by
  have headLt := ring.head_lt
  have usedLe := ring.used_le
  have dropUsed : (ring.drop count).used = ring.used - min count ring.used := rfl
  apply List.ext_getElem?
  intro index
  rw [List.getElem?_drop]
  by_cases inside : index < ring.used - min count ring.used
  · rw [contents_getElem? _ (dropUsed ▸ inside), contents_getElem? _ (by omega)]
    change ring.cells[((ring.head + min count ring.used) % capacity + index) % capacity]? = _
    rw [Nat.mod_add_mod]
    congr 2
    omega
  · rw [List.getElem?_eq_none, List.getElem?_eq_none]
    · rw [contents_length]
      omega
    · rw [contents_length, dropUsed]
      exact Nat.le_of_not_lt inside

theorem front_append_contents_drop :
    ring.front count ++ (ring.drop count).contents = ring.contents := by
  rw [front_eq, contents_drop, List.take_append_drop]

end Ring

end EspFrp.Library
