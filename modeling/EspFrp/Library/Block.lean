import Mathlib.Data.List.Basic

/-!
# Fixed blocks of cells

A block owns a fixed number of cells; that number is part of its type.  Cells
are changed by copying a list over them.  A copy that would leave the block
is not made, so that every operation below keeps the number of cells by
construction.
-/

namespace EspFrp.Library

variable {Element : Type}

/-! ## Copies over a list of cells -/

/-- Copy `source` over the cells of `block` that start at `offset`. -/
def overwrite (block : List Element) (offset : Nat) (source : List Element) : List Element :=
  block.take offset ++ source ++ block.drop (offset + source.length)

section

variable {block source : List Element} {offset : Nat}

theorem overwrite_length (fits : offset + source.length ≤ block.length) :
    (overwrite block offset source).length = block.length := by
  simp only [overwrite, List.length_append, List.length_take, List.length_drop]
  omega

/-- A copied cell holds the source, every other cell keeps its value. -/
theorem overwrite_getElem? (fits : offset + source.length ≤ block.length) (index : Nat) :
    (overwrite block offset source)[index]? =
      if offset ≤ index ∧ index < offset + source.length then
        source[index - offset]?
      else
        block[index]? := by
  have takeLength : (block.take offset).length = offset := by
    rw [List.length_take]
    omega
  rw [overwrite, List.append_assoc]
  by_cases before : index < offset
  · rw [List.getElem?_append_left (by omega), List.getElem?_take_of_lt before, if_neg (by omega)]
  rw [List.getElem?_append_right (by omega), takeLength]
  by_cases inside : index < offset + source.length
  · rw [List.getElem?_append_left (by omega), if_pos (by omega)]
  rw [List.getElem?_append_right (by omega), List.getElem?_drop, if_neg (by omega)]
  congr 1
  omega

/-- The cells up to the end of a copy. -/
theorem take_overwrite (inside : offset ≤ block.length) :
    (overwrite block offset source).take (offset + source.length) =
      block.take offset ++ source := by
  have headLength : (block.take offset ++ source).length = offset + source.length := by
    rw [List.length_append, List.length_take]
    omega
  rw [overwrite, List.take_left' headLength]

/-- The cells behind a copy keep their values. -/
theorem drop_overwrite (inside : offset ≤ block.length) (behind : offset + source.length ≤ count) :
    (overwrite block offset source).drop count = block.drop count := by
  have headLength : (block.take offset ++ source).length = offset + source.length := by
    rw [List.length_append, List.length_take]
    omega
  rw [overwrite, List.drop_append, List.drop_eq_nil_of_le (by omega),
    List.nil_append, headLength, List.drop_drop]
  congr 1
  omega

theorem overwrite_nil (block : List Element) (offset : Nat) :
    overwrite block offset [] = block := by
  simp [overwrite]

/-- Two adjacent copies are one. -/
theorem overwrite_append (inside : offset ≤ block.length) (second : List Element) :
    overwrite (overwrite block offset first) (offset + first.length) second =
      overwrite block offset (first ++ second) := by
  rw [overwrite, take_overwrite inside, drop_overwrite inside (by omega)]
  simp [overwrite, Nat.add_assoc]

end

/-! ## Blocks -/

/-- A fixed number of cells. -/
@[ext]
structure Block (Element : Type) (capacity : Nat) where
  cells : List Element
  cells_length : cells.length = capacity
deriving Repr

instance {Element : Type} {capacity : Nat} [DecidableEq Element] :
    DecidableEq (Block Element capacity) :=
  fun left right =>
    decidable_of_iff (left.cells = right.cells)
      ⟨fun same => by cases left; cases right; cases same; rfl, congrArg Block.cells⟩

variable {source : List Element} {offset : Nat}

namespace Block

variable {capacity : Nat}

attribute [simp] cells_length

/-- The block whose cells all hold `fill`. -/
def filled (fill : Element) (capacity : Nat) : Block Element capacity where
  cells := List.replicate capacity fill
  cells_length := List.length_replicate

/-- Copy `source` over the cells that start at `offset`. -/
def copy (block : Block Element capacity) (offset : Nat)
    (source : List Element) : Block Element capacity :=
  if fits : offset + source.length ≤ capacity then
    { cells := overwrite block.cells offset source
      cells_length := by
        rw [overwrite_length] <;> rw [block.cells_length]
        exact fits }
  else
    block

/-- The `length` cells that start at `offset`. -/
def slice (block : Block Element capacity) (offset length : Nat) :
    List Element := (block.cells.drop offset).take length

variable (block : Block Element capacity)

theorem copy_cells (fits : offset + source.length ≤ capacity) :
    (block.copy offset source).cells = overwrite block.cells offset source := by
  rw [copy, dif_pos fits]

/-- The first cells, up to the end of a copy. -/
theorem take_copy (fits : used + source.length ≤ capacity) :
    (block.copy used source).cells.take (used + source.length) =
      block.cells.take used ++ source := by
  rw [copy_cells _ fits, take_overwrite]
  rw [cells_length]
  omega

/-- A copy up to the end of the block. -/
theorem copy_full (fits : used + source.length = capacity) :
    (block.copy used source).cells = block.cells.take used ++ source := by
  rw [← block.take_copy (Nat.le_of_eq fits), fits,
    List.take_of_length_le (Nat.le_of_eq (cells_length _))]

/-- The cells ahead of a copy keep their values. -/
theorem take_copy_ahead (source : List Element) (ahead : count ≤ offset) :
    (block.copy offset source).cells.take count = block.cells.take count := by
  by_cases fits : offset + source.length ≤ capacity
  · rw [copy_cells _ fits, overwrite, List.append_assoc, List.take_append_of_le_length,
      List.take_take, Nat.min_eq_left ahead]
    rw [List.length_take, cells_length]
    omega
  · rw [copy, dif_neg fits]

/-- The cells of a copy. -/
theorem slice_copy (fits : offset + source.length ≤ capacity) :
    (block.copy offset source).slice offset source.length = source := by
  have taken := congrArg (List.drop offset) (block.take_copy fits)
  rw [List.drop_take, Nat.add_sub_cancel_left] at taken
  rw [slice, taken, List.drop_left']
  rw [List.length_take, cells_length]
  omega

/-- The cells behind a copy. -/
theorem slice_copy_behind (fits : offset + source.length ≤ capacity)
    (behind : offset + source.length ≤ start) (length : Nat) :
    (block.copy offset source).slice start length = block.slice start length := by
  rw [slice, copy_cells _ fits, drop_overwrite _ behind, slice]
  rw [cells_length]
  omega

theorem drop_slice (offset length count : Nat) :
    (block.slice offset length).drop count = block.slice (offset + count) (length - count) := by
  rw [slice, slice, List.drop_take, List.drop_drop]

theorem slice_length (inside : offset + length ≤ capacity) :
    (block.slice offset length).length = length := by
  rw [slice, List.length_take, List.length_drop, cells_length]
  omega

end Block

end EspFrp.Library
