import EspFrp.Library.Block

/-!
# Transformations computed piece by piece

A streaming transformation keeps lengths and commutes with prefixes, so that
its output can be produced while its input arrives.  How much of the output
each piece of input produces is left open.

Two ways to store such output are described.  A window keeps the part of the
output that lies between two positions.  A buffer that is transformed in
place is overwritten from its start, never ahead of what has been read.
-/

namespace EspFrp.Library

variable {Input Output : Type}

/-- The transformation can be computed piece by piece. -/
structure Streaming (transform : List Input → List Output) : Prop where
  length : ∀ input, (transform input).length = input.length
  take : ∀ input count, transform (input.take count) = (transform input).take count

/-- The output between position `produced` and the next `count` ones. -/
def produce (transform : List Input → List Output)
    (input : List Input) (produced count : Nat) : List Output :=
  ((transform input).drop produced).take count

namespace Streaming

variable {transform : List Input → List Output}

theorem take_append (streaming : Streaming transform) (before after : List Input)
    (inside : count ≤ before.length) :
    (transform (before ++ after)).take count = (transform before).take count := by
  rw [← streaming.take, List.take_append_of_le_length inside, streaming.take]

theorem produce_length (streaming : Streaming transform)
    (inside : produced + count ≤ input.length) :
    (produce transform input produced count).length = count := by
  rw [produce, List.length_take, List.length_drop, streaming.length]
  omega

/-- What a piece produces continues what has been produced. -/
theorem take_append_produce (streaming : Streaming transform) (before after : List Input)
    (inside : produced ≤ before.length) (count : Nat) :
    (transform before).take produced ++ produce transform (before ++ after) produced count =
      (transform (before ++ after)).take (produced + count) := by
  rw [← streaming.take_append before after inside, produce, List.take_add]

end Streaming

/-! ## Windows -/

section Windows

variable {Element : Type} {capacity : Nat}

/--
Copy the part of `output` that lies in the window.  The output starts at
position `produced`, the window at position `start`.
-/
def copyWindow (window : Block Element capacity)
    (start length produced : Nat) (output : List Element) :
    Block Element capacity :=
  if length = 0 ∨ output.length = 0 then
    window
  else
    let first := max produced start
    let last := min (produced + output.length) (start + length)
    if first < last then
      window.copy (first - start) ((output.drop (first - produced)).take (last - first))
    else
      window

/-- The window holds what it has seen of the stream. -/
def Shows (window : Block Element capacity) (start length : Nat) (stream : List Element) : Prop :=
  ∀ index < length, start + index < stream.length → window.cells[index]? = stream[start + index]?

theorem Shows.nil (window : Block Element capacity) (start length : Nat) :
    Shows window start length [] := fun _ _ inside => absurd inside (Nat.not_lt_zero _)

variable {window : Block Element capacity}

/-- Copying the next piece of a stream keeps the window up to date. -/
theorem Shows.copyWindow
    (shows : Shows window start length stream) (fits : length ≤ capacity) (output : List Element) :
    Shows (copyWindow window start length stream.length output)
      start length (stream ++ output) := by
  intro index indexLt inside
  rw [List.length_append] at inside
  simp only [Library.copyWindow]
  by_cases empty : length = 0 ∨ output.length = 0
  · rw [if_pos empty, List.getElem?_append_left (by omega)]
    exact shows index indexLt (by omega)
  rw [if_neg empty]
  by_cases overlap : max stream.length start < min (stream.length + output.length) (start + length)
  · have copied : ((output.drop (max stream.length start - stream.length)).take
          (min (stream.length + output.length) (start + length) - max stream.length start)).length =
          min (stream.length + output.length) (start + length) - max stream.length start := by
      rw [List.length_take, List.length_drop]
      omega
    rw [if_pos overlap, Block.copy_cells _ (by omega),
      overwrite_getElem? (by rw [window.cells_length]; omega), copied]
    by_cases new : stream.length ≤ start + index
    · rw [if_pos (by omega), List.getElem?_take_of_lt (by omega),
        List.getElem?_drop, List.getElem?_append_right new]
      congr 1
      omega
    · rw [if_neg (by omega), List.getElem?_append_left (by omega)]
      exact shows index indexLt (by omega)
  · rw [if_neg overlap, List.getElem?_append_left (by omega)]
    exact shows index indexLt (by omega)

/-- A window follows the output of a streaming transformation. -/
theorem Streaming.shows_copyWindow {transform : List Input → List Element}
    (streaming : Streaming transform) {start length produced : Nat}
    (shows : Shows window start length ((transform before).take produced))
    (fits : length ≤ capacity) (behind : produced ≤ before.length) (after : List Input)
    (count : Nat) :
    Shows (copyWindow window start length produced
        (produce transform (before ++ after) produced count))
      start length
      ((transform (before ++ after)).take (produced + count)) := by
  have taken : ((transform before).take produced).length = produced := by
    rw [List.length_take, streaming.length]
    omega
  have copied := shows.copyWindow fits (produce transform (before ++ after) produced count)
  rwa [taken, streaming.take_append_produce before after behind] at copied

/-- A window that the stream has passed holds its part of the stream. -/
theorem Shows.slice_eq (shows : Shows window start length stream)
    (passed : start + length ≤ stream.length) :
    window.slice 0 length = (stream.drop start).take length := by
  apply List.ext_getElem?
  intro index
  by_cases inside : index < length
  · rw [Block.slice, List.drop_zero, List.getElem?_take_of_lt inside,
      List.getElem?_take_of_lt inside, List.getElem?_drop]
    exact shows index inside (by omega)
  rw [List.getElem?_eq_none, List.getElem?_eq_none]
  · rw [List.length_take]
    omega
  · rw [Block.slice, List.length_take]
    omega

end Windows

/-! ## Buffers transformed in place -/

/--
The buffer after `produced` cells of output, where `input` is its prefix that
has been read.
-/
def inPlace {Element : Type} (transform : List Element → List Element)
    (buffer input : List Element) (produced : Nat) : List Element :=
  (transform input).take produced ++ buffer.drop produced

namespace Streaming

variable {Element : Type} {transform : List Element → List Element}

theorem inPlace_nil (buffer : List Element) : inPlace transform buffer [] 0 = buffer := by
  rw [inPlace, List.take_zero, List.nil_append, List.drop_zero]

variable (streaming : Streaming transform) {buffer : List Element}
include streaming

/-- Cells that have not been read are untouched. -/
theorem drop_inPlace (behind : produced ≤ input.length) (unread : produced ≤ count) :
    (inPlace transform buffer input produced).drop count = buffer.drop count := by
  have taken : ((transform input).take produced).length = produced := by
    rw [List.length_take, streaming.length]
    omega
  rw [inPlace, List.drop_append, List.drop_eq_nil_of_le (by omega),
    List.nil_append, taken, List.drop_drop]
  congr 1
  omega

/-- Writing back what the next piece produces. -/
theorem overwrite_inPlace
    (behind : produced ≤ before.length) (available : produced + count ≤ (before ++ after).length) :
    overwrite (inPlace transform buffer before produced) produced
        (produce transform (before ++ after) produced count) =
      inPlace transform buffer (before ++ after) (produced + count) := by
  have taken : ((transform before).take produced).length = produced := by
    rw [List.length_take, streaming.length]
    omega
  rw [overwrite, streaming.produce_length available,
    streaming.drop_inPlace behind (Nat.le_add_right _ _), inPlace, List.take_left' taken,
    streaming.take_append_produce _ _ behind, inPlace]

/-- When the rest is written back the whole buffer is transformed. -/
theorem overwrite_inPlace_rest (behind : produced ≤ buffer.length) :
    overwrite (inPlace transform buffer buffer produced) produced
        (produce transform buffer produced (buffer.length - produced)) =
      transform buffer := by
  have all : produced + (buffer.length - produced) = buffer.length := by omega
  have written : overwrite (inPlace transform buffer buffer produced) produced
          (produce transform (buffer ++ []) produced (buffer.length - produced)) =
        inPlace transform buffer (buffer ++ []) (produced + (buffer.length - produced)) :=
    streaming.overwrite_inPlace behind (by rw [List.append_nil]; omega)
  rw [List.append_nil, all] at written
  rw [written, inPlace, List.drop_length, List.append_nil,
    List.take_of_length_le (Nat.le_of_eq (streaming.length buffer))]

end Streaming

end EspFrp.Library
