import Mathlib.Data.List.Basic

/-! Buffers that are read and written by offset. An access that is not inside a buffer has
no outcome, so a loop that has one never leaves its buffers. -/

set_option autoImplicit false

namespace Memory

variable {Cell : Type}

/-- The cells from an offset on, when all of them are there. -/
def read? (buffer : List Cell) (offset count : Nat) : Option (List Cell) :=
  if offset + count ≤ buffer.length then some ((buffer.drop offset).take count) else none

/-- The buffer with these cells from an offset on, when there is room for them. -/
def write? (buffer : List Cell) (offset : Nat) (cells : List Cell) : Option (List Cell) :=
  if offset + cells.length ≤ buffer.length then
    some (buffer.take offset ++ cells ++ buffer.drop (offset + cells.length))
  else none

def copy? (target : List Cell) (offset : Nat) (source : List Cell) (start count : Nat) :
    Option (List Cell) :=
  (read? source start count).bind (write? target offset)

def fill? (buffer : List Cell) (offset count : Nat) (cell : Cell) : Option (List Cell) :=
  write? buffer offset (List.replicate count cell)

/-- `std::vector::resize`. -/
def resize (buffer : List Cell) (size : Nat) (filler : Cell) : List Cell :=
  buffer.take size ++ List.replicate (size - buffer.length) filler

theorem read?_of_le {buffer : List Cell} {offset count : Nat} (inside : offset + count ≤ buffer.length) :
    read? buffer offset count = some ((buffer.drop offset).take count) :=
  if_pos inside

theorem length_read {buffer : List Cell} {offset count : Nat} (inside : offset + count ≤ buffer.length) :
    ((buffer.drop offset).take count).length = count := by
  rw [List.length_take, List.length_drop]
  omega

theorem copy?_one {source : List Cell} {start : Nat} (inside : start < source.length)
    (target : List Cell) (offset : Nat) (filler : Cell) :
    copy? target offset source start 1 = write? target offset [source.getD start filler] := by
  have cell : read? source start 1 = some [source.getD start filler] := by
    rw [read?_of_le inside, List.drop_eq_getElem_cons inside, List.getElem_eq_getD filler]
    rfl
  rw [copy?, cell, Option.bind_some]

theorem write?_append {written rest cells : List Cell} {offset : Nat} (here : written.length = offset)
    (room : cells.length ≤ rest.length) :
    write? (written ++ rest) offset cells = some (written ++ cells ++ rest.drop cells.length) := by
  subst here
  rw [write?, if_pos (by rw [List.length_append]; omega), List.take_left, List.drop_length_add_append]

theorem write?_append_one {written rest : List Cell} {offset : Nat} (here : written.length = offset)
    (room : 0 < rest.length) (cell : Cell) :
    write? (written ++ rest) offset [cell] = some (written ++ [cell] ++ rest.drop 1) :=
  write?_append here room

theorem length_write? {buffer cells result : List Cell} {offset : Nat}
    (written : write? buffer offset cells = some result) : result.length = buffer.length := by
  unfold write? at written
  split_ifs at written with room
  cases written
  simp only [List.length_append, List.length_take, List.length_drop]
  omega

theorem fill?_tail (buffer : List Cell) (offset : Nat) (cell : Cell) (inside : offset ≤ buffer.length) :
    ∃ filled, fill? buffer offset (buffer.length - offset) cell = some filled ∧
      filled.drop offset = List.replicate (buffer.length - offset) cell := by
  have room : offset + (List.replicate (buffer.length - offset) cell).length ≤ buffer.length := by
    rw [List.length_replicate]
    omega
  have behind : (buffer.drop (offset + (List.replicate (buffer.length - offset) cell).length)) = [] := by
    rw [List.drop_eq_nil_iff, List.length_replicate]
    omega
  refine ⟨_, if_pos room, ?_⟩
  rw [behind, List.append_nil, List.drop_append_of_le_length, List.drop_take, Nat.sub_self,
    List.take_zero, List.nil_append]
  rw [List.length_take]
  omega

/-- A loop whose turns each write the next piece of the same width writes all pieces. -/
theorem foldlM_pieces (piece : Nat → List Cell) (width : Nat)
    (turn : List Cell → Nat → Option (List Cell)) (buffer : List Cell) (offset count : Nat)
    (sized : ∀ index < count, (piece index).length = width)
    (turns : ∀ {written rest : List Cell} {index : Nat}, index < count →
      written.length = offset + index * width → width ≤ rest.length →
      turn (written ++ rest) index = some (written ++ piece index ++ rest.drop width))
    (room : offset + count * width ≤ buffer.length) :
    (List.range count).foldlM turn buffer =
      some (buffer.take offset ++ (List.range count).flatMap piece ++
        buffer.drop (offset + count * width)) := by
  induction count with
  | zero => simp
  | succ count ih =>
      have step : (count + 1) * width = count * width + width := Nat.succ_mul count width
      have before := ih (fun index earlier => sized index (by omega))
        (fun earlier => turns (by omega)) (by omega)
      have written : (buffer.take offset ++ (List.range count).flatMap piece).length =
          offset + count * width := by
        have pieces : ((List.range count).flatMap piece).length = count * width := by
          rw [List.length_flatMap, List.map_congr_left (g := fun _ => width)]
          · simp
          · intro index member
            exact sized index (Nat.lt_succ_of_lt (List.mem_range.mp member))
        rw [List.length_append, pieces, List.length_take]
        omega
      have rest : width ≤ (buffer.drop (offset + count * width)).length := by
        rw [List.length_drop]
        omega
      rw [List.range_succ, List.foldlM_append, before]
      simp only [Option.bind_eq_bind, Option.bind_some, List.foldlM_cons, List.foldlM_nil]
      rw [turns (Nat.lt_succ_self count) written rest]
      simp [step, List.drop_drop, Nat.add_assoc]

/-- A stretch of a buffer is the sequence of its pieces. -/
theorem take_eq_flatMap (buffer : List Cell) (width count : Nat) :
    buffer.take (count * width) =
      (List.range count).flatMap fun index => (buffer.drop (index * width)).take width := by
  induction count with
  | zero => simp
  | succ count ih =>
      have longer : buffer.take ((count + 1) * width) =
          buffer.take (count * width) ++ (buffer.drop (count * width)).take width := by
        rw [Nat.add_mul, Nat.one_mul, List.take_add]
      simp [longer, ih, List.range_succ]

theorem take_eq_map_getD {buffer : List Cell} {offset count : Nat}
    (inside : offset + count ≤ buffer.length) (filler : Cell) :
    (buffer.drop offset).take count =
      (List.range count).map fun index => buffer.getD (offset + index) filler := by
  apply List.ext_getElem
  · rw [length_read inside, List.length_map, List.length_range]
  · intro index first second
    have bounded : index < count := by simpa using second
    rw [List.getElem_take, List.getElem_drop, List.getElem_map, List.getElem_range,
      List.getElem_eq_getD filler]

end Memory
