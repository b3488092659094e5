import Mathlib.Data.List.Basic
import Mathlib.Tactic.Ring

/-! Lists read and written in blocks of one size, as a buffer of pixels is. -/

namespace DummyDrivers.Blocks

variable {Item : Type*}

/-- The block at an index, short where the list ends. -/
def block (size : Nat) (items : List Item) (index : Nat) : List Item :=
  (items.drop (size * index)).take size

/-- A list with a run of items replaced from an offset on. -/
def patch (items : List Item) (offset : Nat) (new : List Item) : List Item :=
  items.take offset ++ new ++ items.drop (offset + new.length)

/-- The end of a block inside a list of blocks. -/
theorem block_end (size : Nat) {index count : Nat} (inside : index < count)
    : size * index + size ≤ size * count := by
  rw [← Nat.mul_succ]
  exact Nat.mul_le_mul_left size inside

/-- A place in a grid, counted along its rows, lies in the grid. -/
theorem raster_lt {x y width height : Nat} (column : x < width) (line : y < height)
    : y * width + x < width * height := by
  calc y * width + x
      < y * width + width := by omega
    _ = (y + 1) * width := by rw [Nat.succ_mul]
    _ ≤ height * width := Nat.mul_le_mul_right width line
    _ = width * height := Nat.mul_comm _ _

theorem raster_mod {x width : Nat} (column : x < width) (y : Nat)
    : (y * width + x) % width = x := by
  rw [Nat.mul_add_mod', Nat.mod_eq_of_lt column]

theorem raster_div {x width : Nat} (column : x < width) (y : Nat)
    : (y * width + x) / width = y := by
  rw [Nat.mul_comm, Nat.mul_add_div (Nat.zero_lt_of_lt column), Nat.div_eq_of_lt column,
    Nat.add_zero]

/-- Different places of a grid have different numbers. -/
theorem raster_inj {x y column row width : Nat} (first : x < width) (second : column < width)
    : y * width + x = row * width + column ↔ x = column ∧ y = row := by
  constructor
  · intro same
    have columns := congrArg (· % width) same
    have lines := congrArg (· / width) same
    simp only [raster_mod first, raster_mod second] at columns
    simp only [raster_div first, raster_div second] at lines
    exact ⟨columns, lines⟩
  · rintro ⟨rfl, rfl⟩
    rfl

theorem getElem?_block {size : Nat} (items : List Item) {index lane : Nat}
    (inside : lane < size)
    : (block size items index)[lane]? = items[size * index + lane]? := by
  rw [block, List.getElem?_take_of_lt inside, List.getElem?_drop]

/-- A shorter list has the same blocks as far as it reaches. -/
theorem block_take {size : Nat} (items : List Item) {index count : Nat}
    (inside : size * index + size ≤ count)
    : block size (items.take count) index = block size items index := by
  apply List.ext_getElem?
  intro lane
  by_cases bound : lane < size
  · rw [getElem?_block _ bound, getElem?_block _ bound, List.getElem?_take_of_lt (by omega)]
  · rw [List.getElem?_eq_none, List.getElem?_eq_none] <;>
      simp only [block, List.length_take] <;> omega

theorem block_replicate {size count index : Nat} (item : Item)
    (inside : size * index + size ≤ count)
    : block size (List.replicate count item) index = List.replicate size item := by
  rw [block, List.drop_replicate, List.take_replicate]
  congr 1
  omega

/-- A block inside a larger block. -/
theorem block_block {size width : Nat} (items : List Item) (row : Nat) {column : Nat}
    (inside : column < width)
    : block size (block (size * width) items row) column
      = block size items (row * width + column) := by
  have columnEnd := block_end size inside
  have start : size * width * row + size * column = size * (row * width + column) := by ring
  apply List.ext_getElem?
  intro lane
  by_cases bound : lane < size
  · rw [getElem?_block _ bound, getElem?_block _ bound, getElem?_block _ (by omega),
      ← Nat.add_assoc, start]
  · rw [List.getElem?_eq_none, List.getElem?_eq_none] <;>
      simp only [block, List.length_take] <;> omega

theorem flatMap_range_length {size : Nat} {content : Nat → List Item}
    (sized : ∀ index, (content index).length = size) (count : Nat)
    : ((List.range count).flatMap content).length = size * count := by
  induction count with
  | zero => simp
  | succ count ih =>
      rw [List.range_succ, List.flatMap_append, List.length_append, ih]
      simp [sized, Nat.mul_succ]

theorem block_append_left {size : Nat} {items rest : List Item} {index : Nat}
    (inside : size * index + size ≤ items.length)
    : block size (items ++ rest) index = block size items index := by
  rw [← block_take (items ++ rest) inside, List.take_left]

/-- A list made of blocks has these blocks, by induction on their number. -/
theorem block_flatMap {size : Nat} {content : Nat → List Item}
    (sized : ∀ index, (content index).length = size) {index count : Nat}
    (inside : index < count)
    : block size ((List.range count).flatMap content) index = content index := by
  induction count with
  | zero => omega
  | succ count ih =>
      rw [List.range_succ, List.flatMap_append]
      rcases Nat.lt_succ_iff_lt_or_eq.mp inside with earlier | rfl
      · rw [block_append_left, ih earlier]
        rw [flatMap_range_length sized]
        exact block_end size earlier
      · rw [block, List.drop_left' (flatMap_range_length sized index)]
        simp [← sized index]

/-- A list is made of its blocks, by induction on their number. -/
theorem flatMap_block {size count : Nat} {items : List Item}
    (whole : items.length = size * count)
    : (List.range count).flatMap (block size items) = items := by
  induction count generalizing items with
  | zero => exact (List.length_eq_zero_iff.mp whole).symm
  | succ count ih =>
      rw [Nat.mul_succ] at whole
      have earlier : (List.range count).flatMap (block size (items.take (size * count)))
          = items.take (size * count) := ih (by simp [whole])
      have last : (items.drop (size * count)).take size = items.drop (size * count) :=
        List.take_of_length_le (by simp [whole])
      have same : (List.range count).flatMap (block size items)
          = (List.range count).flatMap (block size (items.take (size * count))) := by
        apply List.flatMap_congr
        intro index member
        exact (block_take items (block_end size (List.mem_range.mp member))).symm
      rw [List.range_succ, List.flatMap_append, same, earlier, List.flatMap_singleton, block,
        last, List.take_append_drop]

/-- Two lists of equally many blocks are equal when all their blocks are. -/
theorem ext_blocks {size count : Nat} {items others : List Item}
    (whole : items.length = size * count) (otherWhole : others.length = size * count)
    (same : ∀ index < count, block size items index = block size others index)
    : items = others := by
  rw [← flatMap_block whole, ← flatMap_block otherWhole]
  exact List.flatMap_congr fun index member => same index (List.mem_range.mp member)

theorem patch_length {items new : List Item} {offset : Nat}
    (inside : offset + new.length ≤ items.length)
    : (patch items offset new).length = items.length := by
  simp only [patch, List.length_append, List.length_take, List.length_drop]
  omega

theorem getElem?_patch {items new : List Item} {offset : Nat}
    (inside : offset + new.length ≤ items.length) (position : Nat)
    : (patch items offset new)[position]?
      = if offset ≤ position ∧ position < offset + new.length then new[position - offset]?
        else items[position]? := by
  rw [patch, List.append_assoc]
  rcases Nat.lt_or_ge position offset with before | after
  · rw [List.getElem?_append_left (by simp; omega), List.getElem?_take_of_lt before,
      if_neg (by omega)]
  rw [List.getElem?_append_right (by simp; omega), List.length_take,
    Nat.min_eq_left (by omega)]
  rcases Nat.lt_or_ge position (offset + new.length) with within | beyond
  · rw [List.getElem?_append_left (by omega), if_pos ⟨after, within⟩]
  · rw [List.getElem?_append_right (by omega), List.getElem?_drop, if_neg (by omega)]
    congr 1
    omega

/-- What lies before a patch stays. -/
theorem take_drop_patch {items new : List Item} {offset start count : Nat}
    (inside : offset + new.length ≤ items.length) (before : start + count ≤ offset)
    : ((patch items offset new).drop start).take count = (items.drop start).take count := by
  apply List.ext_getElem?
  intro position
  by_cases bound : position < count
  · rw [List.getElem?_take_of_lt bound, List.getElem?_take_of_lt bound, List.getElem?_drop,
      List.getElem?_drop, getElem?_patch inside, if_neg (by omega)]
  · rw [List.getElem?_eq_none, List.getElem?_eq_none] <;>
      simp only [List.length_take] <;> omega

/-- Three neighbouring items set one after the other are a patch. -/
theorem set_three_eq_patch {items : List Item} {offset : Nat} {first second third : Item}
    (inside : offset + 3 ≤ items.length)
    : ((items.set offset first).set (offset + 1) second).set (offset + 2) third
      = patch items offset [first, second, third] := by
  apply List.ext_getElem?
  intro position
  rw [getElem?_patch (by simpa using inside)]
  simp only [List.getElem?_set, List.length_set]
  rcases Nat.lt_or_ge position offset with before | after
  · grind
  · obtain ⟨lane, rfl⟩ := Nat.exists_eq_add_of_le after
    rcases lane with _ | _ | _ | lane <;> grind

/-- A patched block is the new one, and no other block changes. -/
theorem block_patch {size : Nat} {items new : List Item} {index : Nat}
    (sized : new.length = size) (inside : size * index + size ≤ items.length) (other : Nat)
    : block size (patch items (size * index) new) other
      = if other = index then new else block size items other := by
  have fits : size * index + new.length ≤ items.length := sized ▸ inside
  apply List.ext_getElem?
  intro lane
  by_cases bound : lane < size
  · rw [getElem?_block _ bound, getElem?_patch fits]
    rcases Nat.lt_trichotomy other index with earlier | rfl | later
    · have end_ := block_end size earlier
      rw [if_neg (by omega), if_neg (by omega), getElem?_block _ bound]
    · rw [if_pos (by omega), if_pos rfl]
      congr 1
      omega
    · have end_ := block_end size later
      rw [if_neg (by omega), if_neg (by omega), getElem?_block _ bound]
  · rw [List.getElem?_eq_none (by simp only [block, List.length_take]; omega)]
    split
    · rw [List.getElem?_eq_none (by omega)]
    · rw [List.getElem?_eq_none (by simp only [block, List.length_take]; omega)]

end DummyDrivers.Blocks
