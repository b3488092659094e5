import Mathlib.Algebra.Order.Group.Nat
import Mathlib.Order.MinMax
import Mathlib.Tactic.Ring

/-! A line of pixels sampled at the middles of equal blocks, one block for each of `count`
cells. The blocks have a whole number of pixels, so they leave a remainder at the end of the
line; with more cells than pixels the last pixel is sampled again.
-/

namespace DummyDrivers.Sampling

/-- The side of a block. -/
def blockSide (size count : Nat) : Nat := max 1 (size / count)

/-- The middle pixel of a block, held inside the line. -/
def sample (size count index : Nat) : Nat :=
  min (size - 1) (index * blockSide size count + blockSide size count / 2)

/-- Every cell's pixel lies in the cell's own share of the line. -/
def Proportional (size count : Nat) : Prop :=
  ∀ index < count,
    index * size / count ≤ sample size count index
    ∧ sample size count index ≤ ((index + 1) * size - 1) / count

theorem blockSide_pos (size count : Nat) : 0 < blockSide size count := Nat.le_max_left 1 _

theorem sample_lt {size : Nat} (some_pixel : 0 < size) (count index : Nat)
    : sample size count index < size :=
  (Nat.min_le_left _ _).trans_lt (Nat.sub_one_lt_of_lt some_pixel)

theorem blockSide_eq {size count : Nat} (some_cell : 0 < count) (fits : count ≤ size)
    : blockSide size count = size / count :=
  max_eq_right (Nat.div_pos fits some_cell)

/-- With at most as many cells as pixels, the blocks lie in the line. -/
theorem blocks_le {size count : Nat} (some_cell : 0 < count) (fits : count ≤ size)
    : count * blockSide size count ≤ size := by
  rw [blockSide_eq some_cell fits]
  exact Nat.mul_div_le size count

/-- Then the middle of each block is a pixel of the line already. -/
theorem middle_lt {size count index : Nat} (some_cell : 0 < count) (fits : count ≤ size)
    (inside : index < count)
    : index * blockSide size count + blockSide size count / 2 < size := by
  have half : blockSide size count / 2 < blockSide size count :=
    Nat.div_lt_self (blockSide_pos size count) (by decide)
  have blocks : (index + 1) * blockSide size count ≤ count * blockSide size count :=
    Nat.mul_le_mul_right _ inside
  have all := blocks_le some_cell fits
  rw [Nat.succ_mul] at blocks
  omega

theorem sample_eq {size count index : Nat} (some_cell : 0 < count) (fits : count ≤ size)
    (inside : index < count)
    : sample size count index
      = index * blockSide size count + blockSide size count / 2 :=
  Nat.min_eq_right (Nat.le_sub_one_of_lt (middle_lt some_cell fits inside))

/-- Later cells have later pixels. -/
theorem sample_lt_sample {size count index other : Nat} (some_cell : 0 < count)
    (fits : count ≤ size) (later : index < other) (inside : other < count)
    : sample size count index < sample size count other := by
  rw [sample_eq some_cell fits (later.trans inside), sample_eq some_cell fits inside]
  exact Nat.add_lt_add_right (Nat.mul_lt_mul_of_pos_right later (blockSide_pos size count)) _

/-- Blocks of a given side leave at least as much of the line as the blocks chosen. -/
theorem leftover_le {size count side : Nat} (some_cell : 0 < count) (positive : 0 < side)
    (blocks : count * side ≤ size)
    : size - count * blockSide size count ≤ size - count * side := by
  have fits : count ≤ size := (Nat.le_mul_of_pos_right count positive).trans blocks
  have wide : side ≤ size / count :=
    (Nat.le_div_iff_mul_le some_cell).mpr (Nat.mul_comm count side ▸ blocks)
  rw [blockSide_eq some_cell fits]
  exact Nat.sub_le_sub_left (Nat.mul_le_mul_left count wide) size

/-- How many groups of `group` cells of a given side there is room for, and at least one. -/
def groups (size side group : Nat) : Nat := max 1 (size / (side * group))

theorem groups_pos (size side group : Nat) : 0 < groups size side group := Nat.le_max_left 1 _

/-- Sides that reach the end of the line within a limit keep the groups within it. -/
theorem groups_le_limit {size side group limit : Nat} (some_group : 1 ≤ limit)
    (reach : size ≤ limit * group * side)
    : groups size side group ≤ limit := by
  refine Nat.max_le.mpr ⟨some_group, Nat.div_le_of_le_mul ?_⟩
  calc
    size ≤ limit * group * side := reach
    _ = side * group * limit := by ring

/-- The cells of the groups are no more than the pixels, if one group's are not. -/
theorem groups_mul_le {size side group : Nat} (positive : 0 < side) (enough : group ≤ size)
    : groups size side group * group ≤ size := by
  rw [groups]
  rcases Nat.le_total 1 (size / (side * group)) with room | none
  · rw [max_eq_right room]
    calc
      size / (side * group) * group ≤ size / (side * group) * (side * group) :=
        Nat.mul_le_mul_left _ (Nat.le_mul_of_pos_left group positive)
      _ ≤ size := Nat.div_mul_le_self size (side * group)
  · rw [max_eq_left none, Nat.one_mul]
    exact enough

/-- What the blocks of the groups leave of the line is narrower than a group. -/
theorem leftover_lt {size side group : Nat} (positive : 0 < side) (some_cell : 0 < group)
    : size
      < groups size side group * group * blockSide size (groups size side group * group)
        + side * group := by
  have wide : group ≤ side * group := Nat.le_mul_of_pos_left group positive
  rw [groups]
  rcases Nat.lt_or_ge (size / (side * group)) 1 with none | room
  · -- A single group shares the line evenly, up to one pixel a cell.
    have whole := Nat.mod_add_div size group
    have rest := Nat.mod_lt size some_cell
    have blocks : group * (size / group) ≤ group * blockSide size group :=
      Nat.mul_le_mul_left group (Nat.le_max_right 1 _)
    rw [max_eq_left none.le, Nat.one_mul]
    omega
  · have whole := Nat.mod_add_div size (side * group)
    have rest := Nat.mod_lt size (Nat.mul_pos positive some_cell)
    have cells : 0 < size / (side * group) * group := Nat.mul_pos room some_cell
    have sides : size / (side * group) * group * side = side * group * (size / (side * group)) := by
      ring
    have left := leftover_le cells positive (sides.trans_le (Nat.mul_div_le size (side * group)))
    rw [max_eq_right room]
    omega

/-- Where there is room for a group, the blocks of the groups have the side that the groups
were chosen for exactly if the rest of the line is shorter than one pixel a cell.
-/
theorem blockSide_groups_iff {size side group : Nat} (positive : 0 < side)
    (some_cell : 0 < group) (room : side * group ≤ size)
    : blockSide size (groups size side group * group) = side
      ↔ size % (side * group) < size / (side * group) * group := by
  have some_group : 0 < size / (side * group) := Nat.div_pos room (Nat.mul_pos positive some_cell)
  have cells : 0 < size / (side * group) * group := Nat.mul_pos some_group some_cell
  have fits : size / (side * group) * group ≤ size := by
    have fewer := groups_mul_le positive ((Nat.le_mul_of_pos_left group positive).trans room)
    rwa [groups, max_eq_right some_group] at fewer
  have whole := Nat.mod_add_div size (side * group)
  have blocks
      : side * group * (size / (side * group)) = side * (size / (side * group) * group) := by
    ring
  rw [groups, max_eq_right some_group, blockSide_eq cells fits, Nat.div_eq_iff cells]
  constructor
  · intro even
    omega
  · intro short
    omega

/-- Where a cell's share begins: after the blocks before it and a part of the remainder. -/
theorem share_eq {count : Nat} (some_cell : 0 < count) (size index : Nat)
    : index * size / count = index * (size / count) + index * (size % count) / count := by
  have split : index * size = index * (size % count) + index * (size / count) * count := by
    have whole := Nat.mod_add_div size count
    calc
      index * size = index * (size % count + count * (size / count)) := by rw [whole]
      _ = index * (size % count) + index * (size / count) * count := by
        rw [Nat.mul_add, Nat.mul_comm count, Nat.mul_assoc]
  rw [split, Nat.add_mul_div_right _ _ some_cell, Nat.add_comm]

/-- With at most as many cells as pixels no sample is right of its share. -/
theorem sample_le_share {size count index : Nat} (some_cell : 0 < count) (fits : count ≤ size)
    (inside : index < count)
    : sample size count index ≤ ((index + 1) * size - 1) / count := by
  have positive := Nat.div_pos fits some_cell
  have half : size / count / 2 + 1 ≤ size / count :=
    Nat.succ_le_of_lt (Nat.div_lt_self positive (by decide))
  rw [sample_eq some_cell fits inside, blockSide_eq some_cell fits,
    Nat.le_div_iff_mul_le some_cell]
  have blocks : (index + 1) * (size / count * count) ≤ (index + 1) * size :=
    Nat.mul_le_mul_left _ (Nat.div_mul_le_self size count)
  have middle : (index * (size / count) + (size / count / 2 + 1)) * count
      ≤ (index + 1) * (size / count) * count := by
    rw [Nat.succ_mul]
    exact Nat.mul_le_mul_right _ (Nat.add_le_add_left half _)
  rw [← Nat.add_assoc, Nat.succ_mul] at middle
  rw [← Nat.mul_assoc] at blocks
  omega

/-- For at most as many cells as pixels, the last cell decides: the remainder of the line must
not exceed half a block by more than one pixel.
-/
theorem proportional_shrinking {size count : Nat} (some_cell : 0 < count) (fits : count ≤ size)
    : Proportional size count ↔ size % count ≤ size / count / 2 + 1 := by
  have small := Nat.mod_lt size some_cell
  constructor
  · intro proportional
    have last := (proportional (count - 1) (Nat.sub_one_lt_of_lt some_cell)).1
    rw [share_eq some_cell, sample_eq some_cell fits (Nat.sub_one_lt_of_lt some_cell),
      blockSide_eq some_cell fits, Nat.add_le_add_iff_left] at last
    have remainder : size % count - 1 ≤ (count - 1) * (size % count) / count := by
      rw [Nat.le_div_iff_mul_le some_cell, Nat.sub_mul, Nat.sub_mul, Nat.one_mul, Nat.one_mul,
        Nat.mul_comm count]
      exact Nat.sub_le_sub_left small.le _
    omega
  · intro short index inside
    refine ⟨?_, sample_le_share some_cell fits inside⟩
    rw [share_eq some_cell, sample_eq some_cell fits inside, blockSide_eq some_cell fits]
    refine Nat.add_le_add_left ?_ _
    rcases Nat.eq_zero_or_pos (size % count) with none | some_left
    · simp [none]
    · have before : index * (size % count) / count < size % count :=
        Nat.div_lt_of_lt_mul (Nat.mul_lt_mul_of_pos_right inside some_left)
      omega

/-- With more cells than pixels the blocks are single pixels. -/
theorem sample_enlarging {size count : Nat} (many : size < count) (index : Nat)
    : sample size count index = min (size - 1) index := by
  have single : blockSide size count = 1 := by
    rw [blockSide, Nat.div_eq_of_lt many]
    rfl
  rw [sample, single, Nat.mul_one]
  rfl

/-- Then no sample is left of its share. -/
theorem share_le_sample {size count index : Nat} (some_pixel : 0 < size) (many : size < count)
    (inside : index < count)
    : index * size / count ≤ sample size count index := by
  rw [sample_enlarging many]
  refine le_min (Nat.le_sub_one_of_lt ?_) ?_
  · exact Nat.div_lt_of_lt_mul (Nat.mul_lt_mul_of_pos_right inside some_pixel)
  · refine Nat.div_le_of_le_mul ?_
    rw [Nat.mul_comm count]
    exact Nat.mul_le_mul_left index many.le

/-- With more cells than pixels only one further cell keeps the proportion, and any number
does for a single pixel.
-/
theorem proportional_enlarging {size count : Nat} (some_pixel : 0 < size) (many : size < count)
    : Proportional size count ↔ size = 1 ∨ count = size + 1 := by
  have some_cell : 0 < count := some_pixel.trans many
  obtain ⟨before, rfl⟩ := Nat.exists_eq_add_one_of_ne_zero some_pixel.ne'
  constructor
  · intro proportional
    -- The first cell for the last pixel must not come before the pixel's share.
    have last := (proportional before (Nat.lt_of_succ_lt many)).2
    rw [sample_enlarging many, Nat.add_sub_cancel, Nat.min_self,
      Nat.le_div_iff_mul_le some_cell] at last
    by_contra neither
    have many_more : before + 3 ≤ count := by omega
    have product := Nat.mul_le_mul_left before many_more
    rw [Nat.mul_add] at product
    rw [Nat.add_mul, Nat.mul_add] at last
    omega
  · intro few index inside
    refine ⟨share_le_sample some_pixel many inside, ?_⟩
    rw [sample_enlarging many, Nat.le_div_iff_mul_le some_cell, Nat.add_sub_cancel]
    rcases few with single | rfl
    · obtain rfl : before = 0 := by omega
      simp
    · rw [Nat.add_mul index, Nat.mul_add]
      rcases Nat.le_total before index with beyond | within
      · have grown := Nat.mul_le_mul_right (before + 1) beyond
        rw [min_eq_left beyond, Nat.mul_add, Nat.mul_add] at *
        omega
      · rw [min_eq_right within, Nat.mul_add, Nat.mul_add]
        omega

/-- Which numbers of cells keep the proportion of a line. -/
theorem proportional_iff {size count : Nat} (some_pixel : 0 < size) (some_cell : 0 < count)
    : Proportional size count
      ↔ size = 1 ∨ count = size + 1 ∨ count ≤ size ∧ size % count ≤ size / count / 2 + 1 := by
  rcases Nat.lt_or_ge size count with many | fits
  · rw [proportional_enlarging some_pixel many]
    constructor
    · intro few
      exact few.imp_right .inl
    · intro few
      rcases few with single | one_more | ⟨fits, _⟩
      · exact .inl single
      · exact .inr one_more
      · exact absurd fits (Nat.not_le.mpr many)
  · rw [proportional_shrinking some_cell fits]
    constructor
    · exact fun short => .inr (.inr ⟨fits, short⟩)
    · intro few
      rcases few with rfl | rfl | ⟨_, short⟩
      · obtain rfl : count = 1 := Nat.le_antisymm fits some_cell
        decide
      · exact absurd fits (Nat.not_succ_le_self size)
      · exact short

end DummyDrivers.Sampling
