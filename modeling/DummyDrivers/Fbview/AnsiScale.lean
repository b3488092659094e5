import DummyDrivers.Fbview.AnsiGrid

/-! The two scales of the default preview: the cell that is chosen from the limits of the
terminal, and the blocks that the rendering derives from the grid.
-/

namespace DummyDrivers.Fbview

open DummyDrivers.Sampling

/-- The rendering uses the cell that was chosen, in both directions. -/
structure UniformScale (w h : Nat) (grid : AnsiGrid) : Prop where
  columns : ansiCw w grid.cols = grid.cell
  lines : ansiCh h grid.rows = grid.cell

/-- The least number of pixels on the side of a cell with which a frame fits the limits. -/
def leastSide (w h maxCols maxRows : Nat) : Nat :=
  max 1 (max (w ⌈/⌉ maxCols) (h ⌈/⌉ (maxRows * 2)))

theorem leastSide_isLeast (w h : Nat) {maxCols maxRows : Nat} (some_cols : 1 ≤ maxCols)
    (some_rows : 1 ≤ maxRows)
    : IsLeast { side | 1 ≤ side ∧ w ≤ maxCols * side ∧ h ≤ maxRows * 2 * side }
        (leastSide w h maxCols maxRows) := by
  obtain ⟨across, down⟩ := ansiGrid_reach w h some_cols some_rows
  refine ⟨⟨Nat.le_max_left 1 _, across, down⟩, ?_⟩
  intro side fits
  obtain ⟨positive, columns, lines⟩ := fits
  have halves : 0 < maxRows * 2 := by omega
  refine Nat.max_le.mpr ⟨positive, Nat.max_le.mpr ⟨?_, ?_⟩⟩
  · exact (ceilDiv_le_iff_le_mul some_cols).mpr columns
  · exact (ceilDiv_le_iff_le_mul halves).mpr lines

/-- What the cells of a side leave of the frame, in pixels, is less than the number of cells
on each axis. On the vertical axis the cells are the halves of text rows.
-/
def LeavesLittle (w h side : Nat) : Prop :=
  w % side < w / side ∧ h % (side * 2) < h / (side * 2) * 2

instance (w h side : Nat) : Decidable (LeavesLittle w h side) :=
  inferInstanceAs (Decidable (_ ∧ _))

/-- The scale is uniform exactly if the least side that fits the limits leaves little. -/
theorem ansiGrid_uniform_iff {w h maxCols maxRows : Nat}
    (columns : (ansiGrid w h maxCols maxRows false).cell ≤ w)
    (lines : 2 * (ansiGrid w h maxCols maxRows false).cell ≤ h)
    : UniformScale w h (ansiGrid w h maxCols maxRows false)
      ↔ LeavesLittle w h (leastSide w h maxCols maxRows) := by
  have positive : 0 < leastSide w h maxCols maxRows := Nat.le_max_left 1 _
  have across := @blockSide_groups_iff w _ _ positive Nat.one_pos (by rwa [Nat.mul_one])
  have down := @blockSide_groups_iff h _ _ positive Nat.two_pos (by rwa [Nat.mul_comm])
  rw [groups, Nat.mul_one, Nat.mul_one, Nat.mul_one] at across
  constructor
  · intro uniform
    exact ⟨across.mp uniform.columns, down.mp uniform.lines⟩
  · intro little
    exact ⟨across.mpr little.1, down.mpr little.2⟩

/-- A panel of 480 by 320 in a terminal of 120 by 40: cells of nine pixels. -/
theorem ansiGrid_uniform_panel
    : UniformScale 480 320 (ansiGrid 480 320 118 19 false) :=
  (ansiGrid_uniform_iff (by decide) (by decide)).mpr (by decide)

/-- The panel with at most 20 columns: cells of 24 pixels, and blocks of 24 by 26. -/
theorem ansiGrid_scale_differs
    : ¬ ∀ w h maxCols maxRows,
          1 ≤ maxCols
          → 1 ≤ maxRows
          → (ansiGrid w h maxCols maxRows false).cell ≤ w
          → 2 * (ansiGrid w h maxCols maxRows false).cell ≤ h
          → UniformScale w h (ansiGrid w h maxCols maxRows false) := by
  intro uniform
  have scale := uniform 480 320 20 19 (by decide) (by decide) (by decide) (by decide)
  exact absurd scale.lines (by decide)

end DummyDrivers.Fbview
