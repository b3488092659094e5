import DummyDrivers.Fbview.Ansi
import Mathlib.Algebra.Order.Floor.Div

/-! What the grids of the preview show of a frame. The default grid gives every cell pixels
of its own; in fill mode the cells keep the frame's proportions for some sizes only.
-/

namespace DummyDrivers.Fbview

open DummyDrivers.Blocks
open DummyDrivers.Sampling

/-- A frame in a grid: every cell shows pixels of its own, in their order, and less than a
cell's pixels are left over on the right and below.
-/
structure GridSound (w h maxCols maxRows : Nat) (grid : AnsiGrid) : Prop where
  colsFit : 1 ≤ grid.cols ∧ grid.cols ≤ maxCols
  rowsFit : 1 ≤ grid.rows ∧ grid.rows ≤ maxRows
  inside
    : ∀ tc < grid.cols,
        ∀ half < grid.rows * 2,
          ∀ lane < 3,
            ansiIndex w (ansiX w grid.cols tc) (ansiY h grid.rows half) + lane < 3 * w * h
  renders
    : ∀ rgb : List UInt8,
        rgb.length = 3 * w * h
        → ansiRender rgb w h grid.cols grid.rows = .ok (ansiText rgb w h grid.cols grid.rows)
  columnsUnclamped
    : ∀ tc < grid.cols,
        ansiX w grid.cols tc = tc * ansiCw w grid.cols + ansiCw w grid.cols / 2
  linesUnclamped
    : ∀ half < grid.rows * 2,
        ansiY h grid.rows half = half * ansiCh h grid.rows + ansiCh h grid.rows / 2
  columnsIncrease
    : ∀ tc other,
        tc < other → other < grid.cols → ansiX w grid.cols tc < ansiX w grid.cols other
  linesIncrease
    : ∀ half other,
        half < other
        → other < grid.rows * 2
        → ansiY h grid.rows half < ansiY h grid.rows other
  distinct
    : ∀ tc < grid.cols,
        ∀ half < grid.rows * 2,
          ∀ column < grid.cols,
            ∀ line < grid.rows * 2,
              ansiIndex w (ansiX w grid.cols tc) (ansiY h grid.rows half)
                = ansiIndex w (ansiX w grid.cols column) (ansiY h grid.rows line)
              → tc = column ∧ half = line
  columnsCovered
    : grid.cols * ansiCw w grid.cols ≤ w
      ∧ w - grid.cols * ansiCw w grid.cols < grid.cell
  linesCovered
    : grid.rows * 2 * ansiCh h grid.rows ≤ h
      ∧ h - grid.rows * 2 * ansiCh h grid.rows < 2 * grid.cell

/-- An index of a strictly increasing sequence is determined by its value. -/
theorem index_eq {count : Nat} {value : Nat → Nat}
    (increase : ∀ index other, index < other → other < count → value index < value other)
    {first second : Nat} (firstInside : first < count) (secondInside : second < count)
    (same : value first = value second)
    : first = second := by
  rcases Nat.lt_trichotomy first second with before | equal | after
  · exact absurd same (increase first second before secondInside).ne
  · exact equal
  · exact absurd same (increase second first after firstInside).ne'

/-- A grid with at most as many cells as pixels on each axis is sound, if it fits and leaves
little.
-/
theorem gridSound_of_fits {w h maxCols maxRows : Nat} {grid : AnsiGrid}
    (colsFit : 1 ≤ grid.cols ∧ grid.cols ≤ maxCols)
    (rowsFit : 1 ≤ grid.rows ∧ grid.rows ≤ maxRows)
    (columns : grid.cols ≤ w) (lines : grid.rows * 2 ≤ h)
    (right : w < grid.cols * ansiCw w grid.cols + grid.cell)
    (below : h < grid.rows * 2 * ansiCh h grid.rows + 2 * grid.cell)
    : GridSound w h maxCols maxRows grid := by
  have some_col := colsFit.1
  have some_half : 0 < grid.rows * 2 := by omega
  have some_column : 0 < w := some_col.trans columns
  have some_line : 0 < h := some_half.trans_le lines
  have columnInside (tc : Nat) := sample_lt some_column grid.cols tc
  have columnsIncrease (tc other : Nat) (later : tc < other) (inside : other < grid.cols)
      : ansiX w grid.cols tc < ansiX w grid.cols other :=
    sample_lt_sample some_col columns later inside
  have linesIncrease (half other : Nat) (later : half < other) (inside : other < grid.rows * 2)
      : ansiY h grid.rows half < ansiY h grid.rows other :=
    sample_lt_sample some_half lines later inside
  have wide : grid.cols * ansiCw w grid.cols ≤ w := blocks_le some_col columns
  have high : grid.rows * 2 * ansiCh h grid.rows ≤ h := blocks_le some_half lines
  exact {
    colsFit := colsFit
    rowsFit := rowsFit
    inside := fun tc _ half _ lane channel =>
      ansiIndex_lt (columnInside tc) (sample_lt some_line _ half) channel
    renders := fun rgb whole => ansiRender_ok whole some_column some_line _ _
    columnsUnclamped := fun tc inside => sample_eq some_col columns inside
    linesUnclamped := fun half inside => sample_eq some_half lines inside
    columnsIncrease := columnsIncrease
    linesIncrease := linesIncrease
    distinct := by
      intro tc tcInside half halfInside column columnIn line lineIn same
      have place := Nat.eq_of_mul_eq_mul_right (by decide) same
      obtain ⟨sameColumn, sameLine⟩ :=
        (raster_inj (columnInside tc) (columnInside column)).mp place
      exact ⟨index_eq columnsIncrease tcInside columnIn sameColumn,
        index_eq linesIncrease halfInside lineIn sameLine⟩
    columnsCovered := ⟨wide, Nat.sub_lt_left_of_lt_add wide right⟩
    linesCovered := ⟨high, Nat.sub_lt_left_of_lt_add high below⟩
  }

/-- The cells of the default grid reach the end of the frame within the terminal's limits. -/
theorem ansiGrid_reach (w h : Nat) {maxCols maxRows : Nat} (some_cols : 1 ≤ maxCols)
    (some_rows : 1 ≤ maxRows)
    : w ≤ maxCols * (ansiGrid w h maxCols maxRows false).cell
      ∧ h ≤ maxRows * 2 * (ansiGrid w h maxCols maxRows false).cell := by
  have halves : 0 < maxRows * 2 := by omega
  constructor
  · have reach : w ≤ maxCols * (w ⌈/⌉ maxCols) := (ceilDiv_le_iff_le_mul some_cols).mp le_rfl
    refine reach.trans (Nat.mul_le_mul_left maxCols ?_)
    exact (Nat.le_max_left _ _).trans (Nat.le_max_right 1 _)
  · have reach : h ≤ maxRows * 2 * (h ⌈/⌉ (maxRows * 2)) := (ceilDiv_le_iff_le_mul halves).mp le_rfl
    refine reach.trans (Nat.mul_le_mul_left (maxRows * 2) ?_)
    exact (Nat.le_max_right _ _).trans (Nat.le_max_right 1 _)

/-- The default grid is sound for every frame of two lines and every terminal. -/
theorem ansiGrid_sound {w h maxCols maxRows : Nat} (some_column : 1 ≤ w) (two_lines : 2 ≤ h)
    (some_cols : 1 ≤ maxCols) (some_rows : 1 ≤ maxRows)
    : GridSound w h maxCols maxRows (ansiGrid w h maxCols maxRows false) := by
  obtain ⟨across, down⟩ := ansiGrid_reach w h some_cols some_rows
  have positive : 0 < (ansiGrid w h maxCols maxRows false).cell := Nat.le_max_left 1 _
  have cols : (ansiGrid w h maxCols maxRows false).cols
      = groups w (ansiGrid w h maxCols maxRows false).cell 1 * 1 := by
    rw [Nat.mul_one, groups, Nat.mul_one]
    rfl
  have rows : (ansiGrid w h maxCols maxRows false).rows
      = groups h (ansiGrid w h maxCols maxRows false).cell 2 := rfl
  have right := @leftover_lt w _ _ positive Nat.one_pos
  have below := @leftover_lt h _ _ positive Nat.two_pos
  rw [← cols, Nat.mul_one] at right
  rw [← rows] at below
  apply gridSound_of_fits
  · rw [cols, Nat.mul_one]
    exact ⟨groups_pos _ _ _, groups_le_limit some_cols (by rwa [Nat.mul_one])⟩
  · exact ⟨groups_pos _ _ _, groups_le_limit some_rows down⟩
  · rw [cols]
    exact groups_mul_le positive some_column
  · exact groups_mul_le positive two_lines
  · exact right
  · rw [Nat.mul_comm 2]
    exact below

/-- A panel of 480 by 320 in a terminal of 120 by 40. -/
theorem ansiGrid_sound_panel : GridSound 480 320 118 19 { cell := 9, cols := 53, rows := 17 } :=
  ansiGrid_sound (by decide) (by decide) (by decide) (by decide)

/-- The preview is the whole frame, stretched to the grid: each cell's pixels lie in the
cell's own share of the columns and of the lines.
-/
structure FillRight (w h : Nat) (grid : AnsiGrid) : Prop where
  columns
    : ∀ tc < grid.cols,
        tc * w / grid.cols ≤ ansiX w grid.cols tc
        ∧ ansiX w grid.cols tc ≤ ((tc + 1) * w - 1) / grid.cols
  lines
    : ∀ tr < grid.rows,
        ∀ half ∈ [2 * tr, 2 * tr + 1],
          half * h / (2 * grid.rows) ≤ ansiY h grid.rows half
          ∧ ansiY h grid.rows half ≤ ((half + 1) * h - 1) / (2 * grid.rows)

theorem fillRight_iff_proportional (w h : Nat) (grid : AnsiGrid)
    : FillRight w h grid ↔ Proportional w grid.cols ∧ Proportional h (2 * grid.rows) := by
  have half_sample (half : Nat) : ansiY h grid.rows half = sample h (2 * grid.rows) half := by
    rw [ansiY_eq_sample, Nat.mul_comm]
  constructor
  · intro right
    refine ⟨right.columns, ?_⟩
    intro half inside
    rw [← half_sample]
    -- Each half belongs to the text row of half its number.
    apply right.lines (half / 2) (by omega)
    rw [List.mem_pair]
    omega
  · intro proportional
    obtain ⟨columns, lines⟩ := proportional
    refine ⟨columns, ?_⟩
    intro tr inside half member
    rw [List.mem_pair] at member
    rw [half_sample]
    exact lines half (by omega)

/-- An axis keeps its proportion: a single pixel, one cell more than pixels, or no more cells
than pixels with at most half a block and a pixel left over.
-/
def KeepsProportion (size count : Nat) : Prop :=
  size = 1 ∨ count = size + 1 ∨ count ≤ size ∧ size % count ≤ size / count / 2 + 1

instance (size count : Nat) : Decidable (KeepsProportion size count) :=
  inferInstanceAs (Decidable (_ ∨ _))

/-- The fill mode shows the whole frame proportionally exactly if both axes allow it. -/
theorem ansiGrid_fill_iff {w h cols rows : Nat} (some_column : 1 ≤ w) (some_line : 1 ≤ h)
    (some_cols : 1 ≤ cols) (some_rows : 1 ≤ rows)
    : FillRight w h (ansiGrid w h cols rows true)
      ↔ KeepsProportion w cols ∧ KeepsProportion h (2 * rows) :=
  (fillRight_iff_proportional w h _).trans
    (and_congr (proportional_iff some_column some_cols)
      (proportional_iff some_line (Nat.mul_pos Nat.two_pos some_rows)))

/-- A panel of 480 by 320 in a grid of 96 by 40 cells. -/
theorem ansiGrid_fill_even : FillRight 480 320 (ansiGrid 480 320 96 40 true) :=
  (ansiGrid_fill_iff (by decide) (by decide) (by decide) (by decide)).mpr
    ⟨by decide, by decide⟩

/-- In the grid of a terminal of 120 by 40 the panel's last columns are cropped. -/
theorem ansiGrid_fill_cropped : ¬ FillRight 480 320 (ansiGrid 480 320 118 19 true) := by
  intro right
  have last := (right.columns 117 (by decide)).1
  revert last
  decide

end DummyDrivers.Fbview
