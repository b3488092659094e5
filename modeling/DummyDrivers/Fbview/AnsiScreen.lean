import DummyDrivers.Fbview.AnsiGrid
import DummyDrivers.Library.Terminal

/-! What the preview draws in a terminal: the text of a round puts the header on the first
line and the sampled pixels, two in a cell, below it.
-/

namespace DummyDrivers.Fbview

open DummyDrivers.Fb
open DummyDrivers.Loops
open DummyDrivers.Python
open DummyDrivers.Sampling
open DummyDrivers.Terminal

/-- The colour of a pixel, as a control sequence selects it. -/
def pixelColour (pixel : Rgb UInt8) : Colour :=
  { red := pixel.red.toNat, green := pixel.green.toNat, blue := pixel.blue.toNat }

/-- The cell that shows two pixels, one above the other. -/
def halfBlock (upper lower : Rgb UInt8) : Cell :=
  {
    glyph := '\u2580'
    style := {
      foreground := some (pixelColour upper)
      background := some (pixelColour lower)
      inverse := false
    }
  }

/-- The cell of the preview that shows the sampled pixels of a text row and column. -/
def previewCell (rgb : List UInt8) (w h cols rows tr tc : Nat) : Cell :=
  let x := ansiX w cols tc
  halfBlock
    (pixelAt rgb (ansiIndex w x (ansiY h rows (tr * 2))))
    (pixelAt rgb (ansiIndex w x (ansiY h rows (tr * 2 + 1))))

def previewRow (rgb : List UInt8) (w h cols rows tr : Nat) : List Cell :=
  (List.range cols).map (previewCell rgb w h cols rows tr)

/-- What a round draws: the header from the corner on, and below it the cells of the grid. -/
def roundPicture (header : String) (style : Style) (rgb : List UInt8) (w h cols rows : Nat)
    : Nat → Nat → Option Cell
  | 0, column => header.toList[column]?.map fun glyph => { glyph, style }
  | tr + 1, tc =>
      if tr < rows ∧ tc < cols then some (previewCell rgb w h cols rows tr tc) else none

section

variable {size : Size}

theorem colourText_toList (pixel : Rgb UInt8)
    : (colourText pixel).toList = (pixelColour pixel).parameters := by
  simp only [colourText, String.toList_append, List.append_assoc]
  rfl

/-- A cell's text selects its two colours and draws one cell. -/
theorem cellText_draws (upper lower : Rgb UInt8)
    : Draws size (·.inverse = false) (cellText upper lower).toList [halfBlock upper lower] := by
  intro s ground upright fits
  let style := (halfBlock upper lower).style
  have text : (cellText upper lower).toList
      = "\x1b[38;2;".toList ++ ((pixelColour upper).parameters ++ ['m'])
        ++ ("\x1b[48;2;".toList ++ ((pixelColour lower).parameters ++ ['m']) ++ ['\u2580']) := by
    simp only [cellText, String.toList_append, colourText_toList, List.append_assoc]
    rfl
  have selected
      : { s.style with
          foreground := some (pixelColour upper)
          background := some (pixelColour lower) } = style := by
    dsimp only
    rw [upright]
    rfl
  obtain ⟨_, rfl, drawn⟩ :=
    draws_glyph style (by decide : ' ' ≤ '\u2580') { s with style } ground rfl fits
  refine ⟨style, rfl, ?_⟩
  rw [text, read_append, read_foreground, read_append, read_background, ← ground, selected]
  exact drawn

/-- The text of a row draws its cells. -/
theorem ansiLine_draws (rgb : List UInt8) (w h cols rows tr : Nat)
    : Draws size (·.inverse = false) (ansiLine rgb w h cols rows tr).toList
        (previewRow rgb w h cols rows tr) := by
  have cell (tc : Nat) (_ : tc ∈ List.range cols)
      : Draws size (·.inverse = false) (ansiCell rgb w h cols rows tr tc).toList
          [previewCell rgb w h cols rows tr tc] :=
    cellText_draws _ _
  rw [ansiLine, String.toList_join, List.flatMap_map, previewRow, List.map_eq_flatMap]
  exact Draws.flatMap cell

/-- What a round draws is the header's row above the rows of the grid. -/
theorem roundPicture_eq (header : String) (style : Style) (rgb : List UInt8) (w h cols rows : Nat)
    : rowsAt 0 (header.toList.map (fun glyph => { glyph, style })
        :: (List.range rows).map (previewRow rgb w h cols rows))
      = roundPicture header style rgb w h cols rows := by
  funext line column
  rw [rowsAt, if_pos (Nat.zero_le line), Nat.sub_zero]
  cases line with
  | zero => exact List.getElem?_map
  | succ tr =>
      rw [List.getElem?_cons_succ, List.getElem?_map, roundPicture]
      by_cases row : tr < rows
      case neg =>
        rw [List.getElem?_eq_none (by rw [List.length_range]; omega), if_neg (by omega)]
        rfl
      case pos =>
        rw [List.getElem?_range row]
        change ((List.range cols).map (previewCell rgb w h cols rows tr))[column]? = _
        rw [List.getElem?_map]
        by_cases inside : column < cols
        case neg =>
          rw [List.getElem?_eq_none (by rw [List.length_range]; omega), if_neg (by omega)]
          rfl
        case pos =>
          rw [List.getElem?_range inside, if_pos ⟨row, inside⟩]
          rfl

/-- A round draws its picture, whatever it finds on the screen, and nothing else. -/
theorem round_draws {header : String} (printing : ∀ glyph ∈ header.toList, ' ' ≤ glyph)
    (rgb : List UInt8) (w h : Nat) {cols rows : Nat} (wide : header.length ≤ size.columns)
    (across : cols ≤ size.columns) (some_row : 0 < rows) (down : rows < size.lines) (s : Screen)
    : s.read size
        ("\x1b[H"
        ++ ("\x1b[7m" ++ header ++ "\x1b[0m\n" ++ ansiText rgb w h cols rows)).toList
      = {
          s with
          cells := overlay s.cells
            (roundPicture header { s.style with inverse := true } rgb w h cols rows)
          line := rows
          column := cols
          style := .plain
          mode := .ground
        } := by
  let inverse : Style := { s.style with inverse := true }
  let headerRow : List Cell := header.toList.map fun glyph => { glyph, style := inverse }
  let lines : List (List Char × List Cell) :=
    (List.range rows).map
      fun tr => ((ansiLine rgb w h cols rows tr).toList, previewRow rgb w h cols rows tr)
  have text : ("\x1b[H"
        ++ ("\x1b[7m" ++ header ++ "\x1b[0m\n" ++ ansiText rgb w h cols rows)).toList
      = "\x1b[H".toList
        ++ ("\x1b[7m".toList
          ++ (header.toList
            ++ ("\x1b[0m".toList
              ++ '\n' :: (['\n'].intercalate (lines.map (·.1)) ++ "\x1b[0m".toList)))) := by
    simp only [ansiText, String.toList_append, String.toList_intercalate, List.append_assoc,
      lines, List.map_map]
    rfl
  have rowsOf : lines.map (·.2) = (List.range rows).map (previewRow rgb w h cols rows) := by
    simp only [lines, List.map_map]
    rfl
  have count : lines.length = rows := by rw [List.length_map, List.length_range]
  let home : Screen := { s with mode := .ground, line := 0, column := 0, style := inverse }
  obtain ⟨_, rfl, headed⟩ := draws_text inverse printing home rfl rfl
    (by rw [List.length_map, String.length_toList, Nat.zero_add]; exact wide)
  let heading : Screen :=
    {
      home with
      cells := overlay s.cells (rowAt 0 0 headerRow)
      column := 0 + headerRow.length
      style := .plain
    }
  let below : Screen := { heading with line := 1, column := 0 }
  have draws
      : ∀ line ∈ lines, Draws size (·.inverse = false) line.1 line.2 ∧ line.2.length = cols := by
    intro line member
    obtain ⟨tr, _, rfl⟩ := List.mem_map.mp member
    refine ⟨ansiLine_draws rgb w h cols rows tr, ?_⟩
    rw [previewRow, List.length_map, List.length_range]
  have some_line : lines ≠ [] := by
    apply List.ne_nil_of_length_pos
    rwa [count]
  have room : below.line + lines.length ≤ size.lines := by
    rw [count]
    exact Nat.one_add_le_iff.mpr down
  obtain ⟨style, _, drawn⟩ := read_lines across some_line draws below rfl rfl rfl room
  rw [count] at drawn
  have second : heading.line + 1 < size.lines := Nat.lt_of_le_of_lt some_row down
  have last : 1 + (rows - 1) = rows := by omega
  calc s.read size _
      = heading.read size
          ('\n' :: (['\n'].intercalate (lines.map (·.1)) ++ "\x1b[0m".toList)) := by
        rw [text, read_append, read_home, read_append, read_inverse, read_append, headed,
          read_append, read_reset]
    _ = (below.read size (['\n'].intercalate (lines.map (·.1)))).read size "\x1b[0m".toList := by
        rw [read_lineFeed heading rfl second, read_append]
    _ = _ := by
        rw [drawn, read_reset]
        congr 1
        rw [rowsOf, ← roundPicture_eq, ← overlay_rows_cons]

end

/-- A later round draws over all of an earlier one. -/
theorem overlay_roundPicture (cells : Nat → Nat → Cell) (header : String) (style : Style)
    (rgb frame : List UInt8) (w h cols rows : Nat)
    : overlay (overlay cells (roundPicture header style rgb w h cols rows))
        (roundPicture header style frame w h cols rows)
      = overlay cells (roundPicture header style frame w h cols rows) := by
  funext line column
  cases line with
  | zero =>
      simp only [overlay, roundPicture]
      cases header.toList[column]? <;> rfl
  | succ tr =>
      simp only [overlay, roundPicture]
      split <;> rfl

/-- A text that moves the cursor by one cell for each character. -/
def Printing (text : String) : Prop := ∀ glyph ∈ text.toList, ' ' ≤ glyph

theorem Printing.append {text more : String} (first : Printing text) (second : Printing more)
    : Printing (text ++ more) := by
  intro glyph member
  rw [String.toList_append] at member
  rcases List.mem_append.mp member with before | after
  · exact first glyph before
  · exact second glyph after

theorem printing_number (number : Nat) : Printing (toString number) := by
  intro glyph member
  have digits : (toString number).toList = Nat.toDigits 10 number := Nat.toList_repr
  rw [digits] at member
  have digit : glyph.isDigit := Nat.isDigit_of_mem_toDigits (by decide) (by decide) member
  rw [Char.isDigit, Bool.and_eq_true, decide_eq_true_eq] at digit
  exact UInt32.le_trans (by decide) digit.1

theorem printing_literal {text : String} (checked : text.toList.all (' ' ≤ ·) = true)
    : Printing text :=
  fun glyph member => of_decide_eq_true (List.all_eq_true.mp checked glyph member)

/-- The header is as harmless as the path in it. -/
theorem printing_header {path : String} (printing : Printing path) (w h bpp : Nat)
    (grid : AnsiGrid)
    : Printing (ansiHeader path w h bpp grid) := by
  have detail
      : Printing (if grid.cell = 0 then "" else ", " ++ toString grid.cell ++ "px/cell") := by
    split
    · exact printing_literal rfl
    · exact ((printing_literal rfl).append (printing_number _)).append (printing_literal rfl)
  have colon : Printing ": " := printing_literal rfl
  have times : Printing "x" := printing_literal rfl
  have blank : Printing " " := printing_literal rfl
  have scaled : Printing "bpp (scaled to " := printing_literal rfl
  have cells : Printing " cells" := printing_literal rfl
  have closed : Printing ")" := printing_literal rfl
  have frame := ((((printing.append colon).append (printing_number w)).append times).append
    (printing_number h)).append blank
  have depth := (frame.append (printing_number bpp)).append scaled
  have extent := ((depth.append (printing_number grid.cols)).append times).append
    (printing_number grid.rows)
  exact ((extent.append cells).append detail).append closed

/-- The grid of a preview stays within its limits. -/
theorem ansiGrid_within (w h : Nat) {maxCols maxRows : Nat} (some_cols : 1 ≤ maxCols)
    (some_rows : 1 ≤ maxRows) (fill : Bool)
    : (ansiGrid w h maxCols maxRows fill).cols ≤ maxCols
      ∧ 0 < (ansiGrid w h maxCols maxRows fill).rows
      ∧ (ansiGrid w h maxCols maxRows fill).rows ≤ maxRows := by
  cases fill with
  | true => exact ⟨le_rfl, some_rows, le_rfl⟩
  | false =>
      let cell := (ansiGrid w h maxCols maxRows false).cell
      obtain ⟨across, down⟩ := ansiGrid_reach w h some_cols some_rows
      have cols := @groups_le_limit w cell 1 maxCols some_cols (by rwa [Nat.mul_one])
      have rows := @groups_le_limit h cell 2 maxRows some_rows down
      rw [groups, Nat.mul_one] at cols
      exact ⟨cols, groups_pos h cell 2, rows⟩

theorem ansiMaxCols_pos (maxw columns : Nat) : 1 ≤ ansiMaxCols maxw columns := by
  rw [ansiMaxCols]
  split <;> omega

theorem ansiMaxRows_pos (maxh lines : Nat) : 1 ≤ ansiMaxRows maxh lines := by
  rw [ansiMaxRows]
  split <;> omega

end DummyDrivers.Fbview
