import DummyDrivers.Fbview.Frame
import DummyDrivers.Library.Sampling

/-! The preview in a terminal: the grid of cells that is chosen for a frame, and the two
pixels of the frame that each cell shows, one above the other. A frame that has all its
pixels is rendered in any grid.
-/

namespace DummyDrivers.Fbview

open DummyDrivers.Blocks
open DummyDrivers.Fb
open DummyDrivers.Loops
open DummyDrivers.Python
open DummyDrivers.Sampling

/-- `cw` of `ansi_render`: the columns of a cell's block. -/
def ansiCw (w cols : Nat) : Nat := max 1 (w / cols)

/-- `ch` of `ansi_render`: the lines of a half cell's block. -/
def ansiCh (h rows : Nat) : Nat := max 1 (h / (rows * 2))

/-- The column that is sampled for the cells of a text column. -/
def ansiX (w cols tc : Nat) : Nat := min (w - 1) (tc * ansiCw w cols + ansiCw w cols / 2)

/-- The line that is sampled for a half of a text row, counted in halves from the top. -/
def ansiY (h rows half : Nat) : Nat := min (h - 1) (half * ansiCh h rows + ansiCh h rows / 2)

/-- The position of a pixel's first byte in the packed frame. -/
def ansiIndex (w x y : Nat) : Nat := (y * w + x) * 3

def readPixel (rgb : List UInt8) (i : Nat) : Except PyError (Rgb UInt8) := do
  let red ← getByte rgb i
  let green ← getByte rgb (i + 1)
  let blue ← getByte rgb (i + 2)
  return { red, green, blue }

/-- The three values of a colour in a control sequence. -/
def colourText (colour : Rgb UInt8) : String :=
  toString colour.red.toNat
  ++ ";"
  ++ toString colour.green.toNat
  ++ ";"
  ++ toString colour.blue.toNat

/-- A half block in two colours. -/
def cellText (upper lower : Rgb UInt8) : String :=
  "\x1b[38;2;" ++ colourText upper ++ "m\x1b[48;2;" ++ colourText lower ++ "m\u2580"

/-- The body of the inner loop of `ansi_render`. -/
def renderCell (rgb : List UInt8) (w h cols rows tr tc : Nat) : Except PyError String := do
  let x := ansiX w cols tc
  let y0 := ansiY h rows (tr * 2)
  let y1 := ansiY h rows (tr * 2 + 1)
  let upper ← readPixel rgb (ansiIndex w x y0)
  let lower ← readPixel rgb (ansiIndex w x y1)
  return cellText upper lower

/-- The body of its outer loop. -/
def renderLine (rgb : List UInt8) (w h cols rows tr : Nat) : Except PyError String := do
  let cells ← (List.range cols).mapM (renderCell rgb w h cols rows tr)
  return String.join cells

/-- `ansi_render`, for a frame of at least one pixel and a grid of at least one cell. -/
def ansiRender (rgb : List UInt8) (w h cols rows : Nat) : Except PyError String := do
  let lines ← (List.range rows).mapM (renderLine rgb w h cols rows)
  return "\n".intercalate lines ++ "\x1b[0m"

/-- `maxw or max(1, size.columns - 2)`. -/
def ansiMaxCols (maxw columns : Nat) : Nat := if maxw = 0 then max 1 (columns - 2) else maxw

/-- `maxh or max(1, (size.lines - 2) // 2)`. -/
def ansiMaxRows (maxh lines : Nat) : Nat := if maxh = 0 then max 1 ((lines - 2) / 2) else maxh

/-- The grid of a preview, with the pixels on a side of a cell, or zero in fill mode. -/
structure AnsiGrid where
  cell : Nat
  cols : Nat
  rows : Nat
  deriving DecidableEq, Repr

def ansiGrid (w h maxCols maxRows : Nat) (fill : Bool) : AnsiGrid :=
  if fill then
    { cell := 0, cols := maxCols, rows := maxRows }
  else
    let cell :=
      max 1 (max ((w + maxCols - 1) / maxCols) ((h + maxRows * 2 - 1) / (maxRows * 2)))
    { cell, cols := max 1 (w / cell), rows := max 1 (h / (cell * 2)) }

/-- The line above the preview. -/
def ansiHeader (path : String) (w h bpp : Nat) (grid : AnsiGrid) : String :=
  let detail := if grid.cell = 0 then "" else ", " ++ toString grid.cell ++ "px/cell"
  path
  ++ ": "
  ++ toString w
  ++ "x"
  ++ toString h
  ++ " "
  ++ toString bpp
  ++ "bpp (scaled to "
  ++ toString grid.cols
  ++ "x"
  ++ toString grid.rows
  ++ " cells"
  ++ detail
  ++ ")"

/-- What one round of `run_ansi` writes to a terminal of `columns` by `lines`. -/
def runAnsi (path : String) (var : FbVarScreeninfo) (memory : List UInt8)
    (columns lines maxw maxh : Nat) (fill : Bool) : Except PyError String := do
  let conv := Converter.init var
  let maxCols := ansiMaxCols maxw columns
  let maxRows := ansiMaxRows maxh lines
  let grid := ansiGrid conv.w conv.h maxCols maxRows fill
  let rgb ← conv.convert (readFrame var memory)
  let preview ← ansiRender rgb conv.w conv.h grid.cols grid.rows
  let header := ansiHeader path conv.w conv.h conv.bpp grid
  return "\x1b[H" ++ ("\x1b[7m" ++ header ++ "\x1b[0m\n" ++ preview)

/-- Halves of text rows are cells, as text columns are. -/
theorem ansiY_eq_sample (h rows half : Nat) : ansiY h rows half = sample h (rows * 2) half := rfl

/-- The colour at a position of the packed frame. -/
def pixelAt (rgb : List UInt8) (i : Nat) : Rgb UInt8 :=
  { red := rgb.getD i 0, green := rgb.getD (i + 1) 0, blue := rgb.getD (i + 2) 0 }

/-- The text of a cell of the preview, from its two pixels. -/
def ansiCell (rgb : List UInt8) (w h cols rows tr tc : Nat) : String :=
  let x := ansiX w cols tc
  cellText
    (pixelAt rgb (ansiIndex w x (ansiY h rows (tr * 2))))
    (pixelAt rgb (ansiIndex w x (ansiY h rows (tr * 2 + 1))))

def ansiLine (rgb : List UInt8) (w h cols rows tr : Nat) : String :=
  String.join ((List.range cols).map (ansiCell rgb w h cols rows tr))

/-- The text of the preview. -/
def ansiText (rgb : List UInt8) (w h cols rows : Nat) : String :=
  "\n".intercalate ((List.range rows).map (ansiLine rgb w h cols rows)) ++ "\x1b[0m"

theorem readPixel_ok {rgb : List UInt8} {i : Nat} (inside : i + 2 < rgb.length)
    : readPixel rgb i = .ok (pixelAt rgb i) := by
  have first : i < rgb.length := by omega
  have second : i + 1 < rgb.length := by omega
  simp only [readPixel, getByte_ok first, getByte_ok second, getByte_ok inside, ok_bind,
    pixelAt, List.getD_eq_getElem?_getD, List.getElem?_eq_getElem first,
    List.getElem?_eq_getElem second, List.getElem?_eq_getElem inside]
  rfl

/-- Every byte that is read for a pixel of the screen lies in the frame. -/
theorem ansiIndex_lt {w h x y lane : Nat} (column : x < w) (line : y < h) (channel : lane < 3)
    : ansiIndex w x y + lane < 3 * w * h := by
  have place := raster_lt column line
  rw [ansiIndex, Nat.mul_assoc 3]
  omega

section Rendered

variable {rgb : List UInt8} {w h : Nat} (whole : rgb.length = 3 * w * h) (some_column : 0 < w)
  (some_line : 0 < h) (cols rows : Nat)

include whole some_column some_line

theorem renderCell_ok (tr tc : Nat)
    : renderCell rgb w h cols rows tr tc = .ok (ansiCell rgb w h cols rows tr tc) := by
  have read (half : Nat)
      : readPixel rgb (ansiIndex w (ansiX w cols tc) (ansiY h rows half))
        = .ok (pixelAt rgb (ansiIndex w (ansiX w cols tc) (ansiY h rows half))) :=
    readPixel_ok (whole ▸ ansiIndex_lt (sample_lt some_column cols tc)
      (sample_lt some_line (rows * 2) half) (by decide))
  rw [renderCell]
  simp only [read, ok_bind]
  rfl

theorem renderLine_ok (tr : Nat)
    : renderLine rgb w h cols rows tr = .ok (ansiLine rgb w h cols rows tr) := by
  have cells := mapM_ok fun tc (_ : tc ∈ List.range cols) =>
    renderCell_ok whole some_column some_line cols rows tr tc
  rw [renderLine, cells]
  rfl

/-- A frame that has all its pixels is rendered in every grid. -/
theorem ansiRender_ok : ansiRender rgb w h cols rows = .ok (ansiText rgb w h cols rows) := by
  have lines := mapM_ok fun tr (_ : tr ∈ List.range rows) =>
    renderLine_ok whole some_column some_line cols rows tr
  rw [ansiRender, lines]
  rfl

end Rendered

theorem Format.frame_length (format : Format) (memory : List UInt8) (count : Nat)
    : (format.frame memory count).length = 3 * count :=
  flatMap_range_length (fun _ => Format.colour_length _ _) count

/-- A round of the preview of a readable frame never fails: below the header stand the
frame's pixels, as the grid samples them.
-/
theorem runAnsi_ok {var : FbVarScreeninfo} {format : Format} (supports : Supports var format)
    (some_column : 0 < var.xres.toNat) (some_line : 0 < var.yres.toNat) {memory : List UInt8}
    (enough : format.bytes * (var.xres.toNat * var.yres.toNat) ≤ (readFrame var memory).length)
    (path : String) (columns lines maxw maxh : Nat) (fill : Bool)
    : let grid := ansiGrid var.xres.toNat var.yres.toNat (ansiMaxCols maxw columns)
        (ansiMaxRows maxh lines) fill
      let rgb := format.frame (readFrame var memory) (var.xres.toNat * var.yres.toNat)
      runAnsi path var memory columns lines maxw maxh fill
        = .ok ("\x1b[H" ++ ("\x1b[7m"
          ++ ansiHeader path var.xres.toNat var.yres.toNat var.bitsPerPixel.toNat grid
          ++ "\x1b[0m\n"
          ++ ansiText rgb var.xres.toNat var.yres.toNat grid.cols grid.rows)) := by
  intro grid rgb
  have whole : rgb.length = 3 * var.xres.toNat * var.yres.toNat := by
    rw [format.frame_length, Nat.mul_assoc]
  have rendered := ansiRender_ok whole some_column some_line grid.cols grid.rows
  unfold runAnsi
  dsimp only
  rw [supports.convert_ok enough, ok_bind]
  change ansiRender rgb var.xres.toNat var.yres.toNat grid.cols grid.rows >>= _ = _
  rw [rendered]
  rfl

end DummyDrivers.Fbview
