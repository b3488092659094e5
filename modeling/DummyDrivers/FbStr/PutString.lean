import DummyDrivers.FbStr.Font
import DummyDrivers.FbStr.Pixels

/-! Drawing text: the characters of a string as cells of 8 by 16 pixels at a cursor, with the
range check in front of it. A C `int` is an integer here, since its overflow is undefined;
the strings are arguments of a command, far shorter than an `int` can count.
-/

namespace DummyDrivers.FbStr

open DummyDrivers.Fb

/-- The arguments of a call of `lcd_put_pixel` as the `int`s that the caller computes. -/
structure DrawnPixel where
  x : Int
  y : Int
  color : BitVec 32
  deriving DecidableEq, Repr

def DrawnPixel.call (pixel : DrawnPixel) : PixelCall :=
  { x := BitVec.ofInt 32 pixel.x, y := BitVec.ofInt 32 pixel.y, color := pixel.color }

/-- The pixel of a character that the loops of `lcd_put_ascii` draw for a bit of the font. -/
def asciiPixel (x y : Int) (color : BitVec 32) (c : UInt8) (row column : Nat) : DrawnPixel :=
  let byte := fontByte (c.toNat * 16 + row)
  {
    x := x + 7 - column
    y := y + row
    color := if byte.toNat &&& 1 <<< column ≠ 0 then color else 0
  }

/-- The pixels in the order of the loops. -/
def asciiPixels (x y : Int) (color : BitVec 32) (c : UInt8) : List DrawnPixel :=
  (List.range 16).flatMap fun row =>
    (List.range 8).reverse.map fun column => asciiPixel x y color c row column

/-- `lcd_put_ascii`. -/
def lcdPutAscii (screen : Screen) (memory : List UInt8) (x y : Int) (color : BitVec 32)
    (c : UInt8)
    : Except StoreError (List UInt8) :=
  lcdPutPixels screen memory ((asciiPixels x y color c).map DrawnPixel.call)

/-- The local variables of `lcd_put_string` that place the next character. -/
structure Cursor where
  x : Int
  y : Int
  tempIndex : Int
  deriving DecidableEq, Repr

/-- `(dots & 0x80) != 0x80`. -/
def Drawn (dots : UInt8) : Prop := dots &&& 0x80 ≠ 0x80

instance (dots : UInt8) : Decidable (Drawn dots) := inferInstanceAs (Decidable (_ ≠ _))

/-- The column at which the next character is drawn. -/
def Cursor.column (cursor : Cursor) : Int := cursor.x + cursor.tempIndex * 8

/-- The first half of a round of the loop, on the cursor. -/
def Cursor.advance (cursor : Cursor) (dots : UInt8) : Cursor :=
  if Drawn dots then { cursor with tempIndex := cursor.tempIndex + 1 } else cursor

/-- A round of the loop, on the cursor. The room that is left is computed as unsigned. -/
def Cursor.next (xres : BitVec 32) (cursor : Cursor) (dots : UInt8) : Cursor :=
  let cursor := cursor.advance dots
  let cursor :=
    if xres - BitVec.ofInt 32 cursor.column ≤ 16 then
      { x := 0, y := cursor.y + 16, tempIndex := 0 }
    else
      cursor
  if cursor.y = 64 then { cursor with x := 0, y := 0 } else cursor

/-- A round of the loop, on the memory and the cursor. -/
def putDots (screen : Screen) (color : BitVec 32) (state : List UInt8 × Cursor) (dots : UInt8)
    : Except StoreError (List UInt8 × Cursor) := do
  let cursor := state.2
  let memory ←
    if Drawn dots then
      lcdPutAscii screen state.1 cursor.column cursor.y color dots
    else
      pure state.1
  return (memory, cursor.next screen.var.xres dots)

/-- `lcd_put_string`, whose value is always zero. The loop runs up to and including the
string's end.
-/
def lcdPutString (screen : Screen) (memory : List UInt8) (x y : Int) (color : BitVec 32)
    (str : List UInt8)
    : Except StoreError (List UInt8) := do
  let state ← (str ++ [0]).foldlM (putDots screen color) (memory, { x, y, tempIndex := 0 })
  return state.1

/-- The check in `main` for three arguments, where `atoi`'s `int` is compared as unsigned. -/
def PositionInRange (var : FbVarScreeninfo) (x y : BitVec 32) : Prop :=
  ¬ (var.xres < x ∨ var.yres < y)

/-- The size of the mapping in `main`. -/
def screenSize (var : FbVarScreeninfo) : BitVec 32 := var.xres * var.yres * var.bitsPerPixel / 8

-----------------------------------------------------------------------------------------
-- Cells
-----------------------------------------------------------------------------------------

/-- A character with the position of its upper left pixel. -/
structure Cell where
  x : Int
  y : Int
  character : UInt8
  deriving DecidableEq, Repr

def Cell.pixels (color : BitVec 32) (cell : Cell) : List DrawnPixel :=
  asciiPixels cell.x cell.y color cell.character

/-- The characters that are drawn for some bytes, from a cursor on. -/
def cellsFrom (xres : BitVec 32) (cursor : Cursor) : List UInt8 → List Cell
  | [] => []
  | dots :: rest =>
      let later := cellsFrom xres (cursor.next xres dots) rest
      if Drawn dots then
        { x := cursor.column, y := cursor.y, character := dots } :: later
      else
        later

/-- The cells of a string with its end. -/
def stringCells (xres : BitVec 32) (x y : Int) (str : List UInt8) : List Cell :=
  cellsFrom xres { x, y, tempIndex := 0 } (str ++ [0])

/-- The pixels of all cells, one cell after the other. -/
def stringPixels (xres : BitVec 32) (x y : Int) (color : BitVec 32) (str : List UInt8)
    : List DrawnPixel :=
  (stringCells xres x y str).flatMap (Cell.pixels color)

theorem cellsFrom_cons (xres : BitVec 32) (cursor : Cursor) (dots : UInt8) (rest : List UInt8)
    : cellsFrom xres cursor (dots :: rest)
      = (if Drawn dots then [{ x := cursor.column, y := cursor.y, character := dots }] else [])
        ++ cellsFrom xres (cursor.next xres dots) rest := by
  rw [cellsFrom]
  split <;> rfl

theorem lcdPutPixels_append (screen : Screen) (memory : List UInt8)
    (calls later : List PixelCall)
    : lcdPutPixels screen memory (calls ++ later)
      = lcdPutPixels screen memory calls >>= fun memory => lcdPutPixels screen memory later :=
  List.foldlM_append

/-- The loop draws the cells one after the other, by induction on the bytes with the memory
and the cursor generalized.
-/
theorem foldlM_putDots (screen : Screen) (color : BitVec 32) (bytes : List UInt8)
    (memory : List UInt8) (cursor : Cursor)
    : (do
        let state ← bytes.foldlM (putDots screen color) (memory, cursor)
        return state.1)
      = lcdPutPixels screen memory
          (((cellsFrom screen.var.xres cursor bytes).flatMap (Cell.pixels color)).map
            DrawnPixel.call) := by
  induction bytes generalizing memory cursor with
  | nil => rfl
  | cons dots rest ih =>
      rw [List.foldlM_cons, cellsFrom_cons, putDots]
      by_cases drawn : Drawn dots
      · simp only [if_pos drawn, List.cons_append, List.nil_append, List.flatMap_cons,
          List.map_append, lcdPutPixels_append, ← ih, bind_assoc, pure_bind]
        rfl
      · simp only [if_neg drawn, List.nil_append, ← ih, pure_bind]

/-- The string is drawn pixel by pixel. -/
theorem lcdPutString_eq_lcdPutPixels (screen : Screen) (memory : List UInt8) (x y : Int)
    (color : BitVec 32) (str : List UInt8)
    : lcdPutString screen memory x y color str
      = lcdPutPixels screen memory
          ((stringPixels screen.var.xres x y color str).map DrawnPixel.call) :=
  foldlM_putDots screen color (str ++ [0]) memory { x, y, tempIndex := 0 }

theorem mem_asciiPixels {x y : Int} {color : BitVec 32} {c : UInt8} {pixel : DrawnPixel}
    : pixel ∈ asciiPixels x y color c
      ↔ ∃ row < 16, ∃ column < 8, asciiPixel x y color c row column = pixel := by
  simp only [asciiPixels, List.mem_flatMap, List.mem_range, List.mem_map, List.mem_reverse]

end DummyDrivers.FbStr
