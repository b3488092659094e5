import DummyDrivers.FbStr.PutString

/-! Which strings stay on the screen. From a start position the cells fill the rest of its
line and then whole lines from the left edge. The only way back to the top is the line 64,
which the cursor reaches from the lines 0, 16, 32 and 48 only.
-/

namespace DummyDrivers.FbStr

open DummyDrivers.Blocks
open DummyDrivers.Fb

/-- A screen that has room for a character, with pixels of a known size. -/
structure TextScreen (var : FbVarScreeninfo) (size : Nat) : Prop extends PixelSize var size where
  wide : 8 ≤ var.xres.toNat
  tall : 16 ≤ var.yres.toNat

structure DrawnPixel.OnScreen (pixel : DrawnPixel) (var : FbVarScreeninfo) : Prop where
  left : 0 ≤ pixel.x
  right : pixel.x < var.xres.toNat
  top : 0 ≤ pixel.y
  bottom : pixel.y < var.yres.toNat

structure Cell.Fits (cell : Cell) (var : FbVarScreeninfo) : Prop where
  left : 0 ≤ cell.x
  right : cell.x + 8 ≤ var.xres.toNat
  top : 0 ≤ cell.y
  bottom : cell.y + 16 ≤ var.yres.toNat

/-- Every pixel that is drawn for a string is on the screen, and every store is inside the
mapped memory, whatever that holds.
-/
structure DrawsInside (var : FbVarScreeninfo) (x y : Int) (color : BitVec 32)
    (str : List UInt8) : Prop where
  pixels : ∀ pixel ∈ stringPixels var.xres x y color str, pixel.OnScreen var
  stores
    : ∀ memory,
        memory.length = (screenSize var).toNat
        → ∃ final, lcdPutString (Screen.init var) memory x y color str = .ok final

-----------------------------------------------------------------------------------------
-- From pixels to cells
-----------------------------------------------------------------------------------------

variable {var : FbVarScreeninfo} {size : Nat}

/-- The pixels of a cell are on the screen if the cell is. Witness: its first pixel and its
last one.
-/
theorem Cell.fits_iff (cell : Cell) (color : BitVec 32)
    : (∀ pixel ∈ cell.pixels color, pixel.OnScreen var) ↔ cell.Fits var := by
  constructor
  · intro onScreen
    have first := onScreen (asciiPixel cell.x cell.y color cell.character 0 7)
      (mem_asciiPixels.mpr ⟨0, by decide, 7, by decide, rfl⟩)
    have last := onScreen (asciiPixel cell.x cell.y color cell.character 15 0)
      (mem_asciiPixels.mpr ⟨15, by decide, 0, by decide, rfl⟩)
    have left := first.left
    have right := last.right
    have top := first.top
    have bottom := last.bottom
    simp only [asciiPixel] at left right top bottom
    constructor <;> omega
  · intro fits pixel member
    obtain ⟨row, rowInside, column, columnInside, rfl⟩ := mem_asciiPixels.mp member
    obtain ⟨left, right, top, bottom⟩ := fits
    constructor <;> simp only [asciiPixel] <;> omega

theorem stringPixels_onScreen_iff (x y : Int) (color : BitVec 32) (str : List UInt8)
    : (∀ pixel ∈ stringPixels var.xres x y color str, pixel.OnScreen var)
      ↔ ∀ cell ∈ stringCells var.xres x y str, cell.Fits var := by
  constructor
  · intro onScreen cell member
    refine (cell.fits_iff color).mp fun pixel inside => onScreen pixel ?_
    exact List.mem_flatMap.mpr ⟨cell, member, inside⟩
  · intro fit pixel member
    obtain ⟨cell, listed, inside⟩ := List.mem_flatMap.mp member
    exact (cell.fits_iff color).mpr (fit cell listed) pixel inside

/-- A screen of text is small enough for its positions to be `int`s. -/
theorem TextScreen.bounds (screen : TextScreen var size)
    : var.xres.toNat < 2 ^ 24 ∧ var.yres.toNat < 2 ^ 25 := by
  have small := screen.small
  have wide := screen.wide
  have tall := screen.tall
  have bits : 8 ≤ var.bitsPerPixel.toNat := by
    have known := screen.known
    rw [screen.bits]
    omega
  constructor
  · by_contra large
    have pixels : 2 ^ 24 * 16 ≤ var.xres.toNat * var.yres.toNat :=
      Nat.mul_le_mul (Nat.le_of_not_lt large) tall
    have memory := Nat.mul_le_mul pixels bits
    omega
  · by_contra large
    have pixels : 8 * 2 ^ 25 ≤ var.xres.toNat * var.yres.toNat :=
      Nat.mul_le_mul wide (Nat.le_of_not_lt large)
    have memory := Nat.mul_le_mul pixels bits
    omega

theorem toInt_ofInt_small {value : Int} (positive : 0 ≤ value) (small : value < 2 ^ 31)
    : (BitVec.ofInt 32 value).toInt = value := by
  rw [BitVec.toInt_ofInt]
  apply Int.bmod_eq_of_le <;> omega

theorem DrawnPixel.OnScreen.call (screen : TextScreen var size) {pixel : DrawnPixel}
    (onScreen : pixel.OnScreen var)
    : pixel.call.OnScreen var := by
  obtain ⟨left, right, top, bottom⟩ := onScreen
  obtain ⟨wide, tall⟩ := screen.bounds
  have x : pixel.call.x.toInt = pixel.x := toInt_ofInt_small left (by omega)
  have y : pixel.call.y.toInt = pixel.y := toInt_ofInt_small top (by omega)
  constructor <;> omega

theorem TextScreen.screenSize_toNat (screen : TextScreen var size)
    : (screenSize var).toNat = size * (var.xres.toNat * var.yres.toNat) := by
  have small := screen.small
  have bits := screen.bits
  have pixels : var.xres.toNat * var.yres.toNat < 2 ^ 32 := by
    have positive : 1 ≤ var.bitsPerPixel.toNat := by
      have known := screen.known
      omega
    have more := Nat.le_mul_of_pos_right (var.xres.toNat * var.yres.toNat) positive
    omega
  have eight : (8 : BitVec 32).toNat = 8 := rfl
  rw [screenSize, BitVec.toNat_udiv, BitVec.toNat_mul, BitVec.toNat_mul, eight,
    Nat.mod_eq_of_lt pixels, Nat.mod_eq_of_lt (by omega), bits, Nat.mul_comm, Nat.mul_assoc,
    Nat.mul_div_cancel_left _ (by decide)]

/-- The calls for cells on the screen are on it. -/
theorem TextScreen.calls_onScreen (screen : TextScreen var size) {cells : List Cell}
    (fit : ∀ cell ∈ cells, cell.Fits var) (color : BitVec 32)
    : ∀ call ∈ (cells.flatMap (Cell.pixels color)).map DrawnPixel.call, call.OnScreen var := by
  intro call member
  obtain ⟨pixel, listed, rfl⟩ := List.mem_map.mp member
  obtain ⟨cell, drawn, inside⟩ := List.mem_flatMap.mp listed
  exact ((cell.fits_iff color).mpr (fit cell drawn) pixel inside).call screen

/-- A string is drawn inside the screen when all its cells are on it. -/
theorem TextScreen.drawsInside_iff (screen : TextScreen var size) (x y : Int)
    (color : BitVec 32) (str : List UInt8)
    : DrawsInside var x y color str ↔ ∀ cell ∈ stringCells var.xres x y str, cell.Fits var := by
  have pixels := @stringPixels_onScreen_iff var x y color str
  constructor
  · intro inside
    exact pixels.mp inside.pixels
  · intro fit
    refine ⟨pixels.mpr fit, ?_⟩
    intro memory mapped
    have whole : size * (var.xres.toNat * var.yres.toNat) ≤ memory.length := by
      rw [mapped, screen.screenSize_toNat]
    have calls := screen.calls_onScreen fit color
    obtain ⟨final, ran, _⟩ := screen.toPixelSize.lcdPutPixels_ok whole calls
    exact ⟨final, (lcdPutString_eq_lcdPutPixels _ memory x y color str).trans ran⟩

-----------------------------------------------------------------------------------------
-- The cursor
-----------------------------------------------------------------------------------------

/-- The columns that a byte takes up. -/
def cellWidth (dots : UInt8) : Nat := if Drawn dots then 8 else 0

theorem cellWidth_le (dots : UInt8) : cellWidth dots ≤ 8 := by
  unfold cellWidth
  split <;> omega

/-- The line below a line of cells. -/
def nextLine (line : Nat) : Nat := if line + 16 = 64 then 0 else line + 16

theorem nextLine_ne (line : Nat) : nextLine line ≠ 64 := by
  unfold nextLine
  split <;> omega

/-- A cursor at a place that is not left of or above the screen. -/
structure Cursor.At (cursor : Cursor) (column line : Nat) : Prop where
  column : cursor.column = column
  line : cursor.y = line

theorem Cursor.at_start (column line : Nat)
    : Cursor.At { x := column, y := line, tempIndex := 0 } column line :=
  ⟨by simp [Cursor.column], rfl⟩

/-- The unsigned room right of a column that is not right of the screen. -/
theorem room_le_iff {xres : BitVec 32} {column : Nat} (inside : column ≤ xres.toNat)
    : xres - BitVec.ofInt 32 column ≤ 16 ↔ xres.toNat ≤ column + 16 := by
  have small := xres.isLt
  have sixteen : (16 : BitVec 32).toNat = 16 := rfl
  have narrow : column % 2 ^ 32 = column := Nat.mod_eq_of_lt (by omega)
  rw [BitVec.ofInt_natCast, BitVec.le_def, BitVec.toNat_sub, BitVec.toNat_ofNat, narrow, sixteen]
  omega

theorem Cursor.At.advance {cursor : Cursor} {column line : Nat} (place : cursor.At column line)
    (dots : UInt8)
    : (cursor.advance dots).At (column + cellWidth dots) line := by
  obtain ⟨start, top⟩ := place
  unfold Cursor.advance cellWidth
  split
  · constructor
    · simp only [Cursor.column] at start ⊢
      omega
    · exact top
  · exact ⟨start, top⟩

/-- Where little room is left, the cursor goes to the start of the next line. -/
theorem Cursor.At.next_wrap {cursor : Cursor} {column line : Nat}
    (place : cursor.At column line) {dots : UInt8}
    (inside : column + cellWidth dots ≤ var.xres.toNat)
    (full : var.xres.toNat ≤ column + cellWidth dots + 16)
    : (cursor.next var.xres dots).At 0 (nextLine line) := by
  obtain ⟨moved, top⟩ := place.advance dots
  have wraps := (room_le_iff inside).mpr full
  unfold Cursor.next nextLine
  dsimp only
  rw [moved, if_pos wraps, top]
  by_cases last : line + 16 = 64
  · have bottom : (line : Int) + 16 = 64 := by omega
    rw [if_pos last, if_pos bottom]
    exact ⟨rfl, rfl⟩
  · have above : ¬ (line : Int) + 16 = 64 := by omega
    rw [if_neg last, if_neg above]
    exact ⟨rfl, by push_cast; rfl⟩

/-- Where enough room is left, the cursor moves on along its line. -/
theorem Cursor.At.next_along {cursor : Cursor} {column line : Nat}
    (place : cursor.At column line) {dots : UInt8} (other : line ≠ 64)
    (room : column + cellWidth dots + 16 < var.xres.toNat)
    : (cursor.next var.xres dots).At (column + cellWidth dots) line := by
  obtain ⟨moved, top⟩ := place.advance dots
  have stays := (@room_le_iff var.xres (column + cellWidth dots) (by omega)).not.mpr (by omega)
  unfold Cursor.next
  dsimp only
  rw [moved, if_neg stays, top, if_neg (by omega)]
  exact ⟨moved, top⟩

/-- On the line 64 with enough room left the cursor goes to the top, but keeps the number
of cells that are drawn in the line.
-/
theorem Cursor.next_top {column : Nat} {dots : UInt8}
    (room : column + cellWidth dots + 16 < var.xres.toNat)
    : (Cursor.next var.xres { x := column, y := 64, tempIndex := 0 } dots).At (cellWidth dots)
        0 := by
  obtain ⟨moved, top⟩ := (Cursor.at_start column 64).advance dots
  rw [Nat.cast_ofNat] at moved top
  have stays := (@room_le_iff var.xres (column + cellWidth dots) (by omega)).not.mpr (by omega)
  unfold Cursor.next
  dsimp only
  rw [moved, if_neg stays, top, if_pos (by rfl)]
  constructor
  · unfold Cursor.advance cellWidth
    split <;> simp [Cursor.column]
  · rfl

/-- The column and line of the cursor after the first byte. -/
def secondPlace (width x y : Nat) (first : UInt8) : Nat × Nat :=
  if width ≤ x + cellWidth first + 16 then
    (0, nextLine y)
  else if y = 64 then
    (cellWidth first, 0)
  else
    (x + cellWidth first, y)

/-- The cursor after the first byte, unless its cell reaches over the right edge. -/
theorem Cursor.next_secondPlace {x y : Nat} {first : UInt8}
    (inside : x + cellWidth first ≤ var.xres.toNat)
    : (Cursor.next var.xres { x, y, tempIndex := 0 } first).At
        (secondPlace var.xres.toNat x y first).1 (secondPlace var.xres.toNat x y first).2 := by
  have start := Cursor.at_start x y
  unfold secondPlace
  split
  case isTrue full => exact start.next_wrap inside full
  case isFalse room =>
    split
    case isTrue top =>
      subst top
      exact Cursor.next_top (by omega)
    case isFalse other => exact start.next_along other (by omega)

/-- The cursor after a byte, from a place with room for more than two cells. -/
theorem Cursor.At.next_settled {cursor : Cursor} {column line : Nat}
    (place : cursor.At column line) (dots : UInt8) (other : line ≠ 64)
    (room : column + 16 < var.xres.toNat)
    : (cursor.next var.xres dots).At (secondPlace var.xres.toNat column line dots).1
        (secondPlace var.xres.toNat column line dots).2 := by
  have narrow := cellWidth_le dots
  unfold secondPlace
  rw [if_neg other]
  split
  case isTrue full => exact place.next_wrap (by omega) full
  case isFalse more => exact place.next_along other (by omega)

theorem secondPlace_settled {width x y : Nat} {first : UInt8} (wide : 16 < width)
    : (secondPlace width x y first).1 + 16 < width := by
  unfold secondPlace
  split
  · omega
  · split <;> omega

theorem secondPlace_ne (width x y : Nat) (first : UInt8)
    : (secondPlace width x y first).2 ≠ 64 := by
  unfold secondPlace
  split
  · exact nextLine_ne y
  · split
    case isTrue => exact (by decide : 0 ≠ 64)
    case isFalse other => exact other

/-- Whether the cells from a cursor on fit depends on the first one and the rest. -/
theorem cellsFrom_fit_cons {cursor : Cursor} {column line : Nat} (place : cursor.At column line)
    (dots : UInt8) (rest : List UInt8)
    : (∀ cell ∈ cellsFrom var.xres cursor (dots :: rest), cell.Fits var)
      ↔ (Drawn dots → column + 8 ≤ var.xres.toNat ∧ line + 16 ≤ var.yres.toNat)
        ∧ ∀ cell ∈ cellsFrom var.xres (cursor.next var.xres dots) rest, cell.Fits var := by
  obtain ⟨start, top⟩ := place
  rw [cellsFrom_cons, List.forall_mem_append]
  apply and_congr_left
  intro _
  by_cases drawn : Drawn dots
  · rw [if_pos drawn]
    simp only [List.mem_singleton, forall_eq, drawn, true_imp_iff]
    constructor
    · intro fits
      have right := fits.right
      have bottom := fits.bottom
      dsimp only at right bottom
      omega
    · intro inside
      constructor <;> dsimp only <;> omega
  · simp [drawn]

-----------------------------------------------------------------------------------------
-- The cells from a settled cursor on
-----------------------------------------------------------------------------------------

/-- The lines from a line on return to the top. -/
def Cycles (line : Nat) : Prop := line < 64 ∧ 16 ∣ line

instance (line : Nat) : Decidable (Cycles line) := inferInstanceAs (Decidable (_ ∧ _))

/-- The line that lies some lines of cells below a line. -/
def lineBelow (line count : Nat) : Nat :=
  if Cycles line then (line + 16 * count) % 64 else line + 16 * count

def drawnCount (bytes : List UInt8) : Nat := bytes.countP fun dots => Drawn dots

/-- The cells from a column on until the cursor wraps. -/
def cellsLeft (width column : Nat) : Nat := (width - 9 - column) / 8

/-- The number of complete lines after some cells from a column on. -/
def linesFilled (width column cells : Nat) : Nat :=
  (cellsLeft width 0 - cellsLeft width column + cells) / cellsLeft width 0

/-- The rest of a string fits from a column and line on. On a screen of more than two cells
a byte with its high bit set does not move the cursor, and all lines must fit or return to
the top before they end. On a narrower one every byte takes a line of its own.
-/
def RestFits (width height column line : Nat) (rest : List UInt8) : Prop :=
  if 16 < width then
    64 ≤ height ∧ Cycles line
    ∨ line + 16 * linesFilled width column (drawnCount rest) + 16 ≤ height
  else
    ∀ index ≤ rest.length, Drawn (rest.getD index 0) → lineBelow line index + 16 ≤ height

theorem cycles_nextLine (line : Nat) : Cycles (nextLine line) ↔ Cycles line := by
  unfold Cycles nextLine
  split <;> omega

/-- One cell further along the line, or the first of the next one. -/
theorem linesFilled_succ {width column : Nat} (room : column + 16 < width) (cells : Nat)
    : linesFilled width column (cells + 1)
      = if width ≤ column + 8 + 16 then linesFilled width 0 cells + 1
        else linesFilled width (column + 8) cells := by
  have positive : 0 < cellsLeft width 0 := by
    unfold cellsLeft
    omega
  unfold linesFilled
  split
  · have last : cellsLeft width column = 1 := by
      unfold cellsLeft
      omega
    have whole : cellsLeft width 0 - 1 + (cells + 1) = cells + cellsLeft width 0 := by omega
    rw [last, whole, Nat.add_div_right _ positive, Nat.sub_self, Nat.zero_add]
  · have fewer : cellsLeft width column = cellsLeft width (column + 8) + 1 := by
      unfold cellsLeft
      omega
    have within : cellsLeft width column ≤ cellsLeft width 0 := by
      unfold cellsLeft
      omega
    congr 1
    omega

theorem linesFilled_zero {width column : Nat} (room : column + 16 < width)
    : linesFilled width column 0 = 0 := by
  apply Nat.div_eq_of_lt
  unfold cellsLeft
  omega

theorem lineBelow_zero (line : Nat) : lineBelow line 0 = line := by
  unfold lineBelow
  by_cases cycles : Cycles line
  · rw [if_pos cycles]
    exact Nat.mod_eq_of_lt cycles.1
  · rw [if_neg cycles]
    rfl

/-- The lines below the next line. -/
theorem lineBelow_nextLine (line count : Nat)
    : lineBelow (nextLine line) count = lineBelow line (count + 1) := by
  unfold lineBelow
  simp only [cycles_nextLine]
  by_cases cycles : Cycles line
  · rw [if_pos cycles, if_pos cycles]
    unfold nextLine
    split <;> omega
  · have last : ¬ line + 16 = 64 := by
      unfold Cycles at cycles
      omega
    rw [if_neg cycles, if_neg cycles, nextLine, if_neg last]
    ring

/-- On a wide screen, by induction on the rest of the string with the cursor generalized:
a byte that is not drawn leaves the cursor where it is.
-/
theorem cellsFrom_fit_wide {cursor : Cursor} {column line : Nat} (place : cursor.At column line)
    (other : line ≠ 64) (room : column + 16 < var.xres.toNat) (rest : List UInt8)
    : (∀ cell ∈ cellsFrom var.xres cursor (rest ++ [0]), cell.Fits var)
      ↔ 64 ≤ var.yres.toNat ∧ Cycles line
        ∨ line + 16 * linesFilled var.xres.toNat column (drawnCount rest) + 16
          ≤ var.yres.toNat := by
  induction rest generalizing cursor column line with
  | nil =>
      have nul : Drawn 0 := by decide
      have count : drawnCount [] = 0 := rfl
      rw [List.nil_append, cellsFrom_fit_cons place, count, linesFilled_zero room]
      simp only [nul, true_imp_iff, cellsFrom, List.not_mem_nil, false_imp_iff, implies_true,
        and_true, Cycles]
      omega
  | cons dots rest ih =>
      rw [List.cons_append, cellsFrom_fit_cons place]
      by_cases drawn : Drawn dots
      · have width : cellWidth dots = 8 := if_pos drawn
        have count : drawnCount (dots :: rest) = drawnCount rest + 1 :=
          List.countP_cons_of_pos (by simpa using drawn)
        simp only [drawn, true_imp_iff]
        rw [count, linesFilled_succ room]
        by_cases full : var.xres.toNat ≤ column + 8 + 16
        · have next : (cursor.next var.xres dots).At 0 (nextLine line) :=
            place.next_wrap (by omega) (by omega)
          rw [ih next (nextLine_ne line) (by omega), if_pos full, cycles_nextLine line]
          generalize linesFilled var.xres.toNat 0 (drawnCount rest) = lines
          unfold nextLine Cycles
          split <;> omega
        · have next : (cursor.next var.xres dots).At (column + cellWidth dots) line :=
            place.next_along other (by omega)
          rw [ih next other (by omega), if_neg full, width]
          generalize linesFilled var.xres.toNat (column + 8) (drawnCount rest) = lines
          unfold Cycles
          omega
      · have width : cellWidth dots = 0 := if_neg drawn
        have count : drawnCount (dots :: rest) = drawnCount rest :=
          List.countP_cons_of_neg (by simpa using drawn)
        have next : (cursor.next var.xres dots).At (column + cellWidth dots) line :=
          place.next_along other (by omega)
        rw [ih next other (by omega), count, width]
        simp [drawn]

/-- On a narrow screen every byte ends its line, by induction on the rest of the string with
the cursor generalized.
-/
theorem cellsFrom_fit_narrow (wide : 8 ≤ var.xres.toNat) (narrow : var.xres.toNat ≤ 16)
    {cursor : Cursor} {line : Nat} (place : cursor.At 0 line) (rest : List UInt8)
    : (∀ cell ∈ cellsFrom var.xres cursor (rest ++ [0]), cell.Fits var)
      ↔ ∀ index ≤ rest.length,
          Drawn (rest.getD index 0) → lineBelow line index + 16 ≤ var.yres.toNat := by
  induction rest generalizing cursor line with
  | nil =>
      rw [List.nil_append, cellsFrom_fit_cons place]
      simp [cellsFrom, lineBelow_zero, wide]
  | cons dots rest ih =>
      have inside := cellWidth_le dots
      have next : (cursor.next var.xres dots).At 0 (nextLine line) :=
        place.next_wrap (by omega) (by omega)
      have later := ih next
      simp only [lineBelow_nextLine] at later
      rw [List.cons_append, cellsFrom_fit_cons place, later]
      constructor
      · rintro ⟨first, later⟩ index inside drawn
        cases index with
        | zero =>
            rw [lineBelow_zero]
            exact (first drawn).2
        | succ index => exact later index (Nat.le_of_succ_le_succ inside) drawn
      · intro all
        constructor
        · intro drawn
          have first := all 0 (Nat.zero_le _) drawn
          rw [lineBelow_zero] at first
          omega
        · intro index inside drawn
          exact all (index + 1) (Nat.succ_le_succ inside) drawn

-----------------------------------------------------------------------------------------
-- All cells
-----------------------------------------------------------------------------------------

/-- A string fits from a start position on: its first byte, if that is drawn, and the rest
from there on.
-/
def TextFits (width height x y : Nat) : List UInt8 → Prop
  | [] => x + 8 ≤ width ∧ y + 16 ≤ height
  | first :: rest =>
      (Drawn first → x + 8 ≤ width ∧ y + 16 ≤ height)
      ∧ RestFits width height (secondPlace width x y first).1 (secondPlace width x y first).2 rest

/-- The cells of a string fit exactly if its text does. -/
theorem stringCells_fit_iff (wide : 8 ≤ var.xres.toNat) {x y : Nat} (inside : x ≤ var.xres.toNat)
    (str : List UInt8)
    : (∀ cell ∈ stringCells var.xres x y str, cell.Fits var)
      ↔ TextFits var.xres.toNat var.yres.toNat x y str := by
  have start := Cursor.at_start x y
  cases str with
  | nil =>
      rw [stringCells, List.nil_append, cellsFrom_fit_cons start]
      have nul : Drawn 0 := by decide
      simp [nul, cellsFrom, TextFits]
  | cons first rest =>
      rw [stringCells, List.cons_append, cellsFrom_fit_cons start, TextFits]
      apply and_congr_right
      intro fits
      have reached : x + cellWidth first ≤ var.xres.toNat := by
        unfold cellWidth
        split
        case isTrue drawn => exact (fits drawn).1
        case isFalse => exact inside
      have next := @Cursor.next_secondPlace var x y first reached
      have other := secondPlace_ne var.xres.toNat x y first
      unfold RestFits
      split
      case isTrue large => exact cellsFrom_fit_wide next other (secondPlace_settled large) rest
      case isFalse small =>
        have left : (secondPlace var.xres.toNat x y first).1 = 0 := by
          rw [secondPlace, if_pos (by omega)]
        rw [left] at next
        exact cellsFrom_fit_narrow wide (by omega) next rest

/-- Strings stay inside the screen exactly from the positions at which they fit. -/
theorem lcdPutString_inside_iff (screen : TextScreen var size) {x y : BitVec 32}
    (range : PositionInRange var x y) (color : BitVec 32) (str : List UInt8)
    : DrawsInside var x.toInt y.toInt color str
      ↔ TextFits var.xres.toNat var.yres.toNat x.toNat y.toNat str := by
  obtain ⟨narrow, low⟩ := screen.bounds
  obtain ⟨left, top⟩ := not_or.mp range
  rw [BitVec.not_lt, BitVec.le_def] at left top
  have column : x.toInt = x.toNat := BitVec.toInt_eq_toNat_of_lt (by omega)
  have line : y.toInt = y.toNat := BitVec.toInt_eq_toNat_of_lt (by omega)
  rw [column, line, screen.drawsInside_iff, stringCells_fit_iff screen.wide left]

/-- The screen of the driver. -/
theorem panel_textScreen : TextScreen (rgb565Screen 480 320) 2 :=
  ⟨⟨.inr (.inl rfl), rfl, by decide⟩, by decide, by decide⟩

/-- Witness: some text from the upper left corner of the panel. -/
theorem lcdPutString_inside_corner
    : DrawsInside (rgb565Screen 480 320) (0 : BitVec 32).toInt (0 : BitVec 32).toInt 0xFFFFFF
        [0x48, 0x69] :=
  (lcdPutString_inside_iff panel_textScreen (by unfold PositionInRange; decide) _ _).mpr
    ⟨by decide, .inl (by decide)⟩

/-- The check admits the column right of the panel, where the cell of a letter has no room. -/
theorem lcdPutString_right_edge
    : ¬ ∀ (var : FbVarScreeninfo) (size : Nat) (x y color : BitVec 32) (str : List UInt8),
          TextScreen var size
          → PositionInRange var x y
          → DrawsInside var x.toInt y.toInt color str := by
  intro inside
  have drawn := inside (rgb565Screen 480 320) 2 480 0 0xFFFFFF [0x41] panel_textScreen
    (by unfold PositionInRange; decide)
  have fits := (panel_textScreen.drawsInside_iff _ _ _ _).mp drawn
  have first := fits { x := 480, y := 0, character := 0x41 } (by decide)
  exact absurd first.right (by decide)

end DummyDrivers.FbStr
