import DummyDrivers.FbStr.TextBounds

/-! What a string leaves on the screen: the cells of its characters, the later ones over the
earlier ones. The loop draws the string's end as well, as a blank cell.
-/

namespace DummyDrivers.FbStr

open DummyDrivers.Blocks
open DummyDrivers.Fb

def Cell.Covers (cell : Cell) (x y : Nat) : Prop :=
  cell.x ≤ x ∧ x < cell.x + 8 ∧ cell.y ≤ y ∧ y < cell.y + 16

instance (cell : Cell) (x y : Nat) : Decidable (cell.Covers x y) :=
  inferInstanceAs (Decidable (_ ∧ _))

/-- The colour of a pixel that a cell covers: the requested one where the font's bit is set. -/
def Cell.colourAt (cell : Cell) (color : BitVec 32) (x y : Nat) : BitVec 32 :=
  let byte := fontByte (cell.character.toNat * 16 + (y - cell.y).toNat)
  if byte.toNat &&& 1 <<< (7 - (x - cell.x)).toNat ≠ 0 then color else 0

/-- The last cell that covers a pixel. -/
def lastCell (cells : List Cell) (x y : Nat) : Option Cell :=
  cells.reverse.find? fun cell => cell.Covers x y

/-- The bytes of a pixel after some cells. -/
def textPixel (size : Nat) (cells : List Cell) (color : BitVec 32) (x y : Nat)
    (before : List UInt8)
    : List UInt8 :=
  match lastCell cells x y with
  | some cell => pixelBytes size (cell.colourAt color x y)
  | none => before

/-- The cells of a string's own characters. -/
def ownCells (xres : BitVec 32) (x y : Int) (str : List UInt8) : List Cell :=
  cellsFrom xres { x, y, tempIndex := 0 } str

/-- The cursor after some bytes. -/
def cursorAfter (xres : BitVec 32) (cursor : Cursor) (bytes : List UInt8) : Cursor :=
  bytes.foldl (Cursor.next xres) cursor

/-- The cell in which the end of a string is drawn. -/
def endCell (xres : BitVec 32) (x y : Int) (str : List UInt8) : Cell :=
  let cursor := cursorAfter xres { x, y, tempIndex := 0 } str
  { x := cursor.column, y := cursor.y, character := 0 }

/-- The calls that draw the end of a string. -/
def endCalls (xres : BitVec 32) (x y : Int) (color : BitVec 32) (str : List UInt8)
    : List PixelCall :=
  ((endCell xres x y str).pixels color).map DrawnPixel.call

/-- The numbers of the pixels in which a string's end is stored, wherever its cell is. -/
def endPlaces (var : FbVarScreeninfo) (size : Nat) (x y : Int) (color : BitVec 32)
    (str : List UInt8)
    : List Nat :=
  (endCalls var.xres x y color str).map fun call => call.place var size

-----------------------------------------------------------------------------------------
-- The pixels of cells
-----------------------------------------------------------------------------------------

theorem lastColor_append (calls later : List PixelCall) (x y : Nat)
    : lastColor (calls ++ later) x y = (lastColor later x y).or (lastColor calls x y) := by
  rw [lastColor, List.reverse_append, List.find?_append, Option.map_or]
  rfl

theorem lastCell_cons (cell : Cell) (cells : List Cell) (x y : Nat)
    : lastCell (cell :: cells) x y
      = (lastCell cells x y).or (if cell.Covers x y then some cell else none) := by
  rw [lastCell, List.reverse_cons, List.find?_append]
  by_cases covers : cell.Covers x y <;> simp [lastCell, covers]

/-- All calls at a position have one colour. -/
theorem lastColor_of_same {calls : List PixelCall} {x y : Nat} {color : BitVec 32}
    (called : ∃ call ∈ calls, call.x.toNat = x ∧ call.y.toNat = y)
    (same : ∀ call ∈ calls, call.x.toNat = x → call.y.toNat = y → call.color = color)
    : lastColor calls x y = some color := by
  obtain ⟨call, member, column, line⟩ := called
  cases found : calls.reverse.find? fun call => call.x.toNat = x ∧ call.y.toNat = y with
  | none =>
      have absent := List.find?_eq_none.mp found call (List.mem_reverse.mpr member)
      simp [column, line] at absent
  | some last =>
      have place := List.find?_some found
      have listed := List.mem_reverse.mp (List.mem_of_find?_eq_some found)
      rw [decide_eq_true_eq] at place
      rw [lastColor, found, Option.map_some, same last listed place.1 place.2]

theorem lastColor_of_none {calls : List PixelCall} {x y : Nat}
    (none : ∀ call ∈ calls, call.x.toNat = x → call.y.toNat ≠ y)
    : lastColor calls x y = .none := by
  rw [lastColor, Option.map_eq_none_iff, List.find?_eq_none]
  intro call member
  have elsewhere := none call (List.mem_reverse.mp member)
  simpa using elsewhere

variable {var : FbVarScreeninfo} {size : Nat}

theorem DrawnPixel.OnScreen.call_toNat (screen : TextScreen var size) {pixel : DrawnPixel}
    (onScreen : pixel.OnScreen var)
    : (pixel.call.x.toNat : Int) = pixel.x ∧ (pixel.call.y.toNat : Int) = pixel.y := by
  obtain ⟨left, right, top, bottom⟩ := onScreen
  obtain ⟨wide, tall⟩ := screen.bounds
  constructor
  · change ((BitVec.ofInt 32 pixel.x).toNat : Int) = _
    rw [BitVec.toNat_ofInt]
    omega
  · change ((BitVec.ofInt 32 pixel.y).toNat : Int) = _
    rw [BitVec.toNat_ofInt]
    omega

/-- The calls for a cell that fits are at the pixels that it covers. -/
theorem Cell.Fits.called_iff (screen : TextScreen var size) {cell : Cell}
    (fits : cell.Fits var) (color : BitVec 32) (x y : Nat)
    : (∃ pixel ∈ cell.pixels color, pixel.call.x.toNat = x ∧ pixel.call.y.toNat = y)
      ↔ cell.Covers x y := by
  have onScreen := (cell.fits_iff color).mpr fits
  constructor
  · rintro ⟨pixel, member, sameX, sameY⟩
    obtain ⟨callX, callY⟩ := (onScreen pixel member).call_toNat screen
    obtain ⟨row, rowInside, column, columnInside, rfl⟩ := mem_asciiPixels.mp member
    rw [sameX] at callX
    rw [sameY] at callY
    simp only [asciiPixel] at callX callY
    unfold Cell.Covers
    omega
  · rintro ⟨left, right, top, bottom⟩
    have row : (y - cell.y).toNat < 16 := by omega
    have column : (7 - (x - cell.x)).toNat < 8 := by omega
    have member := mem_asciiPixels.mpr
      ⟨(y - cell.y).toNat, row, (7 - (x - cell.x)).toNat, column,
        (rfl : asciiPixel cell.x cell.y color cell.character _ _ = _)⟩
    obtain ⟨callX, callY⟩ := (onScreen _ member).call_toNat screen
    refine ⟨_, member, ?_, ?_⟩
    · simp only [asciiPixel] at callX
      simp only [asciiPixel]
      omega
    · simp only [asciiPixel] at callY
      simp only [asciiPixel]
      omega

/-- The calls for a cell that fits: one colour at each pixel that it covers. -/
theorem Cell.Fits.lastColor (screen : TextScreen var size) {cell : Cell} (fits : cell.Fits var)
    (color : BitVec 32) (x y : Nat)
    : lastColor ((cell.pixels color).map DrawnPixel.call) x y
      = if cell.Covers x y then some (cell.colourAt color x y) else none := by
  have called := fits.called_iff screen color x y
  by_cases covers : cell.Covers x y
  · rw [if_pos covers]
    obtain ⟨pixel, member, place⟩ := called.mpr covers
    refine lastColor_of_same ⟨_, List.mem_map_of_mem member, place⟩ ?_
    intro call listed sameX sameY
    obtain ⟨pixel, member, rfl⟩ := List.mem_map.mp listed
    have onScreen := (cell.fits_iff color).mpr fits pixel member
    obtain ⟨callX, callY⟩ := onScreen.call_toNat screen
    obtain ⟨row, rowInside, column, columnInside, rfl⟩ := mem_asciiPixels.mp member
    rw [sameX] at callX
    rw [sameY] at callY
    simp only [asciiPixel] at callX callY
    have equalRow : (y - cell.y).toNat = row := by omega
    have equalColumn : (7 - (x - cell.x)).toNat = column := by omega
    rw [Cell.colourAt, equalRow, equalColumn]
    rfl
  · rw [if_neg covers]
    apply lastColor_of_none
    intro call listed sameX sameY
    obtain ⟨pixel, member, rfl⟩ := List.mem_map.mp listed
    exact covers (called.mp ⟨pixel, member, sameX, sameY⟩)

/-- The last call at a pixel belongs to the last cell over it, by induction on the cells. -/
theorem lastColor_cells (screen : TextScreen var size) {cells : List Cell}
    (fit : ∀ cell ∈ cells, cell.Fits var) (color : BitVec 32) (x y : Nat)
    : lastColor ((cells.flatMap (Cell.pixels color)).map DrawnPixel.call) x y
      = (lastCell cells x y).map fun cell => cell.colourAt color x y := by
  induction cells with
  | nil => rfl
  | cons cell cells ih =>
      have first := fit cell List.mem_cons_self
      have rest := ih fun other member => fit other (List.mem_cons_of_mem _ member)
      rw [List.flatMap_cons, List.map_append, lastColor_append, rest, first.lastColor screen,
        lastCell_cons, Option.map_or]
      by_cases covers : cell.Covers x y <;> simp [covers]

/-- The cells of some bytes and of those after them, by induction on the bytes with the
cursor generalized.
-/
theorem cellsFrom_append (xres : BitVec 32) (cursor : Cursor) (bytes later : List UInt8)
    : cellsFrom xres cursor (bytes ++ later)
      = cellsFrom xres cursor bytes ++ cellsFrom xres (cursorAfter xres cursor bytes) later := by
  induction bytes generalizing cursor with
  | nil => rfl
  | cons dots bytes ih =>
      rw [List.cons_append, cellsFrom_cons, cellsFrom_cons, ih, List.append_assoc]
      rfl

/-- The string's end is drawn after its own characters. -/
theorem stringCells_eq (xres : BitVec 32) (x y : Int) (str : List UInt8)
    : stringCells xres x y str = ownCells xres x y str ++ [endCell xres x y str] := by
  rw [stringCells, cellsFrom_append]
  rfl

/-- What cells on the screen leave there. -/
theorem TextScreen.lcdPutCells_ok (screen : TextScreen var size) {cells : List Cell}
    (fit : ∀ cell ∈ cells, cell.Fits var) (color : BitVec 32) {memory : List UInt8}
    (mapped : memory.length = size * (var.xres.toNat * var.yres.toNat))
    : ∃ final,
        lcdPutPixels (Screen.init var) memory
            ((cells.flatMap (Cell.pixels color)).map DrawnPixel.call)
          = .ok final
        ∧ final.length = memory.length
        ∧ ∀ column line,
            column < var.xres.toNat
            → line < var.yres.toNat
            → block size final (line * var.xres.toNat + column)
              = textPixel size cells color column line
                  (block size memory (line * var.xres.toNat + column)) := by
  have calls := screen.calls_onScreen fit color
  obtain ⟨final, ran, length, held⟩ := screen.toPixelSize.lcdPutPixels_ok mapped.ge calls
  refine ⟨final, ran, length, ?_⟩
  intro column line columnInside lineInside
  rw [held column line columnInside lineInside, bytesAfter, lastColor_cells screen fit,
    textPixel]
  cases lastCell cells column line <;> rfl

/-- The end of a string is drawn over its text. -/
theorem lcdPutString_over_text {screen : Screen} {memory text : List UInt8} {x y : Int}
    {color : BitVec 32} {str : List UInt8}
    (drawn
      : lcdPutPixels screen memory
            (((ownCells screen.var.xres x y str).flatMap (Cell.pixels color)).map
              DrawnPixel.call)
          = .ok text)
    : lcdPutString screen memory x y color str
      = lcdPutPixels screen text (endCalls screen.var.xres x y color str) := by
  rw [lcdPutString_eq_lcdPutPixels, stringPixels, stringCells_eq, List.flatMap_append,
    List.flatMap_singleton, List.map_append, lcdPutPixels_append, drawn]
  rfl

/-- It is drawn with nothing but zeros. -/
theorem endCalls_color {xres : BitVec 32} {x y : Int} {color : BitVec 32} {str : List UInt8}
    : ∀ call ∈ endCalls xres x y color str, call.color = 0 := by
  intro call member
  obtain ⟨pixel, listed, rfl⟩ := List.mem_map.mp member
  obtain ⟨row, inside, column, _, rfl⟩ := mem_asciiPixels.mp listed
  have nul : (endCell xres x y str).character.toNat * 16 = 0 := rfl
  rw [DrawnPixel.call, asciiPixel, nul, Nat.zero_add, fontByte_nul inside]
  simp

-----------------------------------------------------------------------------------------
-- Bytes that are not drawn
-----------------------------------------------------------------------------------------

/-- Two cursors draw the next character at the same place. -/
def Cursor.SamePlace (cursor other : Cursor) : Prop :=
  cursor.column = other.column ∧ cursor.y = other.y

/-- Bytes that are not drawn leave the cursor in its place. -/
def SkipsStill (xres : BitVec 32) (cursor : Cursor) : List UInt8 → Prop
  | [] => True
  | dots :: rest =>
      (¬ Drawn dots → (cursor.next xres dots).SamePlace cursor)
      ∧ SkipsStill xres (cursor.next xres dots) rest

/-- The inputs whose skipped bytes do not move the cursor: there are none, or the screen is
wider than two cells and the first byte is drawn, or the first byte is skipped with more room
than two cells, not on the line that returns to the top.
-/
def FewMoves (xres x y : BitVec 32) (str : List UInt8) : Prop :=
  (∀ dots ∈ str, Drawn dots)
  ∨ ∀ first ∈ str.head?, if Drawn first then 16 < xres else 16 < xres - x ∧ y ≠ 64

/-- On a wide screen nothing moves a settled cursor without drawing, by induction on the
bytes with the cursor generalized.
-/
theorem skipsStill_wide {cursor : Cursor} {column line : Nat} (place : cursor.At column line)
    (other : line ≠ 64) (room : column + 16 < var.xres.toNat) (bytes : List UInt8)
    : SkipsStill var.xres cursor bytes := by
  induction bytes generalizing cursor column line with
  | nil => trivial
  | cons dots bytes ih =>
      have next := place.next_settled dots other room
      have wide : 16 < var.xres.toNat := Nat.lt_of_le_of_lt (Nat.le_add_left _ _) room
      refine ⟨?_, ih next (secondPlace_ne _ _ _ dots) (secondPlace_settled wide)⟩
      intro skipped
      have width : cellWidth dots = 0 := if_neg skipped
      have still : secondPlace var.xres.toNat column line dots = (column, line) := by
        rw [secondPlace, width, if_neg (by omega), if_neg other]
        rfl
      rw [still] at next
      exact ⟨next.column.trans place.column.symm, next.line.trans place.line.symm⟩

/-- On a narrow screen every byte moves the cursor, by induction on the bytes with the
cursor generalized.
-/
theorem skipsStill_narrow (wide : 8 ≤ var.xres.toNat) (narrow : var.xres.toNat ≤ 16)
    {cursor : Cursor} {line : Nat} (place : cursor.At 0 line) (bytes : List UInt8)
    : SkipsStill var.xres cursor bytes ↔ ∀ dots ∈ bytes, Drawn dots := by
  induction bytes generalizing cursor line with
  | nil => simp [SkipsStill]
  | cons dots bytes ih =>
      have inside := cellWidth_le dots
      have next : (cursor.next var.xres dots).At 0 (nextLine line) :=
        place.next_wrap (by omega) (by omega)
      have moved : ¬ (cursor.next var.xres dots).SamePlace cursor := by
        intro same
        have line := next.line.symm.trans (same.2.trans place.line)
        unfold nextLine at line
        split at line <;> omega
      rw [SkipsStill, ih next, List.forall_mem_cons]
      apply and_congr_left
      intro _
      constructor
      · intro still
        by_contra skipped
        exact moved (still skipped)
      · exact fun drawn skipped => absurd drawn skipped

/-- A byte that is not drawn keeps the place if the room is enough and the line is not the
last one before the top.
-/
theorem Cursor.next_samePlace_iff {xres : BitVec 32} (cursor : Cursor) {dots : UInt8}
    (skipped : ¬ Drawn dots)
    : (cursor.next xres dots).SamePlace cursor
      ↔ ¬ xres - BitVec.ofInt 32 cursor.column ≤ 16 ∧ cursor.y ≠ 64 := by
  have kept : cursor.advance dots = cursor := if_neg skipped
  unfold Cursor.next Cursor.SamePlace
  dsimp only
  rw [kept]
  by_cases wraps : xres - BitVec.ofInt 32 cursor.column ≤ 16
  · rw [if_pos wraps]
    refine iff_of_false ?_ fun still => still.1 wraps
    rintro ⟨_, line⟩
    dsimp only at line
    split at line
    case isTrue last =>
      have top : (0 : Int) = cursor.y := line
      omega
    case isFalse =>
      have below : cursor.y + 16 = cursor.y := line
      omega
  · rw [if_neg wraps]
    by_cases last : cursor.y = 64
    · rw [if_pos last]
      refine iff_of_false ?_ fun still => still.2 last
      rintro ⟨_, line⟩
      dsimp only at line
      omega
    · rw [if_neg last]
      exact iff_of_true ⟨rfl, rfl⟩ ⟨wraps, last⟩

/-- Such a byte changes nothing at all. -/
theorem Cursor.next_eq {xres : BitVec 32} {cursor : Cursor} {dots : UInt8}
    (skipped : ¬ Drawn dots) (room : ¬ xres - BitVec.ofInt 32 cursor.column ≤ 16)
    (other : cursor.y ≠ 64)
    : cursor.next xres dots = cursor := by
  have kept : cursor.advance dots = cursor := if_neg skipped
  unfold Cursor.next
  dsimp only
  rw [kept, if_neg room, if_neg other]

/-- From a cursor that skipped bytes do not move, the next cell is on the screen, and from
there on nothing moves it either. By induction on the bytes.
-/
theorem skipsStill_of_room {cursor : Cursor}
    (room : ¬ var.xres - BitVec.ofInt 32 cursor.column ≤ 16) (other : cursor.y ≠ 64)
    {bytes : List UInt8} (fit : ∀ cell ∈ cellsFrom var.xres cursor bytes, cell.Fits var)
    : SkipsStill var.xres cursor bytes := by
  induction bytes with
  | nil => trivial
  | cons dots bytes ih =>
      rw [cellsFrom_cons, List.forall_mem_append] at fit
      obtain ⟨head, later⟩ := fit
      by_cases drawn : Drawn dots
      · rw [if_pos drawn] at head
        obtain ⟨left, right, top, _⟩ := head _ List.mem_cons_self
        dsimp only at left right top
        have column : (cursor.column.toNat : Int) = cursor.column := Int.toNat_of_nonneg left
        have line : (cursor.y.toNat : Int) = cursor.y := Int.toNat_of_nonneg top
        rw [← column, room_le_iff (by omega)] at room
        exact skipsStill_wide ⟨column.symm, line.symm⟩ (by omega) (by omega) (dots :: bytes)
      · have kept := Cursor.next_eq drawn room other
        rw [kept] at later
        rw [SkipsStill, kept]
        exact ⟨fun _ => ⟨rfl, rfl⟩, ih later⟩

/-- Where all cells stay on the screen, skipped bytes leave the cursor in its place exactly
for these inputs.
-/
theorem skipsStill_iff (screen : TextScreen var size) {x y : BitVec 32} {str : List UInt8}
    (fit : ∀ cell ∈ ownCells var.xres x.toInt y.toInt str, cell.Fits var)
    : SkipsStill var.xres { x := x.toInt, y := y.toInt, tempIndex := 0 } str
      ↔ FewMoves var.xres x y str := by
  cases str with
  | nil => simp [SkipsStill, FewMoves]
  | cons first rest =>
      have column : Cursor.column { x := x.toInt, y := y.toInt, tempIndex := 0 } = x.toInt := by
        simp [Cursor.column]
      by_cases drawn : Drawn first
      · have width : cellWidth first = 8 := if_pos drawn
        have moves : FewMoves var.xres x y (first :: rest)
            ↔ (∀ dots ∈ rest, Drawn dots) ∨ 16 < var.xres.toNat := by
          simp [FewMoves, drawn, BitVec.lt_def]
        rw [ownCells, cellsFrom_cons, List.forall_mem_append, if_pos drawn] at fit
        obtain ⟨left, right, top, _⟩ := fit.1 _ List.mem_cons_self
        dsimp only at left right top
        rw [column] at left right
        have next := @Cursor.next_secondPlace var x.toInt.toNat y.toInt.toNat first (by omega)
        rw [Int.toNat_of_nonneg left, Int.toNat_of_nonneg top] at next
        rw [moves]
        simp only [SkipsStill, drawn, not_true, false_imp_iff, true_and]
        rcases Nat.lt_or_ge 16 var.xres.toNat with large | small
        · have still := skipsStill_wide next (secondPlace_ne _ _ _ first)
            (secondPlace_settled large) rest
          simp [still, large]
        · have start : (secondPlace var.xres.toNat x.toInt.toNat y.toInt.toNat first).1 = 0 := by
            rw [secondPlace, if_pos (by omega)]
          rw [start] at next
          rw [skipsStill_narrow screen.wide small next]
          simp [Nat.not_lt_of_ge small]
      · have moves : FewMoves var.xres x y (first :: rest) ↔ 16 < var.xres - x ∧ y ≠ 64 := by
          simp [FewMoves, drawn]
        have sixtyFour : y.toInt ≠ 64 ↔ y ≠ 64 := (@BitVec.toInt_inj 32 y 64).not
        have still := @Cursor.next_samePlace_iff var.xres
          { x := x.toInt, y := y.toInt, tempIndex := 0 } first drawn
        rw [column, BitVec.ofInt_toInt, BitVec.not_le, sixtyFour] at still
        rw [moves, ← still]
        constructor
        · exact fun skips => skips.1 drawn
        · intro same
          obtain ⟨room, other⟩ := (Cursor.next_samePlace_iff _ drawn).mp same
          exact skipsStill_of_room room other fit

-----------------------------------------------------------------------------------------
-- The picture
-----------------------------------------------------------------------------------------

/-- A string leaves its own characters on the screen and every other pixel as it was. -/
def LeavesText (var : FbVarScreeninfo) (size : Nat) (x y : Int) (color : BitVec 32)
    (str memory : List UInt8) : Prop :=
  ∃ final,
    lcdPutString (Screen.init var) memory x y color str = .ok final
    ∧ ∀ column line,
        column < var.xres.toNat
        → line < var.yres.toNat
        → block size final (line * var.xres.toNat + column)
          = textPixel size (ownCells var.xres x y str) color column line
              (block size memory (line * var.xres.toNat + column))

/-- A string is drawn right: bytes with their high bit set do not move the cursor, and the
text is all that changes.
-/
structure DrawsText (var : FbVarScreeninfo) (size : Nat) (x y : Int) (color : BitVec 32)
    (str memory : List UInt8) : Prop where
  still : SkipsStill var.xres { x, y, tempIndex := 0 } str
  picture : LeavesText var size x y color str memory

/-- The string's end is stored in pixels of the screen that are zero in the picture of the
text.
-/
def EndBlank (var : FbVarScreeninfo) (size : Nat) (x y : Int) (color : BitVec 32)
    (str memory : List UInt8) : Prop :=
  ∀ place ∈ endPlaces var size x y color str,
    place < var.xres.toNat * var.yres.toNat
    ∧ textPixel size (ownCells var.xres x y str) color (place % var.xres.toNat)
        (place / var.xres.toNat) (block size memory place)
      = pixelBytes size 0

/-- Where a string's end has its cell on the screen, its places are the pixels it covers. -/
theorem mem_endPlaces_iff (screen : TextScreen var size) {x y : Int} {str : List UInt8}
    (fits : (endCell var.xres x y str).Fits var) (color : BitVec 32) {place : Nat}
    : place ∈ endPlaces var size x y color str
      ↔ ∃ column line,
          (endCell var.xres x y str).Covers column line
          ∧ line * var.xres.toNat + column = place := by
  have onScreen := ((endCell var.xres x y str).fits_iff color).mpr fits
  rw [endPlaces, endCalls, List.map_map, List.mem_map]
  constructor
  · rintro ⟨pixel, member, rfl⟩
    have covers := (fits.called_iff screen color _ _).mp ⟨pixel, member, rfl, rfl⟩
    have place := screen.toPixelSize.place_eq ((onScreen pixel member).call screen)
    exact ⟨_, _, covers, place.symm⟩
  · rintro ⟨column, line, covers, rfl⟩
    obtain ⟨pixel, member, rfl, rfl⟩ := (fits.called_iff screen color _ _).mpr covers
    exact ⟨pixel, member, screen.toPixelSize.place_eq ((onScreen pixel member).call screen)⟩

/-- The text is all that changes exactly if the pixels at the string's end are blank. -/
theorem TextScreen.leavesText_iff (screen : TextScreen var size) {x y : Int} {str : List UInt8}
    (fit : ∀ cell ∈ ownCells var.xres x y str, cell.Fits var) (color : BitVec 32)
    {memory : List UInt8} (mapped : memory.length = (screenSize var).toNat)
    : LeavesText var size x y color str memory ↔ EndBlank var size x y color str memory := by
  have pixels := screen.toPixelSize
  have columns : 0 < var.xres.toNat := Nat.zero_lt_of_lt screen.wide
  have lines : 0 < var.yres.toNat := Nat.zero_lt_of_lt screen.tall
  rw [screen.screenSize_toNat] at mapped
  obtain ⟨text, drawn, length, picture⟩ := screen.lcdPutCells_ok fit color mapped
  have ends : lcdPutString (Screen.init var) memory x y color str
      = lcdPutPixels (Screen.init var) text (endCalls var.xres x y color str) :=
    lcdPutString_over_text drawn
  rw [mapped] at length
  constructor
  · rintro ⟨final, ran, wanted⟩
    rw [ends] at ran
    have inside := pixels.places_of_ok lines ran
    obtain ⟨final', ran', shown⟩ := pixels.lcdPutPixels_same lines endCalls_color inside
    obtain rfl := Except.ok.inj (ran'.symm.trans ran)
    intro place member
    have bound : place < var.xres.toNat * var.yres.toNat := by
      obtain ⟨call, listed, rfl⟩ := List.mem_map.mp member
      have stored := inside call listed
      rw [length, ← Nat.mul_succ] at stored
      exact Nat.le_of_mul_le_mul_left stored pixels.positive
    have raster := Nat.div_add_mod' place var.xres.toNat
    have zero := wanted _ _ (Nat.mod_lt place columns) (Nat.div_lt_of_lt_mul bound)
    rw [raster, shown, ← endPlaces, if_pos member] at zero
    exact ⟨bound, zero.symm⟩
  · intro condition
    have inside (call : PixelCall) (member : call ∈ endCalls var.xres x y color str)
        : size * call.place var size + size ≤ text.length := by
      obtain ⟨bound, _⟩ := condition (call.place var size) (List.mem_map_of_mem member)
      rw [length]
      exact block_end size bound
    obtain ⟨final, ran, shown⟩ := pixels.lcdPutPixels_same lines endCalls_color inside
    refine ⟨final, ends.trans ran, ?_⟩
    intro column line columnInside lineInside
    rw [shown, ← endPlaces]
    by_cases member : line * var.xres.toNat + column ∈ endPlaces var size x y color str
    · obtain ⟨_, zero⟩ := condition _ member
      rw [raster_mod columnInside, raster_div columnInside] at zero
      rw [if_pos member, zero]
    · rw [if_neg member, picture column line columnInside lineInside]

/-- Where all cells of a string stay on the screen, it is drawn right exactly if no skipped
byte moves the cursor and the pixels at its end are blank already.
-/
theorem lcdPutString_text_iff (screen : TextScreen var size) {x y : BitVec 32}
    {str : List UInt8}
    (fit : ∀ cell ∈ ownCells var.xres x.toInt y.toInt str, cell.Fits var)
    (color : BitVec 32) {memory : List UInt8}
    (mapped : memory.length = (screenSize var).toNat)
    : DrawsText var size x.toInt y.toInt color str memory
      ↔ FewMoves var.xres x y str ∧ EndBlank var size x.toInt y.toInt color str memory := by
  rw [← skipsStill_iff screen fit, ← screen.leavesText_iff fit color mapped]
  constructor
  · exact fun right => ⟨right.still, right.picture⟩
  · exact fun right => ⟨right.1, right.2⟩

/-- The letter A in the upper left corner of the panel. -/
theorem letter_fits
    : ∀ cell ∈ stringCells (rgb565Screen 480 320).xres (0 : BitVec 32).toInt (0 : BitVec 32).toInt
        [0x41],
      cell.Fits (rgb565Screen 480 320) := by
  have cells : stringCells (rgb565Screen 480 320).xres (0 : BitVec 32).toInt
      (0 : BitVec 32).toInt [0x41]
      = [{ x := 0, y := 0, character := 0x41 }, { x := 8, y := 0, character := 0 }] := by
    decide
  rw [cells]
  intro cell member
  rcases List.mem_pair.mp member with rfl | rfl <;> constructor <;> decide

theorem letter_ownFits
    : ∀ cell ∈ ownCells (rgb565Screen 480 320).xres (0 : BitVec 32).toInt (0 : BitVec 32).toInt
        [0x41],
      cell.Fits (rgb565Screen 480 320) := by
  intro cell member
  refine letter_fits cell ?_
  rw [stringCells_eq]
  exact List.mem_append_left _ member

/-- The memory of the panel, filled with one byte. -/
def filledPanel (byte : UInt8) : List UInt8 := List.replicate (2 * (480 * 320)) byte

theorem filledPanel_mapped (byte : UInt8)
    : (filledPanel byte).length = (screenSize (rgb565Screen 480 320)).toNat := by
  rw [filledPanel, List.length_replicate]
  decide

/-- The letter has no part in the pixels at its end. -/
theorem letter_end {place : Nat} (byte : UInt8)
    (member
      : place ∈ endPlaces (rgb565Screen 480 320) 2 (0 : BitVec 32).toInt (0 : BitVec 32).toInt
          0xFFFFFF [0x41])
    : place < 480 * 320
      ∧ textPixel 2
          (ownCells (rgb565Screen 480 320).xres (0 : BitVec 32).toInt (0 : BitVec 32).toInt
            [0x41])
          0xFFFFFF (place % 480) (place / 480) (block 2 (filledPanel byte) place)
        = [byte, byte] := by
  have after : endCell (rgb565Screen 480 320).xres (0 : BitVec 32).toInt (0 : BitVec 32).toInt
      [0x41] = { x := 8, y := 0, character := 0 } := by
    decide
  have own : ownCells (rgb565Screen 480 320).xres (0 : BitVec 32).toInt (0 : BitVec 32).toInt
      [0x41] = [{ x := 0, y := 0, character := 0x41 }] := by
    decide
  have width : (rgb565Screen 480 320).xres.toNat = 480 := rfl
  obtain ⟨column, line, covers, raster⟩ := (mem_endPlaces_iff panel_textScreen
    (letter_fits _ (by simp [stringCells_eq])) _).mp member
  rw [after] at covers
  rw [width] at raster
  obtain ⟨left, right, top, bottom⟩ := covers
  dsimp only at left right top bottom
  have outside : ¬ Cell.Covers { x := 0, y := 0, character := 0x41 } (place % 480)
      (place / 480) := by
    unfold Cell.Covers
    dsimp only
    omega
  have bare : lastCell [{ x := 0, y := 0, character := 0x41 }] (place % 480) (place / 480)
      = none := by
    simp [lastCell, outside]
  have bound : place < 480 * 320 := by omega
  rw [own, textPixel, bare]
  exact ⟨bound, block_replicate byte (by omega)⟩

/-- Witness: the letter on a black panel. -/
theorem lcdPutString_text_letter
    : DrawsText (rgb565Screen 480 320) 2 (0 : BitVec 32).toInt (0 : BitVec 32).toInt 0xFFFFFF
        [0x41] (filledPanel 0) :=
  (lcdPutString_text_iff panel_textScreen letter_ownFits _ (filledPanel_mapped 0)).mpr
    ⟨.inl (List.forall_mem_singleton.mpr (by decide)), fun _ member => letter_end 0 member⟩

/-- On a white panel the end of the string wipes the cell after the letter, although all
cells are on the screen.
-/
theorem lcdPutString_text_wiped
    : ¬ ∀ (var : FbVarScreeninfo) (size : Nat) (x y color : BitVec 32)
          (str memory : List UInt8),
          TextScreen var size
          → (∀ cell ∈ stringCells var.xres x.toInt y.toInt str, cell.Fits var)
          → memory.length = (screenSize var).toNat
          → DrawsText var size x.toInt y.toInt color str memory := by
  intro right
  have wanted := (right (rgb565Screen 480 320) 2 0 0 0xFFFFFF [0x41] _ panel_textScreen
    letter_fits (filledPanel_mapped 0xFF)).picture
  have blank := (panel_textScreen.leavesText_iff letter_ownFits _ (filledPanel_mapped 0xFF)).mp
    wanted
  have covers : (endCell (rgb565Screen 480 320).xres (0 : BitVec 32).toInt
      (0 : BitVec 32).toInt [0x41]).Covers 8 0 := by
    decide
  have member := (mem_endPlaces_iff panel_textScreen
    (letter_fits _ (by simp [stringCells_eq])) 0xFFFFFF).mpr ⟨8, 0, covers, rfl⟩
  have black := (blank _ member).2
  have white := (letter_end 0xFF member).2
  exact absurd (white.symm.trans black) (by decide)

end DummyDrivers.FbStr
