import Mathlib.Data.Nat.Notation

/-! A terminal that follows control sequences, and what a text draws on its screen.

Of the control functions the terminal knows the cursor's position, the erasing of the whole
display, the cursor's visibility, and of the character attributes the reset, inverse video
and the colours of 24 bits; other sequences and other control characters leave the screen as
it is. A line feed takes the cursor to the first column, as the line discipline of a terminal
makes it do. Every other character takes one cell.
-/

namespace DummyDrivers.Terminal

structure Colour where
  red : Nat
  green : Nat
  blue : Nat
  deriving DecidableEq, Repr

/-- The attributes of a cell; without a colour, it has the terminal's own one. -/
structure Style where
  foreground : Option Colour
  background : Option Colour
  inverse : Bool
  deriving DecidableEq, Repr

def Style.plain : Style := { foreground := none, background := none, inverse := false }

structure Cell where
  glyph : Char
  style : Style
  deriving DecidableEq, Repr

/-- An erased cell. It keeps the background that is selected. -/
def Style.erased (style : Style) : Cell :=
  { glyph := ' ', style := { Style.plain with background := style.background } }

structure Size where
  columns : Nat
  lines : Nat

/-- How far a control sequence has been read: its marker, the parameters that are complete
and the number that is being read.
-/
inductive Mode where
  | ground
  | escape
  | control (marked : Bool) (parameters : List Nat) (number : Nat)
  deriving DecidableEq, Repr

/-- The cells by line and column, and where the cursor stands. It stands one column behind
the last one as long as no character follows there.
-/
structure Screen where
  cells : Nat → Nat → Cell
  line : Nat
  column : Nat
  style : Style
  cursorShown : Bool
  mode : Mode

/-- The attributes that a sequence of parameters selects. -/
def Style.select (style : Style) : List Nat → Style
  | [] => style
  | 0 :: rest => Style.plain.select rest
  | 7 :: rest => { style with inverse := true }.select rest
  | 38 :: 2 :: red :: green :: blue :: rest =>
      { style with foreground := some { red, green, blue } }.select rest
  | 48 :: 2 :: red :: green :: blue :: rest =>
      { style with background := some { red, green, blue } }.select rest
  | _ :: rest => style.select rest

section

variable (size : Size) (s : Screen)

/-- The cursor goes to the start of the next line; on the last line, the screen scrolls. -/
def Screen.lineFeed : Screen :=
  if s.line + 1 < size.lines then
    { s with line := s.line + 1, column := 0 }
  else
    {
      s with
      column := 0
      cells := fun line column =>
        if line + 1 < size.lines then s.cells (line + 1) column else s.style.erased
    }

/-- The cells after a cell has been written. -/
def Screen.put (cell : Cell) : Nat → Nat → Cell :=
  fun line column => if line = s.line ∧ column = s.column then cell else s.cells line column

/-- A character is written, on the next line if this one is full. -/
def Screen.print (glyph : Char) : Screen :=
  let s := if s.column < size.columns then s else s.lineFeed size
  { s with cells := s.put { glyph, style := s.style }, column := s.column + 1 }

/-- A complete control sequence. -/
def Screen.perform (marked : Bool) (parameters : List Nat) (final : Char) : Screen :=
  match marked, final with
  | false, 'm' => { s with style := s.style.select parameters }
  | false, 'H' =>
      {
        s with
        line := min (parameters.getD 0 1 - 1) (size.lines - 1)
        column := min (parameters.getD 1 1 - 1) (size.columns - 1)
      }
  | false, 'J' => if parameters = [2] then { s with cells := fun _ _ => s.style.erased } else s
  | true, 'h' => if 25 ∈ parameters then { s with cursorShown := true } else s
  | true, 'l' => if 25 ∈ parameters then { s with cursorShown := false } else s
  | _, _ => s

/-- A character is read. An escape character starts a new sequence wherever it comes. -/
def Screen.feed (character : Char) : Screen :=
  if character = '\x1b' then
    { s with mode := .escape }
  else
    match s.mode with
    | .ground =>
        if character = '\n' then
          s.lineFeed size
        else if character < ' ' then
          s
        else
          s.print size character
    | .escape => { s with mode := if character = '[' then .control false [] 0 else .ground }
    | .control marked parameters number =>
        if character.isDigit then
          let digit := character.toNat - '0'.toNat
          { s with mode := .control marked parameters (10 * number + digit) }
        else if character = ';' then
          { s with mode := .control marked (parameters ++ [number]) 0 }
        else if character = '?' then
          { s with mode := .control true parameters number }
        else
          { s with mode := .ground }.perform size marked (parameters ++ [number]) character

/-- A text is read. -/
def Screen.read (text : List Char) : Screen := text.foldl (Screen.feed size) s

end

variable {size : Size}

theorem read_append (s : Screen) (text more : List Char)
    : s.read size (text ++ more) = (s.read size text).read size more := List.foldl_append

/-- The digits of a number are read as the number, by induction on the digits. -/
theorem read_digits (s : Screen) (marked : Bool) (parameters : List Nat) {digits : List Char}
    (decimal : ∀ digit ∈ digits, digit.isDigit) (number : Nat)
    : { s with mode := .control marked parameters number }.read size digits
      = { s with mode := .control marked parameters (Nat.ofDigitChars 10 digits number) } := by
  induction digits generalizing number with
  | nil => rfl
  | cons digit rest ih =>
      have first : digit.isDigit := decimal digit List.mem_cons_self
      have plain : digit ≠ '\x1b' := by
        intro escape
        rw [escape] at first
        contradiction
      have fed : Screen.feed size { s with mode := .control marked parameters number } digit
          = { s with
              mode := .control marked parameters (10 * number + (digit.toNat - '0'.toNat)) } := by
        rw [Screen.feed, if_neg plain]
        exact if_pos first
      rw [Screen.read, List.foldl_cons, fed, Nat.ofDigitChars_cons]
      exact ih (fun digit member => decimal digit (List.mem_cons_of_mem _ member)) _

theorem read_number (s : Screen) (marked : Bool) (parameters : List Nat) (number : Nat)
    : { s with mode := .control marked parameters 0 }.read size (toString number).toList
      = { s with mode := .control marked parameters number } := by
  have digits : (toString number).toList = Nat.toDigits 10 number := Nat.toList_repr
  rw [digits, read_digits, Nat.ofDigitChars_ten_toDigits]
  intro digit member
  exact Nat.isDigit_of_mem_toDigits (by decide) (by decide) member

/-- The parameters of a colour. -/
def Colour.parameters (colour : Colour) : List Char :=
  (toString colour.red).toList
  ++ ';' :: ((toString colour.green).toList ++ ';' :: (toString colour.blue).toList)

theorem read_colour (s : Screen) (marked : Bool) (parameters : List Nat) (colour : Colour)
    : { s with mode := .control marked parameters 0 }.read size colour.parameters
      = {
          s with
          mode := .control marked (parameters ++ [colour.red] ++ [colour.green]) colour.blue
        } := by
  have separated (parameters : List Nat) (number : Nat) (text : List Char)
      : { s with mode := .control marked parameters number }.read size (';' :: text)
        = { s with mode := .control marked (parameters ++ [number]) 0 }.read size text := rfl
  rw [Colour.parameters, read_append, read_number, separated, read_append, read_number,
    separated, read_number]

/-- The text that selects a colour, up to the colour's parameters. -/
theorem read_selector (s : Screen) (plane : Nat)
    : s.read size ("\x1b[".toList ++ ((toString plane).toList ++ ";2;".toList))
      = { s with mode := .control false [plane, 2] 0 } := by
  have opened : s.read size "\x1b[".toList = { s with mode := .control false [] 0 } := rfl
  rw [read_append, opened, read_append, read_number]
  rfl

theorem read_foreground (s : Screen) (colour : Colour)
    : s.read size ("\x1b[38;2;".toList ++ (colour.parameters ++ ['m']))
      = { s with mode := .ground, style := { s.style with foreground := some colour } } := by
  have text : "\x1b[38;2;".toList = "\x1b[".toList ++ ((toString 38).toList ++ ";2;".toList) := rfl
  rw [text, read_append, read_selector, read_append, read_colour]
  rfl

theorem read_background (s : Screen) (colour : Colour)
    : s.read size ("\x1b[48;2;".toList ++ (colour.parameters ++ ['m']))
      = { s with mode := .ground, style := { s.style with background := some colour } } := by
  have text : "\x1b[48;2;".toList = "\x1b[".toList ++ ((toString 48).toList ++ ";2;".toList) := rfl
  rw [text, read_append, read_selector, read_append, read_colour]
  rfl

theorem read_reset (s : Screen)
    : s.read size "\x1b[0m".toList = { s with mode := .ground, style := .plain } := rfl

theorem read_inverse (s : Screen)
    : s.read size "\x1b[7m".toList
      = { s with mode := .ground, style := { s.style with inverse := true } } := rfl

theorem read_home (s : Screen)
    : s.read size "\x1b[H".toList = { s with mode := .ground, line := 0, column := 0 } := by
  have top (limit : Nat) : min 0 limit = 0 := Nat.zero_min limit
  calc s.read size "\x1b[H".toList
      = {
          s with
          mode := .ground
          line := min 0 (size.lines - 1)
          column := min 0 (size.columns - 1)
        } := rfl
    _ = _ := by rw [top, top]

theorem read_clear (s : Screen)
    : s.read size "\x1b[2J".toList
      = { s with mode := .ground, cells := fun _ _ => s.style.erased } := rfl

/-- The text that changes the cursor's visibility, up to its last character. -/
theorem read_cursor (s : Screen)
    : s.read size ("\x1b[?".toList ++ (toString 25).toList)
      = { s with mode := .control true [] 25 } := by
  have opened : s.read size "\x1b[?".toList = { s with mode := .control true [] 0 } := rfl
  rw [read_append, opened, read_number]

theorem read_hide (s : Screen)
    : s.read size "\x1b[?25l".toList = { s with mode := .ground, cursorShown := false } := by
  have text : "\x1b[?25l".toList = "\x1b[?".toList ++ (toString 25).toList ++ ['l'] := rfl
  rw [text, read_append, read_cursor]
  rfl

theorem read_show (s : Screen)
    : s.read size "\x1b[?25h".toList = { s with mode := .ground, cursorShown := true } := by
  have text : "\x1b[?25h".toList = "\x1b[?".toList ++ (toString 25).toList ++ ['h'] := rfl
  rw [text, read_append, read_cursor]
  rfl

/-- Cells with a picture drawn over them. -/
def overlay (cells : Nat → Nat → Cell) (picture : Nat → Nat → Option Cell) : Nat → Nat → Cell :=
  fun line column => (picture line column).getD (cells line column)

/-- A row of cells from a place on. -/
def rowAt (start first : Nat) (row : List Cell) : Nat → Nat → Option Cell :=
  fun line column => if line = start ∧ first ≤ column then row[column - first]? else none

/-- Rows of cells below each other, from a line on. -/
def rowsAt (start : Nat) (rows : List (List Cell)) : Nat → Nat → Option Cell :=
  fun line column => if start ≤ line then rows[line - start]? >>= (·[column]?) else none

theorem overlay_row_nil (cells : Nat → Nat → Cell) (start first : Nat)
    : overlay cells (rowAt start first []) = cells := by
  funext line column
  rw [overlay, rowAt, List.getElem?_nil, ite_self, Option.getD_none]

theorem overlay_row_append (cells : Nat → Nat → Cell) (start first : Nat) (row more : List Cell)
    : overlay (overlay cells (rowAt start first row)) (rowAt start (first + row.length) more)
      = overlay cells (rowAt start first (row ++ more)) := by
  funext line column
  simp only [overlay, rowAt]
  by_cases there : line = start ∧ first ≤ column
  case neg =>
    rw [if_neg there, if_neg there, if_neg fun beyond => there ⟨beyond.1, by omega⟩]
    rfl
  case pos =>
    rw [if_pos there, if_pos there, List.getElem?_append]
    by_cases before : column - first < row.length
    case pos => rw [if_pos before, if_neg (by omega), Option.getD_none]
    case neg =>
      have outside : row[column - first]? = none := List.getElem?_eq_none (by omega)
      have index : column - (first + row.length) = column - first - row.length := by omega
      rw [if_neg before, if_pos ⟨there.1, by omega⟩, outside, Option.getD_none, index]

/-- A picture of rows is its first row over the others. -/
theorem overlay_rows_cons (cells : Nat → Nat → Cell) (start : Nat) (row : List Cell)
    (rows : List (List Cell))
    : overlay (overlay cells (rowAt start 0 row)) (rowsAt (start + 1) rows)
      = overlay cells (rowsAt start (row :: rows)) := by
  funext line column
  simp only [overlay, rowAt, rowsAt]
  rcases Nat.lt_trichotomy line start with above | rfl | below
  · rw [if_neg (by omega), if_neg (by omega), if_neg (by omega)]
    rfl
  · rw [if_neg (by omega), if_pos ⟨rfl, by omega⟩, if_pos (Nat.le_refl line), Nat.sub_self]
    rfl
  · have index : line - start = line - (start + 1) + 1 := by omega
    rw [if_pos (by omega), if_neg (by omega), if_pos (by omega), index, List.getElem?_cons_succ]
    rfl

/-- A text draws a row of cells: wherever the row fits in a line, exactly its cells are
drawn and the cursor goes behind them, between attributes that `keeps` allows.
-/
def Draws (size : Size) (keeps : Style → Prop) (text : List Char) (row : List Cell) : Prop :=
  ∀ s : Screen,
    s.mode = .ground
    → keeps s.style
    → s.column + row.length ≤ size.columns
    → ∃ style,
        keeps style
        ∧ s.read size text
          = {
              s with
              cells := overlay s.cells (rowAt s.line s.column row)
              column := s.column + row.length
              style
            }

section Rows

variable {keeps : Style → Prop}

theorem Draws.nil : Draws size keeps [] [] := by
  intro s ground kept fits
  refine ⟨s.style, kept, ?_⟩
  rw [overlay_row_nil]
  rfl

theorem Draws.append {text more : List Char} {row next : List Cell}
    (first : Draws size keeps text row) (second : Draws size keeps more next)
    : Draws size keeps (text ++ more) (row ++ next) := by
  intro s ground kept fits
  rw [List.length_append] at fits
  obtain ⟨between, between_kept, drawn⟩ := first s ground kept (by omega)
  obtain ⟨style, style_kept, all⟩ :=
    second {
      s with
      cells := overlay s.cells (rowAt s.line s.column row)
      column := s.column + row.length
      style := between
    } ground between_kept (by rw [Nat.add_assoc]; exact fits)
  refine ⟨style, style_kept, ?_⟩
  rw [read_append, drawn, all, overlay_row_append, List.length_append, Nat.add_assoc]

/-- Texts after each other draw their rows after each other, by induction on the texts. -/
theorem Draws.flatMap {Item : Type*} {items : List Item} {text : Item → List Char}
    {row : Item → List Cell}
    (draws : ∀ item ∈ items, Draws size keeps (text item) (row item))
    : Draws size keeps (items.flatMap text) (items.flatMap row) := by
  induction items with
  | nil => exact .nil
  | cons item rest ih =>
      rw [List.flatMap_cons, List.flatMap_cons]
      exact (draws item List.mem_cons_self).append
        (ih fun other member => draws other (List.mem_cons_of_mem item member))

end Rows

/-- A character that is not a control character, in the attributes that are selected. -/
theorem draws_glyph (style : Style) {glyph : Char} (printing : ' ' ≤ glyph)
    : Draws size (· = style) [glyph] [{ glyph, style }] := by
  intro s ground selected fits
  have above (control : Char) (low : control < ' ') : glyph ≠ control :=
    fun same => absurd (same ▸ low) (Char.not_lt.mpr printing)
  have room : s.column < size.columns := fits
  refine ⟨style, rfl, ?_⟩
  subst selected
  calc s.read size [glyph]
      = s.print size glyph := by
        rw [Screen.read, List.foldl_cons, List.foldl_nil, Screen.feed, if_neg (above _ (by decide)),
          ground]
        dsimp only
        rw [if_neg (above _ (by decide)), if_neg (Char.not_lt.mpr printing)]
    _ = { s with cells := s.put { glyph, style := s.style }, column := s.column + 1 } := by
        rw [Screen.print, if_pos room]
    _ = _ := by
        congr 1
        funext line column
        simp only [Screen.put, overlay, rowAt]
        by_cases there : line = s.line ∧ column = s.column
        · rw [if_pos there, if_pos ⟨there.1, Nat.le_of_eq there.2.symm⟩, there.2, Nat.sub_self]
          rfl
        · rw [if_neg there]
          split
          next beyond =>
            rw [List.getElem?_eq_none (by simp only [List.length_singleton]; omega)]
            rfl
          next => rfl

/-- A text without control characters. -/
theorem draws_text (style : Style) {text : List Char} (printing : ∀ glyph ∈ text, ' ' ≤ glyph)
    : Draws size (· = style) text (text.map fun glyph => { glyph, style }) := by
  have glyphs (glyph : Char) (member : glyph ∈ text)
      : Draws size (· = style) [glyph] [{ glyph, style }] :=
    draws_glyph style (printing glyph member)
  have drawn := Draws.flatMap glyphs
  rwa [List.flatMap_singleton', ← List.map_eq_flatMap] at drawn

theorem read_lineFeed (s : Screen) (ground : s.mode = .ground) (below : s.line + 1 < size.lines)
    (text : List Char)
    : s.read size ('\n' :: text) = { s with line := s.line + 1, column := 0 }.read size text := by
  have fed : s.feed size '\n' = { s with line := s.line + 1, column := 0 } := by
    calc s.feed size '\n'
        = s.lineFeed size := by
          rw [Screen.feed, if_neg (by decide), ground]
          rfl
      _ = _ := if_pos below
  rw [Screen.read, List.foldl_cons, fed]
  rfl

/-- Texts on lines of their own draw their rows below each other, by induction on the lines. -/
theorem read_lines {keeps : Style → Prop} {width : Nat} (fits : width ≤ size.columns)
    {lines : List (List Char × List Cell)} (some_line : lines ≠ [])
    (draws : ∀ line ∈ lines, Draws size keeps line.1 line.2 ∧ line.2.length = width)
    (s : Screen) (ground : s.mode = .ground) (kept : keeps s.style) (first : s.column = 0)
    (room : s.line + lines.length ≤ size.lines)
    : ∃ style,
        keeps style
        ∧ s.read size (['\n'].intercalate (lines.map (·.1)))
          = {
              s with
              cells := overlay s.cells (rowsAt s.line (lines.map (·.2)))
              line := s.line + (lines.length - 1)
              column := width
              style
            } := by
  induction lines generalizing s with
  | nil => contradiction
  | cons head rest ih =>
      obtain ⟨drawing, length⟩ := draws head List.mem_cons_self
      obtain ⟨style, style_kept, drawn⟩ :=
        drawing s ground kept (by rw [first, length, Nat.zero_add]; exact fits)
      rw [first, Nat.zero_add, length] at drawn
      cases rest with
      | nil =>
          refine ⟨style, style_kept, ?_⟩
          rw [List.map_singleton, List.intercalate_singleton, drawn]
          congr 1
          rw [List.map_singleton, ← overlay_rows_cons]
          funext line column
          simp only [overlay, rowsAt, List.getElem?_nil, Option.bind_none, ite_self,
            Option.getD_none, bind]
      | cons second others =>
          rw [List.length_cons] at room
          have below : s.line + 1 < size.lines := by
            rw [List.length_cons] at room
            omega
          let next : Screen :=
            {
              s with
              cells := overlay s.cells (rowAt s.line 0 head.2)
              line := s.line + 1
              column := 0
              style
            }
          have remaining : next.line + (second :: others).length ≤ size.lines := by
            change s.line + 1 + _ ≤ _
            omega
          obtain ⟨last, last_kept, all⟩ := ih (List.cons_ne_nil second others)
            (fun line member => draws line (List.mem_cons_of_mem head member)) next ground
            style_kept rfl remaining
          refine ⟨last, last_kept, ?_⟩
          calc s.read size (['\n'].intercalate ((head :: second :: others).map (·.1)))
              = (s.read size head.1).read size
                  ('\n' :: ['\n'].intercalate ((second :: others).map (·.1))) := by
                rw [← read_append, List.map_cons, List.map_cons, List.intercalate_cons_cons,
                  List.append_assoc]
                rfl
            _ = next.read size (['\n'].intercalate ((second :: others).map (·.1))) := by
                rw [drawn]
                exact read_lineFeed { next with line := s.line, column := width } ground below _
            _ = _ := by
                rw [all]
                congr 1
                · exact overlay_rows_cons _ _ _ _
                · change s.line + 1 + others.length = s.line + (others.length + 1)
                  omega

end DummyDrivers.Terminal
