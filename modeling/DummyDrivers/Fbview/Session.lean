import DummyDrivers.Fbview.AnsiScreen

/-! `run_ansi` from its first text to its last: the limits that it is called with, its rounds
and pauses, and what its `except` and `finally` clauses make of every way to leave them. A
session shows the frame of its last round, and leaves the terminal as usable as before.
-/

namespace DummyDrivers.Fbview

open DummyDrivers.Fb
open DummyDrivers.Loops
open DummyDrivers.Python
open DummyDrivers.Terminal

-----------------------------------------------------------------------------------------
-- The limits
-----------------------------------------------------------------------------------------

/-- `maxw or max(1, size.columns - 2)`, where the option is any number. -/
def limitCols (maxw : Int) (columns : Nat) : Int :=
  if maxw = 0 then (max 1 (columns - 2) : Nat) else maxw

/-- `maxh or max(1, (size.lines - 2) // 2)`. -/
def limitRows (maxh : Int) (lines : Nat) : Int :=
  if maxh = 0 then (max 1 ((lines - 2) / 2) : Nat) else maxh

/-- The grid of a preview, whose extent may be below zero in fill mode. -/
structure LimitedGrid where
  cell : Nat
  cols : Int
  rows : Int
  deriving DecidableEq, Repr

/-- The grid within limits of either sign, by Python's division. -/
def limitedGrid (w h : Nat) (maxCols maxRows : Int) (fill : Bool) : LimitedGrid :=
  if fill then
    { cell := 0, cols := maxCols, rows := maxRows }
  else
    let across := Int.fdiv (w + maxCols - 1) maxCols
    let down := Int.fdiv (h + maxRows * 2 - 1) (maxRows * 2)
    let cell := (max 1 (max across down)).toNat
    { cell, cols := (max 1 (w / cell) : Nat), rows := (max 1 (h / (cell * 2)) : Nat) }

/-- The line above a preview in such a grid. -/
def limitedHeader (path : String) (w h bpp : Nat) (grid : LimitedGrid) : String :=
  let detail := if grid.cell = 0 then "" else ", " ++ toString grid.cell ++ "px/cell"
  path
  ++ ": "
  ++ toString w
  ++ "x"
  ++ toString h
  ++ " "
  ++ toString bpp
  ++ "bpp (scaled to "
  ++ toString grid.cols
  ++ "x"
  ++ toString grid.rows
  ++ " cells"
  ++ detail
  ++ ")"

-----------------------------------------------------------------------------------------
-- The function
-----------------------------------------------------------------------------------------

/-- What `run_ansi` works on, in a terminal that keeps its size. The refresh rate counts as
far as `time.sleep(1.0 / fps)` succeeds with it.
-/
structure Session where
  path : String
  var : FbVarScreeninfo
  columns : Nat
  lines : Nat
  maxw : Int
  maxh : Int
  fill : Bool
  once : Bool
  pause : Except PyError Unit

/-- What a round writes. A range with a bound below zero is empty. -/
def Session.round (session : Session) (memory : List UInt8) : Except PyError String := do
  let conv := Converter.init session.var
  let maxCols := limitCols session.maxw session.columns
  let maxRows := limitRows session.maxh session.lines
  let grid := limitedGrid conv.w conv.h maxCols maxRows session.fill
  let rgb ← conv.convert (readFrame session.var memory)
  let preview ← ansiRender rgb conv.w conv.h grid.cols.toNat grid.rows.toNat
  let header := limitedHeader session.path conv.w conv.h conv.bpp grid
  return "\x1b[H" ++ ("\x1b[7m" ++ header ++ "\x1b[0m\n" ++ preview)

/-- The loop, on what the memory contains at each of its rounds. After them, the interrupt
comes in the pause: nothing else ends a loop that does not fail.
-/
def Session.loop (session : Session) : List (List UInt8) → Effect
  | [] => { text := "", raised := some .keyboardInterrupt }
  | memory :: rest =>
      match session.round memory with
      | .error error => { text := "", raised := some error }
      | .ok text =>
          if session.once then
            .write text
          else
            match session.pause with
            | .error error => { text, raised := some error }
            | .ok () => (Effect.write text).andThen (session.loop rest)

/-- What `run_ansi` writes before its `try` statement. -/
def ansiOpening : String := "\x1b[?25l\x1b[2J"

/-- What its `finally` clause writes. -/
def ansiClosing : String := "\x1b[0m\x1b[?25h\n"

/-- `run_ansi`. The interrupt may come earlier than the rounds end, at any character. -/
def runAnsiSession (session : Session) (interrupt : Option Nat)
    (memories : List (List UInt8)) : Effect :=
  (Effect.write ansiOpening).andThen
    ((((session.loop memories).interrupted interrupt).passing .keyboardInterrupt).ensuring
      (.write ansiClosing))

-----------------------------------------------------------------------------------------
-- Limits that are not below zero
-----------------------------------------------------------------------------------------

theorem limitCols_natCast (maxw columns : Nat)
    : limitCols maxw columns = ansiMaxCols maxw columns := by
  rw [limitCols, ansiMaxCols]
  by_cases none : maxw = 0
  · rw [if_pos none, if_pos (Int.natCast_eq_zero.mpr none)]
  · rw [if_neg none, if_neg (Int.natCast_eq_zero.not.mpr none)]

theorem limitRows_natCast (maxh lines : Nat)
    : limitRows maxh lines = ansiMaxRows maxh lines := by
  rw [limitRows, ansiMaxRows]
  by_cases none : maxh = 0
  · rw [if_pos none, if_pos (Int.natCast_eq_zero.mpr none)]
  · rw [if_neg none, if_neg (Int.natCast_eq_zero.not.mpr none)]

/-- A grid as one with an extent of either sign. -/
def AnsiGrid.limited (grid : AnsiGrid) : LimitedGrid :=
  { cell := grid.cell, cols := grid.cols, rows := grid.rows }

/-- Rounding up by Python's division. -/
theorem fdiv_natCast (length : Nat) {limit : Nat} (positive : 1 ≤ limit)
    : Int.fdiv (length + limit - 1) limit = ((length + limit - 1) / limit : Nat) := by
  have dividend : (length + limit - 1 : Int) = (length + limit - 1 : Nat) := by omega
  rw [dividend, Int.ofNat_fdiv]

theorem limitedGrid_natCast (w h : Nat) {maxCols maxRows : Nat} (some_cols : 1 ≤ maxCols)
    (some_rows : 1 ≤ maxRows) (fill : Bool)
    : limitedGrid w h maxCols maxRows fill = (ansiGrid w h maxCols maxRows fill).limited := by
  cases fill with
  | true => rfl
  | false =>
      have twice : (maxRows * 2 : Int) = (maxRows * 2 : Nat) := by omega
      have across := fdiv_natCast w some_cols
      have down := fdiv_natCast h (Nat.le_trans some_rows (Nat.le_mul_of_pos_right maxRows two_pos))
      have cell (across down : Nat)
          : (max 1 (max (across : Int) down)).toNat = max 1 (max across down) := by
        omega
      simp only [limitedGrid, twice, across, down, cell, ansiGrid, AnsiGrid.limited,
        Bool.false_eq_true, if_false]

theorem limitedHeader_limited (path : String) (w h bpp : Nat) (grid : AnsiGrid)
    : limitedHeader path w h bpp grid.limited = ansiHeader path w h bpp grid := rfl

/-- The session with these limits, over any number of paced rounds or a single one. -/
def pacedSession (path : String) (var : FbVarScreeninfo) (columns lines maxw maxh : Nat)
    (fill once : Bool) : Session :=
  { path, var, columns, lines, maxw, maxh, fill, once, pause := .ok () }

/-- Its rounds are those of `runAnsi`. -/
theorem pacedSession_round (path : String) (var : FbVarScreeninfo)
    (columns lines maxw maxh : Nat) (fill once : Bool) (memory : List UInt8)
    : (pacedSession path var columns lines maxw maxh fill once).round memory
      = runAnsi path var memory columns lines maxw maxh fill := by
  have grid := limitedGrid_natCast (Converter.init var).w (Converter.init var).h
    (ansiMaxCols_pos maxw columns) (ansiMaxRows_pos maxh lines) fill
  simp only [Session.round, pacedSession, limitCols_natCast, limitRows_natCast, grid,
    limitedHeader_limited]
  rfl

-----------------------------------------------------------------------------------------
-- The last frame
-----------------------------------------------------------------------------------------

section Extent

variable (path : String) (var : FbVarScreeninfo) (columns lines maxw maxh : Nat) (fill : Bool)

/-- The grid of all rounds. -/
def sessionGrid : AnsiGrid :=
  ansiGrid var.xres.toNat var.yres.toNat (ansiMaxCols maxw columns) (ansiMaxRows maxh lines) fill

/-- The header of all rounds. -/
def sessionHeader : String :=
  ansiHeader path var.xres.toNat var.yres.toNat var.bitsPerPixel.toNat
    (sessionGrid var columns lines maxw maxh fill)

/-- What the screen shows of a frame. -/
def sessionPicture (format : Format) (memory : List UInt8) : Nat → Nat → Option Cell :=
  let grid := sessionGrid var columns lines maxw maxh fill
  roundPicture (sessionHeader path var columns lines maxw maxh fill)
    { Style.plain with inverse := true }
    (format.frame (readFrame var memory) (var.xres.toNat * var.yres.toNat))
    var.xres.toNat var.yres.toNat grid.cols grid.rows

/-- The preview fits on the screen with a line to spare. -/
structure SessionFits : Prop where
  header : (sessionHeader path var columns lines maxw maxh fill).length ≤ columns
  across : ansiMaxCols maxw columns ≤ columns
  down : ansiMaxRows maxh lines + 1 < lines

end Extent

theorem ansiOpening_erases {size : Size} {s : Screen} (plain : s.style = .plain)
    : s.read size ansiOpening.toList
      = {
          s with
          cells := fun _ _ => Style.plain.erased
          cursorShown := false
          mode := .ground
        } := by
  have opening : ansiOpening.toList = "\x1b[?25l".toList ++ "\x1b[2J".toList := rfl
  rw [opening, read_append, read_hide, read_clear]
  dsimp only
  rw [plain]

/-- The last text works wherever the texts before it were cut off. -/
theorem ansiClosing_restores {size : Size} (s : Screen)
    : s.read size ansiClosing.toList
      = { s with style := .plain, cursorShown := true, mode := .ground }.lineFeed size := by
  have closing : ansiClosing.toList
      = "\x1b[0m".toList ++ ("\x1b[?25h".toList ++ ['\n']) := rfl
  rw [closing, read_append, read_reset, read_append, read_show]
  rfl

section Shown

variable {path : String} {var : FbVarScreeninfo} {columns lines maxw maxh : Nat} {fill : Bool}
  {format : Format}

/-- A round of a session draws its frame, and nothing else. -/
theorem runAnsi_draws (supports : Supports var format) (some_column : 0 < var.xres.toNat)
    (some_line : 0 < var.yres.toNat) (printing : Printing path)
    (fits : SessionFits path var columns lines maxw maxh fill) {memory : List UInt8}
    (enough : format.bytes * (var.xres.toNat * var.yres.toNat) ≤ (readFrame var memory).length)
    : ∃ text,
        runAnsi path var memory columns lines maxw maxh fill = .ok text
        ∧ ∀ s : Screen,
            s.style = .plain
            → s.read { columns, lines } text.toList
              = {
                  s with
                  cells := overlay s.cells
                    (sessionPicture path var columns lines maxw maxh fill format memory)
                  line := (sessionGrid var columns lines maxw maxh fill).rows
                  column := (sessionGrid var columns lines maxw maxh fill).cols
                  style := .plain
                  mode := .ground
                } := by
  obtain ⟨across, some_row, down⟩ := ansiGrid_within var.xres.toNat var.yres.toNat
    (ansiMaxCols_pos maxw columns) (ansiMaxRows_pos maxh lines) fill
  have below := fits.down
  refine ⟨_, runAnsi_ok supports some_column some_line enough path columns lines maxw maxh fill, ?_⟩
  intro s plain
  have drawn := @round_draws { columns, lines }
    (sessionHeader path var columns lines maxw maxh fill) (printing_header printing _ _ _ _)
    (format.frame (readFrame var memory) (var.xres.toNat * var.yres.toNat)) var.xres.toNat
    var.yres.toNat _ _ fits.header (across.trans fits.across) some_row
    (Nat.lt_of_le_of_lt down (Nat.lt_of_succ_lt below)) s
  rw [plain] at drawn
  exact drawn

/-- The rounds of a session leave the last frame on the screen, by induction on the frames.
With `once` there is one round, and without it the interrupt follows the last one.
-/
theorem pacedSession_loop (supports : Supports var format) (some_column : 0 < var.xres.toNat)
    (some_line : 0 < var.yres.toNat) (printing : Printing path)
    (fits : SessionFits path var columns lines maxw maxh fill) {once : Bool}
    {memories : List (List UInt8)} (some_round : memories ≠ [])
    (single : once = true → memories.length = 1)
    (enough
      : ∀ memory ∈ memories,
          format.bytes * (var.xres.toNat * var.yres.toNat) ≤ (readFrame var memory).length)
    : ∃ text,
        (pacedSession path var columns lines maxw maxh fill once).loop memories
          = { text, raised := if once then none else some .keyboardInterrupt }
        ∧ ∀ s : Screen,
            s.style = .plain
            → s.read { columns, lines } text.toList
              = {
                  s with
                  cells := overlay s.cells (sessionPicture path var columns lines maxw maxh fill
                    format (memories.getLast some_round))
                  line := (sessionGrid var columns lines maxw maxh fill).rows
                  column := (sessionGrid var columns lines maxw maxh fill).cols
                  style := .plain
                  mode := .ground
                } := by
  induction memories with
  | nil => contradiction
  | cons memory rest ih =>
      obtain ⟨text, ran, drawn⟩ := runAnsi_draws supports some_column some_line printing fits
        (enough memory List.mem_cons_self)
      rw [← pacedSession_round path var columns lines maxw maxh fill once memory] at ran
      rw [Session.loop, ran]
      dsimp only
      cases once with
      | true =>
          obtain rfl : rest = [] :=
            List.eq_nil_of_length_eq_zero (Nat.succ.inj (single rfl))
          exact ⟨text, rfl, drawn⟩
      | false =>
          cases rest with
          | nil =>
              refine ⟨text ++ "", rfl, ?_⟩
              rw [String.append_empty]
              exact drawn
          | cons next others =>
              obtain ⟨more, rounds, last⟩ := ih (List.cons_ne_nil next others)
                (fun one => absurd one Bool.false_ne_true)
                fun other member => enough other (List.mem_cons_of_mem memory member)
              refine ⟨text ++ more, ?_, ?_⟩
              · rw [rounds]
                rfl
              · intro s plain
                rw [String.toList_append, read_append, drawn s plain]
                refine (last _ rfl).trans ?_
                rw [List.getLast_cons_cons]
                congr 1
                exact overlay_roundPicture _ _ _ _ _ _ _ _ _

/-- A session of readable frames that is interrupted in a pause, or has one frame only, shows
its last frame under the header, on an erased screen, with the cursor visible below it.
-/
theorem runAnsiSession_shows (supports : Supports var format)
    (some_column : 0 < var.xres.toNat) (some_line : 0 < var.yres.toNat)
    (printing : Printing path) (fits : SessionFits path var columns lines maxw maxh fill)
    {once : Bool} {memories : List (List UInt8)} (some_round : memories ≠ [])
    (single : once = true → memories.length = 1)
    (enough
      : ∀ memory ∈ memories,
          format.bytes * (var.xres.toNat * var.yres.toNat) ≤ (readFrame var memory).length)
    : ∃ text,
        runAnsiSession (pacedSession path var columns lines maxw maxh fill once) none memories
          = { text, raised := none }
        ∧ ∀ s : Screen,
            s.style = .plain
            → s.read { columns, lines } text.toList
              = {
                  s with
                  cells := overlay (fun _ _ => Style.plain.erased)
                    (sessionPicture path var columns lines maxw maxh fill format
                      (memories.getLast some_round))
                  line := (sessionGrid var columns lines maxw maxh fill).rows + 1
                  column := 0
                  style := .plain
                  cursorShown := true
                  mode := .ground
                } := by
  obtain ⟨text, rounds, drawn⟩ := pacedSession_loop supports some_column some_line printing fits
    some_round single enough
  obtain ⟨_, _, down⟩ := ansiGrid_within var.xres.toNat var.yres.toNat
    (ansiMaxCols_pos maxw columns) (ansiMaxRows_pos maxh lines) fill
  have below := fits.down
  refine ⟨ansiOpening ++ (text ++ ansiClosing), ?_, ?_⟩
  · rw [runAnsiSession, rounds]
    cases once <;> rfl
  · intro s plain
    let after : Screen :=
      {
        s with
        cells := overlay (fun _ _ => Style.plain.erased)
          (sessionPicture path var columns lines maxw maxh fill format
            (memories.getLast some_round))
        line := (sessionGrid var columns lines maxw maxh fill).rows
        column := (sessionGrid var columns lines maxw maxh fill).cols
        style := .plain
        cursorShown := false
        mode := .ground
      }
    have last : after.line + 1 < lines := Nat.lt_of_le_of_lt (Nat.succ_le_succ down) below
    calc s.read { columns, lines } (ansiOpening ++ (text ++ ansiClosing)).toList
        = after.read { columns, lines } ansiClosing.toList := by
          rw [String.toList_append, String.toList_append, read_append, read_append,
            ansiOpening_erases plain]
          congr 1
          exact drawn _ plain
      _ = _ := by rw [ansiClosing_restores, Screen.lineFeed, if_pos last]

end Shown

/-- Witness: after a black frame, a white one of 2x2 pixels is shown as a white cell. -/
theorem runAnsiSession_shows_white
    : ∃ text,
        runAnsiSession (pacedSession "/dev/fb0" (rgb565Screen 2 2) 80 24 0 0 false false) none
            [List.replicate 8 0, List.replicate 8 0xFF]
          = { text, raised := none }
        ∧ ∀ s : Screen,
            s.style = .plain
            → (s.read { columns := 80, lines := 24 } text.toList).cells 1 0
              = halfBlock { red := 255, green := 255, blue := 255 }
                  { red := 255, green := 255, blue := 255 } := by
  let var := rgb565Screen 2 2
  have fits : SessionFits "/dev/fb0" var 80 24 0 0 false := ⟨by decide, by decide, by decide⟩
  have enough
      : ∀ memory ∈ [List.replicate 8 (0 : UInt8), List.replicate 8 0xFF],
          Format.bytes .rgb565 * (var.xres.toNat * var.yres.toNat)
            ≤ (readFrame var memory).length := by
    rw [List.forall_mem_cons, List.forall_mem_singleton]
    exact ⟨by decide, by decide⟩
  obtain ⟨text, ran, shown⟩ := runAnsiSession_shows (rgb565Screen_standard 2 2).supports
    (by decide) (by decide) (printing_literal rfl) fits (List.cons_ne_nil _ _)
    (fun one => absurd one Bool.false_ne_true) enough
  refine ⟨text, ran, ?_⟩
  intro s plain
  rw [shown s plain]
  decide

-----------------------------------------------------------------------------------------
-- Every way to leave the loop
-----------------------------------------------------------------------------------------

/-- However `run_ansi` leaves its `try` statement, by its end, by an exception of a frame or
of the pause or by an interrupt at any character, it leaves the cursor visible at the start
of a line and no attribute selected, and swallows the interrupt and nothing else.
-/
theorem runAnsiSession_restores (session : Session) (interrupt : Option Nat)
    (memories : List (List UInt8)) (s : Screen)
    : let run := runAnsiSession session interrupt memories
      let loop := (session.loop memories).interrupted interrupt
      let after := s.read { columns := session.columns, lines := session.lines } run.text.toList
      after.cursorShown = true
      ∧ after.style = .plain
      ∧ after.mode = .ground
      ∧ after.column = 0
      ∧ run.raised = if loop.raised = some .keyboardInterrupt then none else loop.raised := by
  intro run loop after
  have text : run.text.toList
      = (ansiOpening ++ loop.text).toList ++ ansiClosing.toList := by
    rw [← String.toList_append, String.append_assoc, ← loop.passing_text .keyboardInterrupt]
    rfl
  have restored : after = _ :=
    ((congrArg (s.read _) text).trans (read_append _ _ _)).trans (ansiClosing_restores _)
  have raised : run.raised = (loop.passing .keyboardInterrupt).raised := rfl
  rw [restored, raised, Effect.passing, Screen.lineFeed]
  refine ⟨?_, ?_, ?_, ?_, ?_⟩
  all_goals split <;> rfl

end DummyDrivers.Fbview
