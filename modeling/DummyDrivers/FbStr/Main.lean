import DummyDrivers.FbStr.TextBounds
import DummyDrivers.FbStr.TextFiles
import DummyDrivers.Fbview.Main

/-! The text tool as a program: what its arguments ask for, and what a run draws.
-/

namespace DummyDrivers.FbStr

open DummyDrivers.Blocks
open DummyDrivers.Fb
open DummyDrivers.Fbview
open DummyDrivers.Netpbm

-----------------------------------------------------------------------------------------
-- The program
-----------------------------------------------------------------------------------------

/-- `atoi`: blanks, a sign and digits. Beyond an `int` its behaviour is undefined. -/
def atoi (text : List UInt8) : Int :=
  match text.dropWhile isSpace with
  | 0x2D :: digits => -(value (digits.takeWhile isDigit) : Int)
  | 0x2B :: digits => value (digits.takeWhile isDigit)
  | digits => value (digits.takeWhile isDigit)

/-- What a call of `lcd_put_pixel` prints, where it knows no way to store a pixel. -/
def pixelMessages (var : FbVarScreeninfo) : List (List UInt8) :=
  match var.bitsPerPixel.toNat with
  | 8 | 16 | 32 => []
  | _ => [ascii ("can't surport " ++ toString var.bitsPerPixel.toInt ++ "dbpp\n")]

/-- What a call of `lcd_put_string` prints, pixel by pixel. -/
def stringMessages (var : FbVarScreeninfo) (x y : Int) (color : BitVec 32) (str : List UInt8)
    : List (List UInt8) :=
  (stringPixels var.xres x y color str).flatMap fun _ => pixelMessages var

/-- What a call of `lcd_put_string` is for. -/
structure Request where
  x : Int
  y : Int
  color : BitVec 32
  str : List UInt8

/-- The call that `main` makes for the arguments behind its name. -/
def request : List (List UInt8) → Request
  | [x, y, str] => { x := atoi x, y := atoi y, color := 0xFFFFFF, str }
  | [x, y, color, str] =>
      { x := atoi x, y := atoi y, color := BitVec.ofInt 32 (atoi color), str }
  | arguments => { x := 0, y := 0, color := 0xFFFFFF, str := arguments.headD [] }

instance (var : FbVarScreeninfo) (x y : BitVec 32) : Decidable (PositionInRange var x y) :=
  inferInstanceAs (Decidable (¬ _))

/-- The device behind `/dev/fb1`, with the bytes that a mapping of some size starts with. -/
structure FbDevice where
  varInfo : Option FbVarScreeninfo
  mmap : Nat → Option (List UInt8)

/-- What a run prints and returns, and what is in its mapping at the end, if it has one. -/
structure Finished where
  printed : List (List UInt8)
  ret : Int
  mapping : Option (List UInt8)

/-- `main`, for a name and arguments. -/
def main (fb1 : Option FbDevice) (name : List UInt8) (arguments : List (List UInt8))
    : Except StoreError Finished :=
  if arguments.length < 1 then
    return {
      printed := [ascii "usage: " ++ name ++ ascii " [x] [y] [color] <str>\n"]
      ret := -1
      mapping := none
    }
  else
    match fb1 with
    | none => return { printed := [ascii "can`t open /dev/fb0\n"], ret := -1, mapping := none }
    | some device =>
        match device.varInfo with
        | none =>
            return { printed := [ascii "can`t get screen info\n"], ret := -1, mapping := none }
        | some var =>
            let info := ascii (toString var.xres.toInt ++ "," ++ toString var.yres.toInt ++ ","
              ++ toString var.bitsPerPixel.toInt ++ "\n")
            let request := request arguments
            -- Only the form with a position and no colour is checked.
            if arguments.length = 3
                ∧ ¬ PositionInRange var (BitVec.ofInt 32 request.x) (BitVec.ofInt 32 request.y) then
              return {
                printed := [info, ascii "postion x or y is out of range! exiting...\n"]
                ret := -1
                mapping := none
              }
            else
              match device.mmap (screenSize var).toNat with
              | none =>
                  return { printed := [info, ascii "can`t mmap\n"], ret := -1, mapping := none }
              | some memory => do
                  let final ← lcdPutString (Screen.init var) memory request.x request.y
                    request.color request.str
                  return {
                    printed := [info, ascii "main, cleaned screen\n."]
                      ++ stringMessages var request.x request.y request.color request.str
                    ret := 0
                    mapping := some final
                  }

-----------------------------------------------------------------------------------------
-- The arguments
-----------------------------------------------------------------------------------------

/-- A decimal number is read as it was written. -/
theorem atoi_decimal (number : Nat) : atoi (ascii (toString number)) = number := by
  have digits : ∀ byte ∈ ascii (toString number), isDigit byte := fun _ => isDigit_number
  have nonempty : ascii (toString number) ≠ [] := by
    rw [ascii_number, ne_eq, List.map_eq_nil_iff]
    exact Nat.toDigits_ne_nil
  obtain ⟨first, others, split⟩ := List.exists_cons_of_ne_nil nonempty
  have digit : isDigit first := digits first (split ▸ List.mem_cons_self)
  have text : (ascii (toString number)).dropWhile isSpace = ascii (toString number) := by
    rw [split, List.dropWhile_cons, isSpace_of_isDigit digit]
    rfl
  have taken : (ascii (toString number)).takeWhile isDigit = ascii (toString number) := by
    have whole := @List.takeWhile_append_of_pos _ _ _ [] digits
    rwa [List.takeWhile_nil, List.append_nil] at whole
  rw [atoi, text, split]
  split
  · rename_i same
    obtain ⟨rfl, _⟩ := List.cons.inj same
    contradiction
  · rename_i same
    obtain ⟨rfl, _⟩ := List.cons.inj same
    contradiction
  · rw [← split, taken, value_number]

/-- The arguments that ask for a text, with a position and a colour in decimal. A string alone
is drawn from the corner, and so is the first of any other number of arguments.
-/
inductive Asks : List (List UInt8) → Nat → Nat → BitVec 32 → List UInt8 → Prop where
  | corner {str others} (form : others.length ≠ 2 ∧ others.length ≠ 3)
    : Asks (str :: others) 0 0 0xFFFFFF str
  | position (x y : Nat) {str}
    : Asks [ascii (toString x), ascii (toString y), str] x y 0xFFFFFF str
  | color (x y color : Nat) {str} (small : color < 2 ^ 31)
    : Asks [ascii (toString x), ascii (toString y), ascii (toString color), str] x y
        (BitVec.ofNat 32 color) str

theorem Asks.request_eq {arguments : List (List UInt8)} {x y : Nat} {color : BitVec 32}
    {str : List UInt8} (asks : Asks arguments x y color str)
    : request arguments = { x, y, color, str } := by
  cases asks with
  | position x y => simp only [request, atoi_decimal]
  | color x y color => simp only [request, atoi_decimal, BitVec.ofInt_natCast]
  | @corner str others form =>
      match others, form with
      | [], _ | [_], _ | _ :: _ :: _ :: _ :: _, _ => rfl

-----------------------------------------------------------------------------------------
-- What a run draws
-----------------------------------------------------------------------------------------

variable {var : FbVarScreeninfo} {format : Format}

/-- A position on the screen passes the check. -/
theorem positionInRange_ofInt {x y : Nat} (column : x ≤ var.xres.toNat)
    (line : y ≤ var.yres.toNat)
    : PositionInRange var (BitVec.ofInt 32 x) (BitVec.ofInt 32 y) := by
  have wide := var.xres.isLt
  have tall := var.yres.isLt
  rw [PositionInRange, BitVec.ofInt_natCast, BitVec.ofInt_natCast, not_or, BitVec.not_lt,
    BitVec.not_lt, BitVec.le_def, BitVec.le_def, BitVec.toNat_ofNat, BitVec.toNat_ofNat,
    Nat.mod_eq_of_lt (by omega), Nat.mod_eq_of_lt (by omega)]
  exact ⟨column, line⟩

/-- A run draws what its arguments ask for. -/
theorem Asks.main_eq {arguments : List (List UInt8)} {x y : Nat} {color : BitVec 32}
    {str : List UInt8} (asks : Asks arguments x y color str) (column : x ≤ var.xres.toNat)
    (line : y ≤ var.yres.toNat) {device : FbDevice} (varInfo : device.varInfo = some var)
    {memory final : List UInt8} (mapping : device.mmap (screenSize var).toNat = some memory)
    (drawn : lcdPutString (Screen.init var) memory x y color str = .ok final)
    (name : List UInt8)
    : ∃ printed,
        main (some device) name arguments = .ok { printed, ret := 0, mapping := some final } := by
  have some_argument : ¬ arguments.length < 1 := by
    cases asks <;> simp
  have range := positionInRange_ofInt column line
  rw [main, if_neg some_argument]
  dsimp only
  rw [varInfo]
  dsimp only
  rw [asks.request_eq, if_neg (fun outside => outside.2 range), mapping]
  dsimp only
  rw [drawn]
  exact ⟨_, rfl⟩

/-- A run whose text fits on the screen ends well. Both tools then show the text where its
arguments ask for it, over what the screen showed before, with the cell at its end wiped,
which is the text alone where that cell was blank.
-/
theorem main_text_in_files (drawable : Drawable var format)
    (screen : TextScreen var format.bytes) {arguments : List (List UInt8)} {x y : Nat}
    {color : BitVec 32} {str : List UInt8} (asks : Asks arguments x y color str)
    (column : x ≤ var.xres.toNat) (line : y ≤ var.yres.toNat)
    (fits : TextFits var.xres.toNat var.yres.toNat x y str) {device : FbDevice}
    (varInfo : device.varInfo = some var) {memory : List UInt8}
    (mapping : device.mmap (screenSize var).toNat = some memory)
    (mapped : memory.length = format.bytes * (var.xres.toNat * var.yres.toNat))
    (name : List UInt8) {fix : FbFixScreeninfo} (packed : PackedLines fix var format)
    {fbcatEnv : List UInt8 → Fbcat.Environment} {fbcatDevice : List UInt8 → Fbcat.Device}
    (readable : ∀ memory, Fbcat.Readable (fbcatEnv memory) (fbcatDevice memory) fix var memory)
    {viewEnv : List UInt8 → Fbview.Environment} {viewArgs : Fbview.Args}
    (previews : ∀ memory, PreviewsOnce (viewEnv memory) viewArgs var memory)
    : ∃ printed final dumped previewed,
        main (some device) name arguments = .ok { printed, ret := 0, mapping := some final }
        ∧ Fbcat.main (fbcatEnv final) = .ok dumped
        ∧ (Fbview.main (viewEnv final) viewArgs).2 = .pixmap previewed
        ∧ readPixmap dumped = some (wipedPicture var format x y color str memory)
        ∧ readPixmap previewed = some (wipedPicture var format x y color str memory)
        ∧ (EndBlank var format.bytes x y color str memory
          → wipedPicture var format x y color str memory
            = textPicture var format x y color str memory) := by
  have fit := (stringCells_fit_iff screen.wide column str).mpr fits
  have endFits : (endCell var.xres x y str).Fits var := by
    apply fit
    rw [stringCells_eq]
    exact List.mem_append_right _ (List.mem_singleton_self _)
  obtain ⟨final, dumped, previewed, drawn, written, once, dumpShown, onceShown⟩ :=
    lcdPutString_in_files drawable screen fit color mapped packed readable
  obtain ⟨printed, ran⟩ := asks.main_eq column line varInfo mapping drawn name
  exact ⟨printed, final, dumped, previewed, ran, written, (previews final).main_eq once,
    dumpShown, onceShown, drawable.wiped_eq_text screen endFits⟩

/-- Witness: a letter on the driver's own screen, which was white before. -/
theorem main_text_in_files_letter
    : let var := Fbdev.dummyFbInfo.var
      let white := List.replicate (2 * (480 * 320)) (0xFF : UInt8)
      let device : FbDevice := { varInfo := some var, mmap := fun _ => some white }
      let shown := wipedPicture var .rgb565 8 16 0xFFFFFF [0x41] white
      ∃ printed final dumped previewed,
        main (some device) (ascii "fb_str") [ascii (toString 8), ascii (toString 16), [0x41]]
          = .ok { printed, ret := 0, mapping := some final }
        ∧ Fbcat.main
            (Fbcat.defaultEnvironment (Fbcat.packedDevice Fbdev.dummyFbInfo.fix var final))
          = .ok dumped
        ∧ (Fbview.main (oneDevice "/dev/fb0" (recordedDevice var final)) onceArgs).2
          = .pixmap previewed
        ∧ readPixmap dumped = some shown
        ∧ readPixmap previewed = some shown := by
  intro var white device shown
  have screen : TextScreen var 2 := ⟨dummyFb_drawable.pixelSize, by decide, by decide⟩
  have fits : TextFits 480 320 8 16 [0x41] := ⟨by decide, .inl (by decide)⟩
  obtain ⟨printed, final, dumped, previewed, ran, written, once, dumpShown, onceShown, _⟩ :=
    @main_text_in_files var .rgb565 dummyFb_drawable screen _ _ _ _ _ (.position 8 16) (by decide)
      (by decide) fits device rfl white rfl List.length_replicate (ascii "fb_str") _ ⟨rfl, rfl⟩
      _ _
      (fun memory => Fbcat.packedDevice_readable Fbdev.dummyFbInfo.fix var memory rfl (by decide))
      _ _ (oneDevice_previews var)
  exact ⟨printed, final, dumped, previewed, ran, written, once, dumpShown, onceShown⟩

end DummyDrivers.FbStr
