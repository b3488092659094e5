import DummyDrivers.Fbcat.Main
import DummyDrivers.Fbdev.Device
import DummyDrivers.Fbview.Once
import DummyDrivers.FbStr.Drawing
import DummyDrivers.FbStr.TextPicture

/-! From a drawn string to the files of the tools: on a screen whose lines follow each other,
the pixmap of the dump and the pixmap of the preview show the same picture, that of the
string's cells over what was on the screen before.
-/

namespace DummyDrivers.FbStr

open DummyDrivers.Blocks
open DummyDrivers.Fb
open DummyDrivers.Fbcat (Device Environment InColormap Mapped Readable Reachable levelColormap
  mappedByte mappedColour pixelWord)
open DummyDrivers.Fbview
open DummyDrivers.LittleEndian
open DummyDrivers.Netpbm

-----------------------------------------------------------------------------------------
-- The dump of a frame in a standard format
-----------------------------------------------------------------------------------------

/-- A level of the colormap for a truecolor visual. -/
theorem mappedByte_level (p : Nat) (bitfield : FbBitfield)
    : mappedByte p bitfield (Fbcat.channelLevels bitfield.length.toNat)
      = Fbcat.scaledByte p (bitfield.offset.toNat, bitfield.length.toNat) := by
  have inside := Nat.mod_lt (p >>> bitfield.offset.toNat) (Nat.two_pow_pos bitfield.length.toNat)
  rw [mappedByte, Fbcat.channelLevels, List.getD_eq_getElem?_getD, List.getElem?_map,
    List.getElem?_range inside]
  rfl

variable {var : FbVarScreeninfo} {format : Format}

theorem mappedColour_standard (standard : StandardFormat var format) {pixel : List UInt8}
    (whole : pixel.length = format.bytes)
    : mappedColour var (levelColormap var) (leWord pixel) = colourOf (format.colour pixel) := by
  have scaled := Fbcat.scaledColour_eq standard whole
  rw [← scaled]
  simp only [mappedColour, levelColormap, mappedByte_level]
  rfl

theorem inColormap_level {bitfield : FbBitfield} {offset length : Nat}
    (same : (bitfield.offset.toNat, bitfield.length.toNat) = (offset, length))
    (inside : offset < 32) (short : length ≤ 8)
    : InColormap bitfield (Fbcat.channelLevels bitfield.length.toNat) := by
  obtain ⟨rfl, rfl⟩ := Prod.mk.inj same
  refine ⟨inside, short, ?_⟩
  rw [Fbcat.channelLevels, List.length_map, List.length_range]

theorem mapped_standard (standard : StandardFormat var format)
    : Mapped var (levelColormap var) := by
  have fields {channels : Rgb (Nat × Nat)} (same : channelsOf var = channels)
      : (var.red.offset.toNat, var.red.length.toNat) = channels.red
        ∧ (var.green.offset.toNat, var.green.length.toNat) = channels.green
        ∧ (var.blue.offset.toNat, var.blue.length.toNat) = channels.blue := by
    subst same
    exact ⟨rfl, rfl, rfl⟩
  cases standard with
  | rgb565 bits channels | rgb888 bits channels | xrgb8888 bits channels =>
      obtain ⟨red, green, blue⟩ := fields channels
      exact ⟨by omega, inColormap_level red (by decide) (by decide),
        inColormap_level green (by decide) (by decide),
        inColormap_level blue (by decide) (by decide)⟩

/-- The screen information that goes with a drawable screen: its lines are packed. -/
structure PackedLines (fix : FbFixScreeninfo) (var : FbVarScreeninfo) (format : Format)
    : Prop where
  visual : fix.visual = fbVisualTruecolor
  line : fix.lineLength.toNat = format.bytes * var.xres.toNat

theorem Drawable.reachable (drawable : Drawable var format) {fix : FbFixScreeninfo}
    (packed : PackedLines fix var format) (narrow : 3 * var.xres.toNat < 2 ^ 32)
    {size : Nat} (whole : format.bytes * (var.xres.toNat * var.yres.toNat) ≤ size)
    : Reachable var fix.lineLength size := by
  have small := drawable.small
  have xoffset : var.xoffset.toNat = 0 := congrArg BitVec.toNat drawable.xoffset
  have yoffset : var.yoffset.toNat = 0 := congrArg BitVec.toNat drawable.yoffset
  have lines : (0 + var.yres.toNat) * fix.lineLength.toNat
      = format.bytes * (var.xres.toNat * var.yres.toNat) := by
    rw [packed.line]
    ring
  have bits : 8 * format.bytes = var.bitsPerPixel.toNat := by
    cases drawable.standard <;> simp only [Format.bytes] <;> omega
  have memory : 8 * (format.bytes * (var.xres.toNat * var.yres.toNat)) < 2 ^ 31 := by
    rw [← Nat.mul_assoc, bits, Nat.mul_comm]
    exact small
  constructor
  · rw [Fbcat.bytesPerPixel_toNat drawable.standard, xoffset, Nat.zero_add, packed.line]
  · rw [yoffset, lines]
    exact whole
  · rw [yoffset, lines]
    omega
  · exact narrow

/-- The dump of a drawable screen shows the frame in its memory. -/
theorem Drawable.main_shows (drawable : Drawable var format) {env : Environment}
    {device : Device} {fix : FbFixScreeninfo} {memory : List UInt8}
    (packed : PackedLines fix var format) (narrow : 3 * var.xres.toNat < 2 ^ 32)
    (whole : format.bytes * (var.xres.toNat * var.yres.toNat) ≤ memory.length)
    (readable : Readable env device fix var memory)
    : ∃ file,
        Fbcat.main env = .ok file ∧ readPixmap file = some (framePicture var format memory) := by
  have standard := drawable.standard
  obtain ⟨heap, row⟩ := Option.isSome_iff_exists.mp readable.mallocRow
  obtain ⟨dump, ran, shown⟩ := Fbcat.dumpVideoMemory_shows (mapped_standard standard)
    (drawable.reachable packed narrow whole) heap
  have chosen : Fbcat.readVisual device fix var = .ok (.mapped (levelColormap var)) :=
    (Fbcat.ThroughColormap.truecolor packed.visual (Fbcat.channels_scalable standard)).chosen
  have deep : Fbcat.checkDepth var (.mapped (levelColormap var)) = .ok () := by
    have enough : (8 : BitVec 32) ≤ var.bitsPerPixel := (mapped_standard standard).depth.1
    simp only [Fbcat.checkDepth, Fbcat.check, decide_eq_true enough, if_true]
  rw [← row] at ran
  refine ⟨dump.bytes, readable.main_eq chosen deep ran, ?_⟩
  rw [shown, framePicture]
  congr 1
  apply Image.ofPixels_congr
  intro x column y line
  have xoffset : var.xoffset.toNat = 0 := congrArg BitVec.toNat drawable.xoffset
  have yoffset : var.yoffset.toNat = 0 := congrArg BitVec.toNat drawable.yoffset
  have place : (0 + y) * fix.lineLength.toNat + format.bytes * (0 + x)
      = format.bytes * (y * var.xres.toNat + x) := by
    rw [packed.line]
    ring
  have pixelEnd := block_end format.bytes (raster_lt column line)
  have length : (block format.bytes memory (y * var.xres.toNat + x)).length = format.bytes := by
    rw [block, List.length_take, List.length_drop]
    omega
  rw [xoffset, yoffset, Fbcat.bytesPerPixel_toNat standard, place, pixelWord,
    Fbcat.bytesPerPixel_toNat standard]
  exact mappedColour_standard standard length

-----------------------------------------------------------------------------------------
-- The files of a drawn string
-----------------------------------------------------------------------------------------

/-- The colour of a pixel in a text: that of its last character, or the one from before. -/
def textColour (var : FbVarScreeninfo) (format : Format) (x y : Int) (color : BitVec 32)
    (str memory : List UInt8) (column line : Nat)
    : Colour :=
  match lastCell (ownCells var.xres x y str) column line with
  | some cell => colourOf (shownColour format (cell.colourAt color column line))
  | none => colourOf (format.colour (block format.bytes memory (line * var.xres.toNat + column)))

/-- The picture of a string's own characters over what the memory held before. -/
def textPicture (var : FbVarScreeninfo) (format : Format) (x y : Int) (color : BitVec 32)
    (str memory : List UInt8)
    : Image Colour :=
  .ofPixels var.xres.toNat var.yres.toNat (textColour var format x y color str memory)

def black : Colour := { red := 0, green := 0, blue := 0 }

/-- The picture that a run leaves: the text, with the cell at its end wiped. The loop draws
the string's terminating zero as well.
-/
def wipedPicture (var : FbVarScreeninfo) (format : Format) (x y : Int) (color : BitVec 32)
    (str memory : List UInt8)
    : Image Colour :=
  .ofPixels var.xres.toNat var.yres.toNat fun column line =>
    if (endCell var.xres x y str).Covers column line then
      black
    else
      textColour var format x y color str memory column line

theorem lastCell_stringCells (xres : BitVec 32) (x y : Int) (str : List UInt8)
    (column line : Nat)
    : lastCell (stringCells xres x y str) column line
      = if (endCell xres x y str).Covers column line then
          some (endCell xres x y str)
        else
          lastCell (ownCells xres x y str) column line := by
  rw [stringCells_eq, lastCell, List.reverse_append, List.reverse_singleton,
    List.singleton_append, List.find?_cons]
  by_cases covers : (endCell xres x y str).Covers column line <;> simp [covers, lastCell]

/-- The terminating zero has no dots. -/
theorem endCell_colourAt {xres : BitVec 32} {x y : Int} {str : List UInt8} {column line : Nat}
    (covers : (endCell xres x y str).Covers column line) (color : BitVec 32)
    : (endCell xres x y str).colourAt color column line = 0 := by
  obtain ⟨_, _, top, bottom⟩ := covers
  have row : (line - (endCell xres x y str).y).toNat < 16 := by omega
  have nul : (endCell xres x y str).character.toNat * 16 = 0 := rfl
  rw [Cell.colourAt, nul, Nat.zero_add, fontByte_nul row]
  simp

theorem shownColour_zero (format : Format) : colourOf (shownColour format 0) = black := by
  cases format <;> rfl

/-- The colour of a text's pixel is that of the bytes that the text leaves in it. -/
theorem Drawable.textColour_eq (drawable : Drawable var format) (x y : Int)
    (color : BitVec 32) (str memory : List UInt8) (column line : Nat)
    : textColour var format x y color str memory column line
      = colourOf
          (format.colour
            (textPixel format.bytes (ownCells var.xres x y str) color column line
              (block format.bytes memory (line * var.xres.toNat + column)))) := by
  rw [textColour, textPixel]
  cases lastCell (ownCells var.xres x y str) column line with
  | some cell =>
      dsimp only
      rw [drawable.pixelBytes_eq, drawable.colour_encode]
  | none => rfl

/-- The cells of a string with its end leave the wiped picture. -/
theorem Drawable.wiped_eq (drawable : Drawable var format) {x y : Int} {color : BitVec 32}
    {str memory final : List UInt8}
    (held
      : ∀ column line,
          column < var.xres.toNat
          → line < var.yres.toNat
          → block format.bytes final (line * var.xres.toNat + column)
            = textPixel format.bytes (stringCells var.xres x y str) color column line
                (block format.bytes memory (line * var.xres.toNat + column)))
    : framePicture var format final = wipedPicture var format x y color str memory := by
  apply Image.ofPixels_congr
  intro column columnInside line lineInside
  rw [held column line columnInside lineInside, textPixel, lastCell_stringCells]
  by_cases covers : (endCell var.xres x y str).Covers column line
  · rw [if_pos covers, if_pos covers]
    dsimp only
    rw [endCell_colourAt covers, drawable.pixelBytes_eq, drawable.colour_encode,
      shownColour_zero]
  · rw [if_neg covers, if_neg covers, drawable.textColour_eq, textPixel]

/-- Where the cell at the end is blank already, only the text has changed. -/
theorem Drawable.wiped_eq_text (drawable : Drawable var format)
    (screen : TextScreen var format.bytes) {x y : Int} {color : BitVec 32}
    {str memory : List UInt8} (fits : (endCell var.xres x y str).Fits var)
    (blank : EndBlank var format.bytes x y color str memory)
    : wipedPicture var format x y color str memory
      = textPicture var format x y color str memory := by
  apply Image.ofPixels_congr
  intro column columnInside line _
  by_cases covers : (endCell var.xres x y str).Covers column line
  · have member := (mem_endPlaces_iff screen fits color).mpr ⟨column, line, covers, rfl⟩
    obtain ⟨_, zero⟩ := blank _ member
    rw [raster_mod columnInside, raster_div columnInside] at zero
    rw [if_pos covers, drawable.textColour_eq, zero, drawable.pixelBytes_eq,
      drawable.colour_encode, shownColour_zero]
  · rw [if_neg covers]

/-- A string whose cells are on the screen is in the files of both tools, as long as the
memory is where they read it.
-/
theorem lcdPutString_in_files (drawable : Drawable var format)
    (screen : TextScreen var format.bytes) {x y : Int} {str : List UInt8}
    (fit : ∀ cell ∈ stringCells var.xres x y str, cell.Fits var) (color : BitVec 32)
    {memory : List UInt8}
    (mapped : memory.length = format.bytes * (var.xres.toNat * var.yres.toNat))
    {fix : FbFixScreeninfo} (packed : PackedLines fix var format)
    {env : List UInt8 → Environment} {device : List UInt8 → Device}
    (readable : ∀ memory, Readable (env memory) (device memory) fix var memory)
    : ∃ final dumped previewed,
        lcdPutString (Screen.init var) memory x y color str = .ok final
        ∧ Fbcat.main (env final) = .ok dumped
        ∧ runOncePpm var final = .ok previewed
        ∧ readPixmap dumped
          = some (wipedPicture var format x y color str memory)
        ∧ readPixmap previewed
          = some (wipedPicture var format x y color str memory) := by
  obtain ⟨final, ran, length, held⟩ := screen.lcdPutCells_ok fit color mapped
  rw [mapped] at length
  have tall := screen.tall
  have small := drawable.small
  have narrow : 3 * var.xres.toNat < 2 ^ 32 := by
    have bits : 16 ≤ var.bitsPerPixel.toNat := by
      cases drawable.standard <;> omega
    have lower : var.xres.toNat * 16 * 16
        ≤ var.xres.toNat * var.yres.toNat * var.bitsPerPixel.toNat :=
      Nat.mul_le_mul (Nat.mul_le_mul_left _ tall) bits
    omega
  have size : frameSize var = final.length := drawable.frameSize_eq.trans length.symm
  have read : readFrame var final = final := by
    rw [readFrame, size, List.take_length]
  obtain ⟨dumped, written, dumpShown⟩ :=
    drawable.main_shows packed narrow length.ge (readable final)
  have enough : format.bytes * (var.xres.toNat * var.yres.toNat)
      ≤ (readFrame var final).length := by
    rw [read, length]
  obtain ⟨previewed, once, onceShown⟩ := drawable.standard.supports.runOncePpm_shows enough
  rw [read] at onceShown
  have picture := drawable.wiped_eq held
  refine ⟨final, dumped, previewed, ?_, written, once, picture ▸ dumpShown, picture ▸ onceShown⟩
  rw [lcdPutString_eq_lcdPutPixels]
  exact ran

/-- The driver's own screen can be drawn on. -/
theorem dummyFb_drawable : Drawable Fbdev.dummyFbInfo.var .rgb565 := by
  have supported : Format.rgb565 ≠ .rgb888 := Format.noConfusion
  exact ⟨.rgb565 rfl rfl, supported, rfl, rfl, rfl, by decide⟩

end DummyDrivers.FbStr
