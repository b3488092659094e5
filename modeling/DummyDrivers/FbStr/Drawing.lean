import DummyDrivers.FbStr.Pixels
import DummyDrivers.Fbview.Frame

/-! What the preview shows of a framebuffer after any sequence of drawn pixels. -/

namespace DummyDrivers.FbStr

open DummyDrivers.Blocks
open DummyDrivers.Fb
open DummyDrivers.Fbview
open DummyDrivers.LittleEndian

/-- A screen on which pixels can be drawn for the preview: its lines follow each other
without padding, and its number of bits is a positive `int`.
-/
structure Drawable (var : FbVarScreeninfo) (format : Format) : Prop where
  standard : StandardFormat var format
  supported : format ≠ .rgb888
  virtual : var.xresVirtual = var.xres
  xoffset : var.xoffset = 0
  yoffset : var.yoffset = 0
  small : var.xres.toNat * var.yres.toNat * var.bitsPerPixel.toNat < 2 ^ 31

/-- The red, green and blue byte in which a drawn colour is shown. -/
def shownColour (format : Format) (color : BitVec 32) : List UInt8 :=
  let red := (color >>> 16).setWidth 8
  let green := (color >>> 8).setWidth 8
  let blue := color.setWidth 8
  let bytes : List (BitVec 8) :=
    match format with
    | .rgb565 =>
        [
          (red >>> 3) <<< 3 ||| red >>> 5,
          (green >>> 2) <<< 2 ||| green >>> 6,
          (blue >>> 3) <<< 3 ||| blue >>> 5
        ]
    | _ => [red, green, blue]
  bytes.map UInt8.ofBitVec

/-- The bytes that are stored for a colour. -/
def encode (format : Format) (color : BitVec 32) : List UInt8 :=
  match format with
  | .rgb565 => leBytes 2 (pack565 color).toNat
  | _ => leBytes 4 color.toNat

-----------------------------------------------------------------------------------------
-- The colour of a drawn pixel
-----------------------------------------------------------------------------------------

/-- A channel of a colour as a number. -/
theorem channel_toNat (color : BitVec 32) (offset : Nat)
    : ((color >>> offset) &&& 0xFF).toNat = (color.toNat >>> offset) % 256 := by
  have mask : (0xFF : BitVec 32).toNat = 2 ^ 8 - 1 := rfl
  rw [BitVec.toNat_and, BitVec.toNat_ushiftRight, mask, Nat.and_two_pow_sub_one_eq_mod]

/-- Three numbers side by side in a word. -/
theorem packed_eq {red green blue : Nat} (greenSmall : green < 2 ^ 6) (blueSmall : blue < 2 ^ 5)
    : red <<< 11 ||| green <<< 5 ||| blue = red * 2 ^ 11 + green * 2 ^ 5 + blue := by
  have lower : green <<< 5 ||| blue = green * 2 ^ 5 + blue := by
    rw [← Nat.shiftLeft_add_eq_or_of_lt blueSmall, Nat.shiftLeft_eq]
  rw [Nat.or_assoc, lower, ← Nat.shiftLeft_add_eq_or_of_lt (by omega), Nat.shiftLeft_eq,
    Nat.add_assoc]

/-- The table reads the three numbers back. -/
theorem rgb565Entry_packed {red green blue : Nat} (redSmall : red < 2 ^ 5)
    (greenSmall : green < 2 ^ 6) (blueSmall : blue < 2 ^ 5)
    : rgb565Entry (red <<< 11 ||| green <<< 5 ||| blue)
      = [
          UInt8.ofNat (red <<< 3 ||| red >>> 2),
          UInt8.ofNat (green <<< 2 ||| green >>> 4),
          UInt8.ofNat (blue <<< 3 ||| blue >>> 2)
        ] := by
  have five (value : Nat) : value &&& 0x1F = value % 2 ^ 5 :=
    Nat.and_two_pow_sub_one_eq_mod value 5
  have six (value : Nat) : value &&& 0x3F = value % 2 ^ 6 :=
    Nat.and_two_pow_sub_one_eq_mod value 6
  have redAt : ((red * 2 ^ 11 + green * 2 ^ 5 + blue) >>> 11) &&& 0x1F = red := by
    rw [five, Nat.shiftRight_eq_div_pow]
    omega
  have greenAt : ((red * 2 ^ 11 + green * 2 ^ 5 + blue) >>> 5) &&& 0x3F = green := by
    rw [six, Nat.shiftRight_eq_div_pow]
    omega
  have blueAt : (red * 2 ^ 11 + green * 2 ^ 5 + blue) &&& 0x1F = blue := by
    rw [five]
    omega
  rw [packed_eq greenSmall blueSmall, rgb565Entry, redAt, greenAt, blueAt]

theorem pack565_toNat (color : BitVec 32)
    : (pack565 color).toNat
      = (((color.toNat >>> 16) % 256) >>> 3) <<< 11
        ||| (((color.toNat >>> 8) % 256) >>> 2) <<< 5
        ||| (color.toNat % 256) >>> 3 := by
  have place {value offset : Nat} (small : value < 2 ^ 8) (low : offset ≤ 16)
      : value <<< offset % 2 ^ 32 = value <<< offset := by
    have bound : value * 2 ^ offset < 2 ^ 8 * 2 ^ 16 :=
      Nat.mul_lt_mul_of_lt_of_le small (Nat.pow_le_pow_right (by omega) low) (by omega)
    rw [Nat.shiftLeft_eq]
    exact Nat.mod_eq_of_lt (by omega)
  have narrow (value offset : Nat) : (value % 256) >>> offset < 2 ^ 8 := by
    have below := Nat.shiftRight_le (value % 256) offset
    omega
  simp only [pack565, BitVec.toNat_or, BitVec.toNat_shiftLeft, BitVec.toNat_ushiftRight,
    channel_toNat]
  rw [place (narrow _ 3) (by omega), place (narrow _ 2) (by omega), place (narrow _ 3) (by omega)]
  rfl

/-- A channel shown in fewer bits: its upper bits, and the first of them again below. -/
theorem ofBitVec_replicated (value : BitVec 8) {low : Nat} (small : low ≤ 4)
    : UInt8.ofBitVec ((value >>> low) <<< low ||| value >>> (8 - low))
      = UInt8.ofNat
        ((value.toNat >>> low) <<< low ||| (value.toNat >>> low) >>> (8 - 2 * low)) := by
  have lower : value.toNat >>> low >>> (8 - 2 * low) = value.toNat >>> (8 - low) := by
    rw [← Nat.shiftRight_add]
    congr 1
    omega
  have upper : (value.toNat >>> low) <<< low < 2 ^ 8 := by
    rw [Nat.shiftRight_eq_div_pow, Nat.shiftLeft_eq]
    exact (Nat.div_mul_le_self _ _).trans_lt value.isLt
  have rest : value.toNat >>> (8 - low) < 2 ^ 8 :=
    (Nat.shiftRight_le _ _).trans_lt value.isLt
  apply UInt8.toNat_inj.mp
  rw [lower, UInt8.toNat_ofBitVec, UInt8.toNat_ofNat', BitVec.toNat_or, BitVec.toNat_shiftLeft,
    BitVec.toNat_ushiftRight, BitVec.toNat_ushiftRight, Nat.mod_eq_of_lt upper,
    Nat.mod_eq_of_lt (Nat.or_lt_two_pow upper rest)]

theorem setWidth_toNat (color : BitVec 32) (offset : Nat)
    : ((color >>> offset).setWidth 8).toNat = (color.toNat >>> offset) % 256 := by
  rw [BitVec.toNat_setWidth, BitVec.toNat_ushiftRight]

theorem ofBitVec_setWidth (color : BitVec 32) (offset : Nat)
    : UInt8.ofBitVec ((color >>> offset).setWidth 8) = channelTop color.toNat (offset, 8) := by
  apply UInt8.toNat_inj.mp
  rw [UInt8.toNat_ofBitVec, setWidth_toNat, channelTop, UInt8.toNat_ofNat']
  exact (Nat.mod_mod _ _).symm

/-- The preview shows the colour of the stored bytes. -/
theorem Drawable.colour_encode {var : FbVarScreeninfo} {format : Format}
    (drawable : Drawable var format) (color : BitVec 32)
    : format.colour (encode format color) = shownColour format color := by
  cases drawable.standard with
  | rgb565 =>
      have low : (color.setWidth 8).toNat = color.toNat % 256 := setWidth_toNat color 0
      have five (value : Nat) : (value % 256) >>> 3 < 2 ^ 5 := by
        rw [Nat.shiftRight_eq_div_pow]
        omega
      have six (value : Nat) : (value % 256) >>> 2 < 2 ^ 6 := by
        rw [Nat.shiftRight_eq_div_pow]
        omega
      have word : (pack565 color).toNat < 256 ^ 2 := by
        have red := five (color.toNat >>> 16)
        have green := six (color.toNat >>> 8)
        have blue := five color.toNat
        rw [pack565_toNat, packed_eq green blue]
        omega
      calc Format.rgb565.colour (encode .rgb565 color)
          = rgb565Entry (leWord (leBytes 2 (pack565 color).toNat)) := rfl
        _ = rgb565Entry (pack565 color).toNat := by
            rw [leWord_leBytes, Nat.mod_eq_of_lt word]
        _ = shownColour .rgb565 color := by
            rw [pack565_toNat, rgb565Entry_packed (five _) (six _) (five _)]
            simp only [shownColour, List.map_cons, List.map_nil]
            rw [ofBitVec_replicated _ (by omega : 3 ≤ 4), ofBitVec_replicated _ (by omega : 2 ≤ 4),
              ofBitVec_replicated _ (by omega : 3 ≤ 4), setWidth_toNat, setWidth_toNat, low]
  | rgb888 => exact absurd rfl drawable.supported
  | xrgb8888 =>
      have low : UInt8.ofBitVec (color.setWidth 8) = channelTop color.toNat (0, 8) :=
        ofBitVec_setWidth color 0
      have word : leWord (leBytes 4 color.toNat) = color.toNat := by
        rw [leWord_leBytes]
        exact Nat.mod_eq_of_lt color.isLt
      change [
          channelTop (leWord (leBytes 4 color.toNat)) (16, 8),
          channelTop (leWord (leBytes 4 color.toNat)) (8, 8),
          channelTop (leWord (leBytes 4 color.toNat)) (0, 8)
        ] = _
      rw [word, ← ofBitVec_setWidth, ← ofBitVec_setWidth, ← low]
      rfl

-----------------------------------------------------------------------------------------
-- All calls
-----------------------------------------------------------------------------------------

theorem Drawable.pixelSize {var : FbVarScreeninfo} {format : Format}
    (drawable : Drawable var format)
    : PixelSize var format.bytes := by
  have small := drawable.small
  cases drawable.standard with
  | rgb565 bits => exact ⟨.inr (.inl rfl), bits, small⟩
  | rgb888 => exact absurd rfl drawable.supported
  | xrgb8888 bits => exact ⟨.inr (.inr rfl), bits, small⟩

theorem Drawable.pixelBytes_eq {var : FbVarScreeninfo} {format : Format}
    (drawable : Drawable var format)
    : pixelBytes format.bytes = encode format := by
  cases drawable.standard with
  | rgb565 | xrgb8888 => rfl
  | rgb888 => exact absurd rfl drawable.supported

/-- The bytes that the memory holds for a pixel after some calls. -/
def pixelAfter (format : Format) (calls : List PixelCall) (x y : Nat) (before : List UInt8)
    : List UInt8 :=
  match lastColor calls x y with
  | some color => encode format color
  | none => before

/-- After calls on the screen every pixel holds what the last call at its position stored. -/
theorem Drawable.lcdPutPixels_ok {var : FbVarScreeninfo} {format : Format}
    (drawable : Drawable var format) {memory : List UInt8}
    (whole : format.bytes * (var.xres.toNat * var.yres.toNat) ≤ memory.length)
    {calls : List PixelCall} (onScreen : ∀ call ∈ calls, call.OnScreen var)
    : ∃ final,
        lcdPutPixels (Screen.init var) memory calls = .ok final
        ∧ final.length = memory.length
        ∧ ∀ x y,
            x < var.xres.toNat
            → y < var.yres.toNat
            → block format.bytes final (y * var.xres.toNat + x)
              = pixelAfter format calls x y
                  (block format.bytes memory (y * var.xres.toNat + x)) := by
  obtain ⟨final, ran, length, held⟩ := drawable.pixelSize.lcdPutPixels_ok whole onScreen
  refine ⟨final, ran, length, ?_⟩
  intro x y column line
  rw [held x y column line, bytesAfter, drawable.pixelBytes_eq]
  rfl

-----------------------------------------------------------------------------------------
-- The preview
-----------------------------------------------------------------------------------------

theorem Drawable.frameSize_eq {var : FbVarScreeninfo} {format : Format}
    (drawable : Drawable var format)
    : frameSize var = format.bytes * (var.xres.toNat * var.yres.toNat) := by
  rw [drawable.standard.supports.frameSize_eq, drawable.virtual]

theorem Drawable.convert_ok {var : FbVarScreeninfo} {format : Format}
    (drawable : Drawable var format) {memory : List UInt8}
    (whole : frameSize var ≤ memory.length)
    : (Converter.init var).convert (readFrame var memory)
      = .ok (format.frame memory (var.xres.toNat * var.yres.toNat)) := by
  have enough := drawable.frameSize_eq.ge
  have read : (readFrame var memory).length = frameSize var := List.length_take_of_le whole
  rw [drawable.standard.supports.convert_ok (read ▸ enough), readFrame,
    Format.frame_take format memory enough]

/-- After any calls on the screen the preview shows each drawn pixel in the colour of the
last call at its position, and each other pixel as before.
-/
theorem lcdPutPixels_shown {var : FbVarScreeninfo} {format : Format}
    (drawable : Drawable var format) {memory : List UInt8}
    (whole : frameSize var ≤ memory.length) {calls : List PixelCall}
    (onScreen : ∀ call ∈ calls, call.OnScreen var)
    : ∃ final initial rgb,
        lcdPutPixels (Screen.init var) memory calls = .ok final
        ∧ (Converter.init var).convert (readFrame var memory) = .ok initial
        ∧ (Converter.init var).convert (readFrame var final) = .ok rgb
        ∧ ∀ x y,
            x < var.xres.toNat
            → y < var.yres.toNat
            → block 3 rgb (y * var.xres.toNat + x)
              = match lastColor calls x y with
                | some color => shownColour format color
                | none => block 3 initial (y * var.xres.toNat + x) := by
  obtain ⟨final, ran, length, pixels⟩ :=
    drawable.lcdPutPixels_ok (drawable.frameSize_eq ▸ whole) onScreen
  refine ⟨final, _, _, ran, drawable.convert_ok whole, drawable.convert_ok (length ▸ whole), ?_⟩
  intro x y column line
  have place := raster_lt column line
  rw [Format.block_frame format _ place, Format.block_frame format _ place,
    pixels x y column line, pixelAfter]
  cases lastColor calls x y with
  | some color => exact drawable.colour_encode color
  | none => rfl

/-- Two calls at one position. -/
def redThenGreen : List PixelCall :=
  [{ x := 1, y := 0, color := 0xFF0000 }, { x := 1, y := 0, color := 0x00FF00 }]

/-- Witness: on a screen of two pixels the second call is shown and the first pixel stays. -/
theorem lcdPutPixels_shown_twice
    : ∃ final initial rgb,
        lcdPutPixels (Screen.init (rgb565Screen 2 1)) [1, 2, 3, 4] redThenGreen = .ok final
        ∧ (Converter.init (rgb565Screen 2 1)).convert (readFrame (rgb565Screen 2 1) [1, 2, 3, 4])
          = .ok initial
        ∧ (Converter.init (rgb565Screen 2 1)).convert (readFrame (rgb565Screen 2 1) final)
          = .ok rgb
        ∧ block 3 rgb 0 = block 3 initial 0
        ∧ block 3 rgb 1 = [0, 0xFF, 0] := by
  have drawable : Drawable (rgb565Screen 2 1) .rgb565 :=
    ⟨rgb565Screen_standard 2 1, nofun, rfl, rfl, rfl, by decide⟩
  have whole : frameSize (rgb565Screen 2 1) ≤ [1, 2, 3, (4 : UInt8)].length := by decide
  have onScreen (call : PixelCall) (member : call ∈ redThenGreen)
      : call.OnScreen (rgb565Screen 2 1) := by
    rcases List.mem_pair.mp member with rfl | rfl <;> constructor <;> decide
  obtain ⟨final, initial, rgb, ran, before, after, shown⟩ :=
    lcdPutPixels_shown drawable whole onScreen
  refine ⟨final, initial, rgb, ran, before, after, ?_, ?_⟩
  · exact shown 0 0 (by decide) (by decide)
  · exact shown 1 0 (by decide) (by decide)

end DummyDrivers.FbStr
