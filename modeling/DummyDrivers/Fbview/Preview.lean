import DummyDrivers.Fbview.Frame

/-! Which screen geometries the preview shows right. The tool reads from the start of the
memory and takes its lines to be as long as the visible ones.
-/

namespace DummyDrivers.Fbview

open DummyDrivers.Blocks
open DummyDrivers.Fb
open DummyDrivers.LittleEndian

/-- A channel has at least one bit inside a 32-bit pixel. -/
def ShowsBits (channel : Nat × Nat) : Prop := 0 < channel.2 ∧ channel.1 < 32

/-- No bit of a pixel has any part in its colour. -/
def Format.Blank : Format → Prop
  | .rgb565 | .rgb888 => False
  | .masked channels =>
      ¬ ShowsBits channels.red ∧ ¬ ShowsBits channels.green ∧ ¬ ShowsBits channels.blue

theorem channelTop_blank {channel : Nat × Nat} (hidden : ¬ ShowsBits channel) {p : Nat}
    (small : p < 2 ^ 32)
    : channelTop p channel = 0 := by
  have nothing : (p >>> channel.1) % 2 ^ channel.2 = 0 := by
    rcases Nat.eq_zero_or_pos channel.2 with empty | positive
    · rw [empty, pow_zero, Nat.mod_one]
    · have far : 32 ≤ channel.1 := Nat.le_of_not_lt fun near => hidden ⟨positive, near⟩
      have zero : p >>> channel.1 = 0 := by
        rw [Nat.shiftRight_eq_div_pow]
        exact Nat.div_eq_of_lt (small.trans_le (Nat.pow_le_pow_right (by omega) far))
      rw [zero, Nat.zero_mod]
  rw [channelTop, nothing, Nat.zero_shiftLeft]
  rfl

/-- A shown channel of a pixel with all bits set: its lowest bit is one. -/
theorem channelTop_ones {channel : Nat × Nat} (short : channel.2 ≤ 8)
    (shown : ShowsBits channel)
    : channelTop (2 ^ 32 - 1) channel ≠ channelTop 0 channel := by
  have bit : (((2 ^ 32 - 1) >>> channel.1) % 2 ^ channel.2).testBit 0 = true := by
    rw [Nat.testBit_mod_two_pow, Nat.testBit_shiftRight, Nat.add_zero,
      Nat.testBit_two_pow_sub_one]
    simp [shown.1, shown.2]
  have positive : 0 < ((2 ^ 32 - 1) >>> channel.1) % 2 ^ channel.2 := by
    apply Nat.pos_of_ne_zero
    intro zero
    rw [zero, Nat.zero_testBit] at bit
    contradiction
  have small := channelTop_le (2 ^ 32 - 1) short
  intro same
  have value := congrArg UInt8.toNat same
  rw [channelTop, channelTop, UInt8.toNat_ofNat', Nat.mod_eq_of_lt (by omega),
    Nat.zero_shiftRight, Nat.zero_mod, Nat.zero_shiftLeft] at value
  have shifted : 0 < (((2 ^ 32 - 1) >>> channel.1) % 2 ^ channel.2) <<< (8 - channel.2) := by
    rw [Nat.shiftLeft_eq]
    exact Nat.mul_pos positive (Nat.two_pow_pos _)
  exact shifted.ne' value

theorem Format.colour_blank {format : Format} (blank : format.Blank) (pixel other : List UInt8)
    (short : pixel.length ≤ format.bytes) (otherShort : other.length ≤ format.bytes)
    : format.colour pixel = format.colour other := by
  cases format with
  | rgb565 | rgb888 => contradiction
  | masked channels =>
      obtain ⟨red, green, blue⟩ := blank
      have first : leWord pixel < 2 ^ 32 := leWord_lt_of_length_le short
      have second : leWord other < 2 ^ 32 := leWord_lt_of_length_le otherShort
      simp only [Format.colour, channelTop_blank red first, channelTop_blank green first,
        channelTop_blank blue first, channelTop_blank red second, channelTop_blank green second,
        channelTop_blank blue second]

/-- The colour of a pixel with all bits set differs from that of one with no bit set. -/
theorem Supports.colour_ones {var : FbVarScreeninfo} {format : Format}
    (supports : Supports var format) (visible : ¬ format.Blank)
    : format.colour (List.replicate format.bytes 0xFF)
      ≠ format.colour (List.replicate format.bytes 0) := by
  cases supports with
  | rgb565 => decide
  | rgb888 => decide
  | masked bits short =>
      obtain ⟨red, green, blue⟩ := short
      intro same
      have ones : leWord (List.replicate 4 0xFF) = 2 ^ 32 - 1 := rfl
      have zeros : leWord (List.replicate 4 0) = 0 := rfl
      simp only [Format.colour, Format.bytes, ones, zeros, List.cons.injEq, and_true] at same
      refine visible ⟨?_, ?_, ?_⟩
      · exact fun shown => channelTop_ones red shown same.1
      · exact fun shown => channelTop_ones green shown same.2.1
      · exact fun shown => channelTop_ones blue shown same.2.2

theorem StandardFormat.visible {var : FbVarScreeninfo} {format : Format}
    (standard : StandardFormat var format)
    : ¬ format.Blank := by
  intro blank
  cases standard with
  | rgb565 | rgb888 => exact blank
  | xrgb8888 => exact blank.1 ⟨by decide, by decide⟩

/-- Two places of a memory are told apart by some content. Witness: one pixel with all its
bits set, and zeros everywhere else.
-/
theorem Supports.separates {var : FbVarScreeninfo} {format : Format}
    (supports : Supports var format) (visible : ¬ format.Blank) {count first second : Nat}
    (firstInside : first < count) (secondInside : second < count) (different : first ≠ second)
    : ∃ memory : List UInt8,
        memory.length = format.bytes * count
        ∧ format.colour (block format.bytes memory first)
          ≠ format.colour (block format.bytes memory second) := by
  have ones : (List.replicate format.bytes (0xFF : UInt8)).length = format.bytes := by simp
  have fits : format.bytes * first + format.bytes
      ≤ (List.replicate (format.bytes * count) (0 : UInt8)).length := by
    simpa using block_end format.bytes firstInside
  refine ⟨patch (List.replicate (format.bytes * count) 0) (format.bytes * first)
    (List.replicate format.bytes 0xFF), ?_, ?_⟩
  · rw [patch_length (by rw [ones]; exact fits), List.length_replicate]
  · have zeros : block format.bytes (List.replicate (format.bytes * count) (0 : UInt8)) second
        = List.replicate format.bytes 0 :=
      block_replicate 0 (block_end format.bytes secondInside)
    rw [block_patch ones fits, block_patch ones fits, if_pos rfl, if_neg different.symm, zeros]
    exact supports.colour_ones visible

/-- A visible area inside the virtual one. -/
structure Geometry (var : FbVarScreeninfo) : Prop where
  columns : 1 ≤ var.xres.toNat
  lines : 1 ≤ var.yres.toNat
  columnsInside : var.xoffset.toNat + var.xres.toNat ≤ var.xresVirtual.toNat
  linesInside : var.yoffset.toNat + var.yres.toNat ≤ var.yresVirtual.toNat

/-- The number of the memory pixel that is visible at a place of the screen. -/
def memoryIndex (var : FbVarScreeninfo) (x y : Nat) : Nat :=
  (var.yoffset.toNat + y) * var.xresVirtual.toNat + (var.xoffset.toNat + x)

/-- For every content of the memory the preview of it shows the colour of the visible
pixel at every place of the screen.
-/
def PreviewRight (var : FbVarScreeninfo) (format : Format) : Prop :=
  ∀ memory,
    memory.length = format.bytes * (var.xresVirtual.toNat * var.yresVirtual.toNat)
    → ∃ rgb,
        (Converter.init var).convert (readFrame var memory) = .ok rgb
        ∧ ∀ x y,
            x < var.xres.toNat
            → y < var.yres.toNat
            → block 3 rgb (y * var.xres.toNat + x)
              = format.colour (block format.bytes memory (memoryIndex var x y))

/-- The visible pixels lie in the memory. -/
theorem Geometry.memoryIndex_lt {var : FbVarScreeninfo} (geometry : Geometry var) {x y : Nat}
    (column : x < var.xres.toNat) (line : y < var.yres.toNat)
    : memoryIndex var x y < var.xresVirtual.toNat * var.yresVirtual.toNat := by
  have columnsInside := geometry.columnsInside
  have linesInside := geometry.linesInside
  exact raster_lt (by omega) (by omega)

/-- What the preview shows: the first pixels of the memory, one after the other. -/
theorem Geometry.preview {var : FbVarScreeninfo} (geometry : Geometry var) {format : Format}
    (supports : Supports var format) {memory : List UInt8}
    (whole
      : memory.length = format.bytes * (var.xresVirtual.toNat * var.yresVirtual.toNat))
    : ∃ rgb,
        (Converter.init var).convert (readFrame var memory) = .ok rgb
        ∧ ∀ index < var.xres.toNat * var.yres.toNat,
            block 3 rgb index = format.colour (block format.bytes memory index) := by
  have columnsInside := geometry.columnsInside
  have linesInside := geometry.linesInside
  have size := supports.frameSize_eq
  have read : format.bytes * (var.xres.toNat * var.yres.toNat) ≤ frameSize var := by
    rw [size]
    exact Nat.mul_le_mul_left _ (Nat.mul_le_mul_right _ (by omega))
  have held : frameSize var ≤ memory.length := by
    rw [size, whole]
    exact Nat.mul_le_mul_left _ (Nat.mul_le_mul_left _ (by omega))
  refine ⟨_, supports.convert_ok ?_, ?_⟩
  · rw [readFrame, List.length_take]
    omega
  · intro index inside
    rw [Format.block_frame format _ inside, readFrame, block_take]
    exact (block_end format.bytes inside).trans read

/-- The visible area starts at the memory's first pixel, and its lines follow each other
without padding.
-/
def Unpanned (var : FbVarScreeninfo) : Prop :=
  var.xoffset = 0 ∧ var.yoffset = 0 ∧ (var.yres = 1 ∨ var.xresVirtual = var.xres)

/-- Every place of the screen is the memory's next pixel exactly in an unpanned area. -/
theorem Geometry.memoryIndex_eq_iff {var : FbVarScreeninfo} (geometry : Geometry var)
    : (∀ x y,
        x < var.xres.toNat → y < var.yres.toNat → memoryIndex var x y = y * var.xres.toNat + x)
      ↔ Unpanned var := by
  have columns := geometry.columns
  have lines := geometry.lines
  have columnsInside := geometry.columnsInside
  constructor
  · intro same
    have first := same 0 0 (by omega) (by omega)
    simp only [memoryIndex, Nat.add_zero, Nat.zero_mul, Nat.add_eq_zero_iff] at first
    obtain ⟨lineStart, xoffset⟩ := first
    have yoffset : var.yoffset.toNat = 0 := by
      rcases Nat.mul_eq_zero.mp lineStart with zero | zero
      · exact zero
      · omega
    refine ⟨BitVec.eq_of_toNat_eq xoffset, BitVec.eq_of_toNat_eq yoffset, ?_⟩
    by_cases single : var.yres.toNat = 1
    · exact .inl (BitVec.eq_of_toNat_eq single)
    · have second := same 0 1 (by omega) (by omega)
      simp only [memoryIndex, yoffset, xoffset, Nat.add_zero, Nat.zero_add, Nat.one_mul]
        at second
      exact .inr (BitVec.eq_of_toNat_eq second)
  · rintro ⟨xoffset, yoffset, unpadded⟩ x y column line
    have zero : (0 : BitVec 32).toNat = 0 := rfl
    rw [memoryIndex, xoffset, yoffset, zero, Nat.zero_add, Nat.zero_add]
    rcases unpadded with single | equal
    · have top : y = 0 := by
        rw [single] at line
        exact Nat.lt_one_iff.mp line
      rw [top, Nat.zero_mul, Nat.zero_mul]
    · rw [equal]

/-- The preview is right for every content exactly when the visible area is unpanned (or
the format shows no bit of a pixel at all). Witness: elsewhere some place of the screen is
taken from a pixel that some content tells apart from the visible one.
-/
theorem previewRight_iff {var : FbVarScreeninfo} (geometry : Geometry var) {format : Format}
    (supports : Supports var format)
    : PreviewRight var format ↔ Unpanned var ∨ format.Blank := by
  constructor
  · intro right
    by_contra neither
    obtain ⟨panned, visible⟩ := not_or.mp neither
    refine panned (geometry.memoryIndex_eq_iff.mp ?_)
    intro x y column line
    by_contra different
    have place := raster_lt column line
    have inside := geometry.memoryIndex_lt column line
    have columnsInside := geometry.columnsInside
    have linesInside := geometry.linesInside
    have screen : var.xres.toNat * var.yres.toNat
        ≤ var.xresVirtual.toNat * var.yresVirtual.toNat :=
      Nat.mul_le_mul (by omega) (by omega)
    obtain ⟨memory, whole, apart⟩ :=
      supports.separates visible inside (place.trans_le screen) different
    obtain ⟨rgb, converted, shown⟩ := geometry.preview supports whole
    obtain ⟨rgb', converted', claimed⟩ := right memory whole
    obtain rfl := Except.ok.inj (converted'.symm.trans converted)
    exact apart ((claimed x y column line).symm.trans (shown _ place))
  · intro condition memory whole
    obtain ⟨rgb, converted, shown⟩ := geometry.preview supports whole
    refine ⟨rgb, converted, ?_⟩
    intro x y column line
    rw [shown _ (raster_lt column line)]
    rcases condition with unpanned | blank
    · rw [geometry.memoryIndex_eq_iff.mpr unpanned x y column line]
    · apply Format.colour_blank blank <;> simp [block]

/-- A screen of 2x2 pixels with lines of `virtual` pixels in the memory. -/
def screen2x2 (virtual : BitVec 32) : FbVarScreeninfo :=
  {
    FbVarScreeninfo.zero with
    xres := 2
    yres := 2
    xresVirtual := virtual
    yresVirtual := 2
    bitsPerPixel := 16
    red := { offset := 11, length := 5 }
    green := { offset := 5, length := 6 }
    blue := { offset := 0, length := 5 }
  }

theorem screen2x2_supports (virtual : BitVec 32) : Supports (screen2x2 virtual) .rgb565 :=
  .rgb565 rfl rfl

/-- Witness: a screen without padding. -/
theorem previewRight_unpadded : PreviewRight (screen2x2 2) .rgb565 ∧ Unpanned (screen2x2 2) := by
  have geometry : Geometry (screen2x2 2) := by constructor <;> decide
  have unpanned : Unpanned (screen2x2 2) := ⟨rfl, rfl, .inr rfl⟩
  exact ⟨(previewRight_iff geometry (screen2x2_supports 2)).mpr (.inl unpanned), unpanned⟩

/-- With one pixel of padding after each line, the second line of the preview starts with
the padding of the first.
-/
theorem previewRight_padded_fails
    : ¬ ∀ var format, Geometry var → Supports var format → PreviewRight var format := by
  intro right
  have geometry : Geometry (screen2x2 3) := by constructor <;> decide
  have whole : [0, 0, 0, 0, 0xFF, 0xFF, 0, 0, 0, 0, 0, (0 : UInt8)].length = 2 * (3 * 2) := rfl
  obtain ⟨rgb, converted, shown⟩ := geometry.preview (screen2x2_supports 3) whole
  obtain ⟨rgb', converted', claimed⟩ := right _ _ geometry (screen2x2_supports 3) _ whole
  obtain rfl := Except.ok.inj (converted'.symm.trans converted)
  have white := shown 2 (by decide)
  have black := claimed 0 1 (by decide) (by decide)
  exact absurd (white.symm.trans black) (by decide)

end DummyDrivers.Fbview
