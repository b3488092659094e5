import DummyDrivers.Fbview.Frame
import Mathlib.Tactic.IntervalCases

/-! For which channels of a 32-bit pixel the converter shows their values on the full scale
of a byte, as it does for the three channels of RGB565.
-/

namespace DummyDrivers.Fbview

open DummyDrivers.Blocks
open DummyDrivers.Fb
open DummyDrivers.LittleEndian
open DummyDrivers.Loops
open DummyDrivers.Python

/-- A rendering of the values of some bits on the scale of a byte, from zero to all ones. -/
structure FullScale (length : Nat) (render : Nat → Nat) : Prop where
  monotone : ∀ value next, value ≤ next → next < 2 ^ length → render value ≤ render next
  zero : render 0 = 0
  ones : render (2 ^ length - 1) = 255

/-- The value of a channel in a pixel. -/
def channelValue (p : Nat) (channel : Nat × Nat) : Nat := (p >>> channel.1) % 2 ^ channel.2

/-- The bytes of a pixel when each channel has its own rendering. -/
def rendered (render : Rgb (Nat → Nat)) (channels : Rgb (Nat × Nat)) (p : Nat) : List UInt8 :=
  [
    UInt8.ofNat (render.red (channelValue p channels.red)),
    UInt8.ofNat (render.green (channelValue p channels.green)),
    UInt8.ofNat (render.blue (channelValue p channels.blue))
  ]

/-- Each rendering is on the full scale of its channel. -/
structure FullScales (render : Rgb (Nat → Nat)) (channels : Rgb (Nat × Nat)) : Prop where
  red : FullScale channels.red.2 render.red
  green : FullScale channels.green.2 render.green
  blue : FullScale channels.blue.2 render.blue

/-- A channel of at least one bit inside a 32-bit pixel. -/
def InPixel (channel : Nat × Nat) : Prop := 1 ≤ channel.2 ∧ channel.1 + channel.2 ≤ 32

instance (channel : Nat × Nat) : Decidable (InPixel channel) :=
  inferInstanceAs (Decidable (_ ∧ _))

/-- Screen information with three channels inside a 32-bit pixel. -/
structure MaskedLayout (var : FbVarScreeninfo) : Prop where
  bits : var.bitsPerPixel.toNat = 32
  red : InPixel (channelsOf var).red
  green : InPixel (channelsOf var).green
  blue : InPixel (channelsOf var).blue

/-- On every content that is long enough the converter succeeds with three bytes for each
pixel, its channels on full scale.
-/
def ConvertsOnFullScale (var : FbVarScreeninfo) : Prop :=
  ∃ render,
    FullScales render (channelsOf var)
    ∧ ∀ data : List UInt8,
        4 * (var.xres.toNat * var.yres.toNat) ≤ data.length
        → ∃ rgb,
            (Converter.init var).convert data = .ok rgb
            ∧ rgb.length = 3 * (var.xres.toNat * var.yres.toNat)
            ∧ ∀ index < var.xres.toNat * var.yres.toNat,
                block 3 rgb index
                = rendered render (channelsOf var) (leWord (block 4 data index))

/-- All three channels have the eight bits of a byte. -/
def BytesWide (channels : Rgb (Nat × Nat)) : Prop :=
  channels.red.2 = 8 ∧ channels.green.2 = 8 ∧ channels.blue.2 = 8

/-- The table's rendering of a short channel: its own bits once more below them. -/
def widen (length value : Nat) : Nat := value <<< (8 - length) ||| value >>> (2 * length - 8)

theorem widen_eq {length value : Nat} (bounds : 4 ≤ length ∧ length ≤ 8)
    (small : value < 2 ^ length)
    : widen length value = value * 2 ^ (8 - length) + value / 2 ^ (2 * length - 8) := by
  have below : value >>> (2 * length - 8) < 2 ^ (8 - length) := by
    rw [Nat.shiftRight_eq_div_pow, Nat.div_lt_iff_lt_mul (Nat.two_pow_pos _), ← Nat.pow_add]
    convert small using 2
    omega
  rw [widen, ← Nat.shiftLeft_add_eq_or_of_lt below, Nat.shiftLeft_eq, Nat.shiftRight_eq_div_pow]

theorem widen_fullScale {length : Nat} (bounds : 4 ≤ length ∧ length ≤ 8)
    : FullScale length (widen length) := by
  constructor
  case monotone =>
    intro value next le small
    rw [widen_eq bounds (by omega), widen_eq bounds small]
    exact Nat.add_le_add (Nat.mul_le_mul_right _ le) (Nat.div_le_div_right le)
  case zero => simp [widen]
  case ones =>
    obtain ⟨low, high⟩ := bounds
    interval_cases length <;> rfl

/-- The renderings of the table for RGB565. -/
def rgb565Render : Rgb (Nat → Nat) := { red := widen 5, green := widen 6, blue := widen 5 }

theorem rgb565Render_fullScales : FullScales rgb565Render rgb565Channels := by
  constructor
  case red => exact widen_fullScale (by decide)
  case green => exact widen_fullScale (by decide)
  case blue => exact widen_fullScale (by decide)

/-- The table has the channels of RGB565 on full scale. -/
theorem rgb565Entry_eq_rendered (p : Nat)
    : rgb565Entry p = rendered rgb565Render rgb565Channels p := by
  have five (q : Nat) : q &&& 0x1F = q % 2 ^ 5 := Nat.and_two_pow_sub_one_eq_mod q 5
  have six (q : Nat) : q &&& 0x3F = q % 2 ^ 6 := Nat.and_two_pow_sub_one_eq_mod q 6
  simp only [rgb565Entry, five, six]
  rfl

/-- The rendering of a channel in proportion to its value. -/
def proportional (length value : Nat) : Nat := value * 255 / (2 ^ length - 1)

theorem proportional_fullScale {length : Nat} (positive : 1 ≤ length)
    : FullScale length (proportional length) := by
  have some : 0 < 2 ^ length - 1 := by
    have two : 2 ^ 1 ≤ 2 ^ length := Nat.pow_le_pow_right (by omega) positive
    omega
  constructor
  case monotone =>
    intro value next le _
    exact Nat.div_le_div_right (Nat.mul_le_mul_right 255 le)
  case zero => simp [proportional]
  case ones => exact Nat.mul_div_cancel_left 255 some

/-- A channel of eight bits is a byte already. -/
theorem channelTop_byte (p : Nat) {channel : Nat × Nat} (wide : channel.2 = 8)
    : channelTop p channel
      = UInt8.ofNat (proportional channel.2 (channelValue p channel)) := by
  have ones : 2 ^ 8 - 1 = 255 := rfl
  rw [channelTop, proportional, channelValue, wide, ones, Nat.mul_div_cancel _ (by decide)]
  rfl

/-- A channel of a pixel with all bits set. -/
theorem channelValue_ones {channel : Nat × Nat} (inside : InPixel channel)
    : channelValue (2 ^ 32 - 1) channel = 2 ^ channel.2 - 1 := by
  obtain ⟨_, fits⟩ := inside
  apply Nat.eq_of_testBit_eq
  intro bit
  rw [channelValue, Nat.testBit_mod_two_pow, Nat.testBit_shiftRight,
    Nat.testBit_two_pow_sub_one, Nat.testBit_two_pow_sub_one]
  by_cases low : bit < channel.2
  · simp [low]
    omega
  · simp [low]

/-- The bits of a channel that are all set reach the top of the scale only if they are
eight.
-/
theorem length_of_channelTop_ones {channel : Nat × Nat} (inside : InPixel channel)
    (short : channel.2 ≤ 8) (top : channelTop (2 ^ 32 - 1) channel = 255)
    : channel.2 = 8 := by
  have value := channelValue_ones inside
  have positive := inside.1
  rw [channelValue] at value
  rw [channelTop, value] at top
  generalize channel.2 = length at *
  interval_cases length <;> simp_all

/-- A pixel with a channel of more than eight bits raises, whatever it holds. -/
theorem convertPixel_short {var : FbVarScreeninfo} {state next : List UInt8 × Nat} {p : Nat}
    (ran : (Converter.init var).convertPixel state p = .ok next)
    : (channelsOf var).red.2 ≤ 8 ∧ (channelsOf var).green.2 ≤ 8
      ∧ (channelsOf var).blue.2 ≤ 8 := by
  have short {x : Nat} {length result : Nat} (shifted : shiftLeft x (8 - length) = .ok result)
      : length ≤ 8 := by
    unfold shiftLeft at shifted
    split at shifted
    · contradiction
    · omega
  simp only [Converter.convertPixel, bind_eq_ok] at ran
  obtain ⟨red, redByte, _, _, green, greenByte, _, _, blue, blueByte, _⟩ := ran
  exact ⟨short redByte, short greenByte, short blueByte⟩

/-- The converter succeeds on some pixels only if no channel is longer than a byte. -/
theorem convert_short {var : FbVarScreeninfo} (bits : var.bitsPerPixel.toNat = 32)
    (pixel : 0 < var.xres.toNat * var.yres.toNat) {data rgb : List UInt8}
    (converted : (Converter.init var).convert data = .ok rgb)
    : (channelsOf var).red.2 ≤ 8 ∧ (channelsOf var).green.2 ≤ 8
      ∧ (channelsOf var).blue.2 ≤ 8 := by
  by_contra long
  rw [convert_masked bits, Converter.convert32] at converted
  obtain ⟨words, unpacked, ran⟩ := bind_eq_ok.mp converted
  obtain ⟨state, finished, _⟩ := bind_eq_ok.mp ran
  have first : ∃ word, word ∈ words := by
    unfold unpackWords at unpacked
    split at unpacked
    · obtain rfl := Except.ok.inj unpacked
      exact ⟨_, List.mem_map_of_mem (List.mem_range.mpr pixel)⟩
    · contradiction
  obtain ⟨word, member⟩ := first
  have fails (state next : List UInt8 × Nat) (_ : True)
      : (Converter.init var).convertPixel state word ≠ .ok next :=
    fun ran => long (convertPixel_short ran)
  exact foldlM_ne_ok fails (fun _ _ _ _ _ => trivial) member trivial _ finished

/-- All bits of the memory set. -/
theorem leWord_block_ones {count : Nat} (pixel : 0 < count)
    : leWord (block 4 (List.replicate (4 * count) 0xFF) 0) = 2 ^ 32 - 1 := by
  rw [block_replicate _ (block_end 4 pixel)]
  rfl

/-- A right conversion of some pixels has eight bits in each channel. Witness: all bits set. -/
theorem ConvertsOnFullScale.bytesWide {var : FbVarScreeninfo} (layout : MaskedLayout var)
    (right : ConvertsOnFullScale var) (pixel : 0 < var.xres.toNat * var.yres.toNat)
    : BytesWide (channelsOf var) := by
  obtain ⟨render, scales, converts⟩ := right
  have ones := leWord_block_ones pixel
  generalize whole : List.replicate (4 * (var.xres.toNat * var.yres.toNat)) (0xFF : UInt8) = data
    at ones
  have enough : 4 * (var.xres.toNat * var.yres.toNat) ≤ data.length := by simp [← whole]
  obtain ⟨rgb, converted, _, shown⟩ := converts data enough
  have short := convert_short layout.bits pixel converted
  obtain rfl := Except.ok.inj
    (converted.symm.trans ((Supports.masked layout.bits short).convert_ok enough))
  have first := shown 0 pixel
  rw [Format.block_frame _ _ pixel] at first
  simp only [Format.colour, Format.bytes, rendered, ones, channelValue_ones layout.red,
    channelValue_ones layout.green, channelValue_ones layout.blue, scales.red.ones,
    scales.green.ones, scales.blue.ones, List.cons.injEq, and_true] at first
  obtain ⟨red, green, blue⟩ := first
  obtain ⟨redShort, greenShort, blueShort⟩ := short
  exact ⟨
    length_of_channelTop_ones layout.red redShort red,
    length_of_channelTop_ones layout.green greenShort green,
    length_of_channelTop_ones layout.blue blueShort blue
  ⟩

/-- The converter has 32-bit pixels on full scale exactly when their channels have eight
bits, or there are no pixels.
-/
theorem convertsOnFullScale_iff {var : FbVarScreeninfo} (layout : MaskedLayout var)
    : ConvertsOnFullScale var
      ↔ var.xres.toNat * var.yres.toNat = 0 ∨ BytesWide (channelsOf var) := by
  constructor
  · intro right
    rcases Nat.eq_zero_or_pos (var.xres.toNat * var.yres.toNat) with none | pixel
    · exact .inl none
    · exact .inr (right.bytesWide layout pixel)
  · intro condition
    refine ⟨{
      red := proportional (channelsOf var).red.2
      green := proportional (channelsOf var).green.2
      blue := proportional (channelsOf var).blue.2
    }, ?_, ?_⟩
    · exact ⟨
        proportional_fullScale layout.red.1,
        proportional_fullScale layout.green.1,
        proportional_fullScale layout.blue.1
      ⟩
    intro data enough
    rcases condition with none | ⟨red, green, blue⟩
    · refine ⟨[], ?_, by simp [none], by simp [none]⟩
      rw [convert_masked layout.bits, none]
      rfl
    · have supports := Supports.masked layout.bits ⟨red.le, green.le, blue.le⟩
      refine ⟨_, supports.convert_ok enough, ?_, ?_⟩
      · exact flatMap_range_length (fun _ => Format.colour_length _ _) _
      · intro index inside
        rw [Format.block_frame _ _ inside, Format.colour, rendered, channelTop_byte _ red,
          channelTop_byte _ green, channelTop_byte _ blue]
        rfl

/-- One pixel of 32 bits with channels of some length, the blue one lowest. -/
def maskedScreen (length : BitVec 32) : FbVarScreeninfo :=
  {
    FbVarScreeninfo.zero with
    xres := 1
    yres := 1
    xresVirtual := 1
    yresVirtual := 1
    bitsPerPixel := 32
    red := { offset := 2 * length, length }
    green := { offset := length, length }
    blue := { offset := 0, length }
  }

/-- Witness: the usual 32-bit pixel. -/
theorem convertsOnFullScale_xrgb8888 : ConvertsOnFullScale (maskedScreen 8) :=
  (convertsOnFullScale_iff ⟨rfl, by decide, by decide, by decide⟩).mpr (.inr ⟨rfl, rfl, rfl⟩)

/-- A channel of ten bits raises. -/
theorem convert_ten_bits_raises
    : ¬ ∀ var, MaskedLayout var → ConvertsOnFullScale var := by
  intro right
  obtain ⟨_, _, converts⟩ := right (maskedScreen 10) ⟨rfl, by decide, by decide, by decide⟩
  obtain ⟨rgb, converted, _⟩ := converts [0, 0, 0, 0] (by decide)
  have short := convert_short rfl (by decide) converted
  exact absurd short.1 (by decide)

end DummyDrivers.Fbview
