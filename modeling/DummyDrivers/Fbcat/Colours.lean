import DummyDrivers.Fbcat.Dump
import DummyDrivers.Fbview.Converter

/-! The colour that the dump gives a pixel in a standard format, and that the converter
gives it the same one.
-/

namespace DummyDrivers.Fbcat

open DummyDrivers.Fb
open DummyDrivers.Fbview
open DummyDrivers.LittleEndian

/-- A channel value scaled to 16 bits. -/
def channelLevel (length value : Nat) : BitVec 16 :=
  BitVec.ofNat 16 (value * 0xFFFF / (2 ^ length - 1))

/-- The colormap of a channel: all its values, scaled. -/
def channelLevels (length : Nat) : List (BitVec 16) :=
  (List.range (2 ^ length)).map (channelLevel length)

/-- The upper byte of a scaled channel value. -/
def levelByte (length value : Nat) : UInt8 := UInt8.ofNat (channelLevel length value >>> 8).toNat

theorem shiftLeft_one_toNat {length : BitVec 32} (short : length.toNat ≤ 8)
    : (1#32 <<< length - 1).toNat = 2 ^ length.toNat - 1 := by
  have power : 2 ^ length.toNat ≤ 2 ^ 8 := Nat.pow_le_pow_right (by omega) short
  have positive := Nat.two_pow_pos length.toNat
  have shifted : (1#32 <<< length).toNat = 2 ^ length.toNat := by
    rw [BitVec.shiftLeft_eq', BitVec.toNat_shiftLeft, BitVec.toNat_ofNat,
      Nat.mod_eq_of_lt (by omega : 1 < 2 ^ 32), Nat.one_shiftLeft]
    exact Nat.mod_eq_of_lt (by omega)
  rw [BitVec.toNat_sub_of_le, shifted]
  · rfl
  · rw [BitVec.le_def, shifted]
    exact positive

theorem truecolorChannel_ok {length : BitVec 32} (short : length.toNat ≤ 8) (present : length ≠ 0)
    : truecolorChannel length = .ok (channelLevels length.toNat) := by
  have power : 2 ^ length.toNat ≤ 2 ^ 8 := Nat.pow_le_pow_right (by omega) short
  rw [truecolorChannel, if_neg present]
  congr 1
  apply List.map_congr_left
  intro i member
  have small := List.mem_range.mp member
  apply BitVec.eq_of_toNat_eq
  have product : (BitVec.ofNat 32 i * 0xFFFF).toNat = i * 0xFFFF := by
    have constant : (0xFFFF : BitVec 32).toNat = 0xFFFF := rfl
    rw [BitVec.toNat_mul, BitVec.toNat_ofNat, constant, Nat.mod_eq_of_lt (by omega : i < 2 ^ 32)]
    exact Nat.mod_eq_of_lt (by omega)
  rw [BitVec.toNat_setWidth, BitVec.toNat_udiv, shiftLeft_one_toNat short, product, channelLevel,
    BitVec.toNat_ofNat]

theorem getColor_ok (pixel : BitVec 32) {bitfield : FbBitfield}
    (short : bitfield.length.toNat ≤ 8)
    : getColor pixel bitfield (channelLevels bitfield.length.toNat)
      = .ok (levelByte bitfield.length.toNat
          ((pixel.toNat >>> bitfield.offset.toNat) % 2 ^ bitfield.length.toNat)) := by
  have index : (pixel >>> bitfield.offset &&& (1#32 <<< bitfield.length - 1)).toNat
      = (pixel.toNat >>> bitfield.offset.toNat) % 2 ^ bitfield.length.toNat := by
    rw [BitVec.toNat_and, shiftLeft_one_toNat short, Nat.and_two_pow_sub_one_eq_mod,
      BitVec.ushiftRight_eq', BitVec.toNat_ushiftRight]
  have inside := Nat.mod_lt (pixel.toNat >>> bitfield.offset.toNat)
    (Nat.two_pow_pos bitfield.length.toNat)
  rw [getColor, index, channelLevels, List.getElem?_map, List.getElem?_range inside]
  rfl

/-- At eight bits the scaling is exact. -/
theorem levelByte_eight {value : Nat} (small : value < 2 ^ 8)
    : levelByte 8 value = UInt8.ofNat value := by
  have bound : value * 257 < 2 ^ 16 := by omega
  have upper : value * 257 / 2 ^ 8 = value := by omega
  have scaled : value * 0xFFFF / (2 ^ 8 - 1) = value * 257 := by
    rw [show 0xFFFF = 257 * (2 ^ 8 - 1) from rfl, ← Nat.mul_assoc]
    exact Nat.mul_div_cancel _ (by norm_num)
  have level : (channelLevel 8 value).toNat = value * 257 := by
    rw [channelLevel, BitVec.toNat_ofNat, scaled, Nat.mod_eq_of_lt bound]
  rw [levelByte, BitVec.toNat_ushiftRight, level, Nat.shiftRight_eq_div_pow, upper]

/-- At five bits the scaling repeats the upper bits below. -/
theorem levelByte_five {value : Nat} (small : value < 2 ^ 5)
    : levelByte 5 value = UInt8.ofNat (value <<< 3 ||| value >>> 2) := by
  revert value
  decide

/-- At six bits the scaling repeats the upper bits below. -/
theorem levelByte_six {value : Nat} (small : value < 2 ^ 6)
    : levelByte 6 value = UInt8.ofNat (value <<< 2 ||| value >>> 4) := by
  revert value
  decide

/-- The colormap of some screen information whose channels have one to eight bits. -/
def levelColormap (info : FbVarScreeninfo) : FbCmap :=
  {
    red := channelLevels info.red.length.toNat
    green := channelLevels info.green.length.toNat
    blue := channelLevels info.blue.length.toNat
  }

/-- A channel of one to eight bits. -/
def Scalable (bitfield : FbBitfield) : Prop :=
  bitfield.length.toNat ≤ 8 ∧ bitfield.length ≠ 0

theorem channels_scalable {info : FbVarScreeninfo} {format : Format}
    (standard : StandardFormat info format)
    : Scalable info.red ∧ Scalable info.green ∧ Scalable info.blue := by
  have scalable (bitfield : FbBitfield) {offset length : Nat}
      (same : (bitfield.offset.toNat, bitfield.length.toNat) = (offset, length))
      (small : length ≤ 8) (positive : 0 < length)
      : Scalable bitfield := by
    obtain ⟨_, rfl⟩ := Prod.mk.inj same
    refine ⟨small, ?_⟩
    intro zero
    rw [zero] at positive
    contradiction
  have fields {channels : Rgb (Nat × Nat)} (same : channelsOf info = channels)
      : (info.red.offset.toNat, info.red.length.toNat) = channels.red
        ∧ (info.green.offset.toNat, info.green.length.toNat) = channels.green
        ∧ (info.blue.offset.toNat, info.blue.length.toNat) = channels.blue := by
    subst same
    exact ⟨rfl, rfl, rfl⟩
  cases standard with
  | rgb565 _ channels | rgb888 _ channels | xrgb8888 _ channels =>
      obtain ⟨red, green, blue⟩ := fields channels
      exact ⟨scalable _ red (by omega) (by omega), scalable _ green (by omega) (by omega),
        scalable _ blue (by omega) (by omega)⟩

theorem bytesPerPixel_toNat {info : FbVarScreeninfo} {format : Format}
    (standard : StandardFormat info format)
    : (bytesPerPixel info).toNat = format.bytes := by
  have bits (count : BitVec 32) (same : info.bitsPerPixel.toNat = count.toNat)
      : bytesPerPixel info = (count + 7) / 8 := by
    rw [bytesPerPixel, BitVec.eq_of_toNat_eq same]
  cases standard with
  | rgb565 depth => rw [bits 16 depth]; rfl
  | rgb888 depth => rw [bits 24 depth]; rfl
  | xrgb8888 depth => rw [bits 32 depth]; rfl

theorem truecolorColormap_ok {info : FbVarScreeninfo} {format : Format}
    (standard : StandardFormat info format)
    : truecolorColormap info = .ok (levelColormap info) := by
  obtain ⟨red, green, blue⟩ := channels_scalable standard
  have short {length : BitVec 32} (le : length.toNat ≤ 8) : decide (8 < length) = false := by
    rw [decide_eq_false_iff_not, BitVec.lt_def]
    exact le.not_gt
  rw [truecolorColormap, short red.1, short green.1, short blue.1,
    truecolorChannel_ok red.1 red.2, truecolorChannel_ok green.1 green.2,
    truecolorChannel_ok blue.1 blue.2]
  rfl

/-- The bytes of a pixel, put together one by one, are its little-endian word, by induction
on their number.
-/
theorem joinBytes_toNat (bytes : List UInt8) {count : Nat} (whole : count ≤ bytes.length)
    (small : count ≤ 4)
    : (joinBytes bytes count).toNat = leWord (bytes.take count) := by
  induction count with
  | zero => rfl
  | succ count ih =>
      have last : bytes.take (count + 1) = bytes.take count ++ [bytes[count]] :=
        (List.take_append_getElem (by omega)).symm
      have byte := bytes[count].toNat_lt
      have shifted
          : ((bytes.getD count 0).toBitVec.setWidth 32 <<< (count * 8)).toNat
            = bytes[count].toNat <<< (8 * count) := by
        have place : 2 ^ (8 * count) ≤ 2 ^ 24 := Nat.pow_le_pow_right (by omega) (by omega)
        have fits : bytes[count].toNat * 2 ^ (8 * count) < 2 ^ 32 :=
          calc bytes[count].toNat * 2 ^ (8 * count)
              ≤ bytes[count].toNat * 2 ^ 24 := Nat.mul_le_mul_left _ place
            _ < 2 ^ 32 := by omega
        rw [List.getD_eq_getElem?_getD, List.getElem?_eq_getElem (by omega), Option.getD_some,
          BitVec.toNat_shiftLeft, BitVec.toNat_setWidth,
          UInt8.toNat_toBitVec, Nat.mod_eq_of_lt (by omega : bytes[count].toNat < 2 ^ 32),
          Nat.shiftLeft_eq, Nat.shiftLeft_eq, Nat.mul_comm count, Nat.mod_eq_of_lt fits]
      rw [joinBytes, List.range_succ, List.foldl_append]
      change (joinBytes bytes count ||| _).toNat = _
      rw [BitVec.toNat_or, ih (by omega) (by omega), last, leWord_concat, shifted,
        List.length_take, Nat.min_eq_left (by omega)]

theorem loadPixel_ok {videoMemory : List UInt8} {current bytes : Nat}
    (inside : current + bytes ≤ videoMemory.length) (small : bytes ≤ 4)
    : ∃ pixel,
        loadPixel videoMemory current bytes = .ok pixel
        ∧ pixel.toNat = leWord ((videoMemory.drop current).take bytes) := by
  have whole : ((videoMemory.drop current).take bytes).length = bytes := by
    rw [List.length_take, List.length_drop]
    omega
  have word : leWord ((videoMemory.drop current).take bytes) < 256 ^ 4 :=
    leWord_lt_of_length_le (whole.trans_le small)
  have joined := joinBytes_toNat _ whole.ge small
  rw [List.take_take, Nat.min_self] at joined
  unfold loadPixel
  dsimp only
  rw [if_neg whole.not_lt]
  split
  · exact ⟨_, rfl, Nat.mod_eq_of_lt word⟩
  · exact ⟨_, rfl, Nat.mod_eq_of_lt word⟩
  · exact ⟨_, rfl, joined⟩

/-- The byte that the dump makes of a channel of a pixel. -/
def scaledByte (p : Nat) (channel : Nat × Nat) : UInt8 :=
  levelByte channel.2 ((p >>> channel.1) % 2 ^ channel.2)

def scaledColour (channels : Rgb (Nat × Nat)) (p : Nat) : List UInt8 :=
  [scaledByte p channels.red, scaledByte p channels.green, scaledByte p channels.blue]

/-- Channels of eight bits are taken over as they are. -/
theorem scaledByte_eight (p offset : Nat)
    : scaledByte p (offset, 8) = channelTop p (offset, 8) := by
  rw [scaledByte, levelByte_eight (Nat.mod_lt _ (by omega)), channelTop, Nat.sub_self,
    Nat.shiftLeft_zero]

/-- The scaling is the bit replication of the converter's table. -/
theorem scaledColour_rgb565 (p : Nat) : scaledColour rgb565Channels p = rgb565Entry p := by
  have low (value : Nat) : value % 2 ^ 5 < 2 ^ 5 := Nat.mod_lt _ (by omega)
  have wide (value : Nat) : value % 2 ^ 6 < 2 ^ 6 := Nat.mod_lt _ (by omega)
  have lowMask (value : Nat) := Nat.and_two_pow_sub_one_eq_mod value 5
  have wideMask (value : Nat) := Nat.and_two_pow_sub_one_eq_mod value 6
  simp only [scaledColour, scaledByte, rgb565Channels]
  rw [levelByte_five (low _), levelByte_five (low _), levelByte_six (wide _), ← lowMask,
    ← lowMask, ← wideMask]
  rfl

/-- The channels of a pixel of three bytes are its bytes from the last to the first. -/
theorem scaledColour_rgb888 {pixel : List UInt8} (whole : pixel.length = 3)
    : scaledColour rgb888Channels (leWord pixel)
      = [pixel.getD 2 0, pixel.getD 1 0, pixel.getD 0 0] := by
  obtain ⟨blue, green, red, rfl⟩ := List.length_eq_three.mp whole
  have word : leWord [blue, green, red]
      = blue.toNat + 256 * (green.toNat + 256 * (red.toNat + 256 * 0)) := rfl
  have blueBound := blue.toNat_lt
  have greenBound := green.toNat_lt
  have redBound := red.toNat_lt
  have redAt : (leWord [blue, green, red] >>> 16) % 2 ^ 8 = red.toNat := by
    rw [word, Nat.shiftRight_eq_div_pow]
    omega
  have greenAt : (leWord [blue, green, red] >>> 8) % 2 ^ 8 = green.toNat := by
    rw [word, Nat.shiftRight_eq_div_pow]
    omega
  have blueAt : (leWord [blue, green, red] >>> 0) % 2 ^ 8 = blue.toNat := by
    rw [word, Nat.shiftRight_eq_div_pow]
    omega
  simp only [scaledColour, scaledByte, rgb888Channels, redAt, greenAt, blueAt,
    levelByte_eight (UInt8.toNat_lt _), UInt8.ofNat_toNat]
  rfl

/-- The scaled channels of a pixel are its colour as the converter shows it. -/
theorem scaledColour_eq {info : FbVarScreeninfo} {format : Format}
    (standard : StandardFormat info format) {pixel : List UInt8}
    (whole : pixel.length = format.bytes)
    : scaledColour (channelsOf info) (leWord pixel) = format.colour pixel := by
  cases standard with
  | rgb565 bits channels =>
      rw [channels]
      exact scaledColour_rgb565 _
  | rgb888 bits channels =>
      rw [channels]
      exact scaledColour_rgb888 whole
  | xrgb8888 bits channels =>
      rw [channels]
      simp only [scaledColour, rgb888Channels, scaledByte_eight]
      rfl

end DummyDrivers.Fbcat
