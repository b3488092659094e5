import DummyDrivers.Fbview.Converter
import DummyDrivers.Library.Loops

/-! What the converter makes of a frame: the colours of its pixels, one after the other,
in each of the three paths.
-/

namespace DummyDrivers.Fbview

open DummyDrivers.Blocks
open DummyDrivers.Fb
open DummyDrivers.LittleEndian
open DummyDrivers.Loops
open DummyDrivers.Python

/-- The colours of the first pixels of a memory. -/
def Format.frame (format : Format) (memory : List UInt8) (count : Nat) : List UInt8 :=
  (List.range count).flatMap fun index => format.colour (block format.bytes memory index)

theorem unpackWords_take {size count : Nat} {data : List UInt8}
    (enough : size * count ≤ data.length)
    : unpackWords size count (data.take (size * count))
      = .ok ((List.range count).map fun index => leWord (block size data index)) := by
  rw [unpackWords, if_pos (by simpa using enough)]
  congr 1
  apply List.map_congr_left
  intro index member
  rw [block_take data (block_end size (List.mem_range.mp member))]

theorem lookup_rgb565 {p : Nat} (small : p < 65536)
    : lookup ((List.range 65536).map rgb565Entry) p = .ok (rgb565Entry p) := by
  have entry : ((List.range 65536).map rgb565Entry)[p]? = some (rgb565Entry p) := by
    rw [List.getElem?_map, List.getElem?_range small]
    rfl
  rw [lookup, entry]

/-- Every 16-bit word is in the table. -/
theorem leWord_block_lt (data : List UInt8) (index : Nat) : leWord (block 2 data index) < 65536 :=
  leWord_lt_of_length_le (List.length_take_le 2 _)

theorem convert_rgb565 {var : FbVarScreeninfo} (supports : Supports var .rgb565)
    {data : List UInt8} (enough : 2 * (var.xres.toNat * var.yres.toNat) ≤ data.length)
    : (Converter.init var).convert data
      = .ok (Format.rgb565.frame data (var.xres.toNat * var.yres.toNat)) := by
  obtain ⟨bits, channels⟩ := supports
  have table : (Converter.init var).table = some ((List.range 65536).map rgb565Entry) := by
    rw [Converter.init]
    exact if_pos ⟨bits, channels⟩
  have looked
      : ((List.range (var.xres.toNat * var.yres.toNat)).map
          fun index => leWord (block 2 data index)).mapM
            (lookup ((List.range 65536).map rgb565Entry))
        = .ok (((List.range (var.xres.toNat * var.yres.toNat)).map
            fun index => leWord (block 2 data index)).map rgb565Entry) := by
    apply mapM_ok
    intro word member
    obtain ⟨index, _, rfl⟩ := List.mem_map.mp member
    exact lookup_rgb565 (leWord_block_lt data index)
  unfold Converter.convert
  rw [table]
  change (unpackWords 2 (var.xres.toNat * var.yres.toNat)
    (data.take (2 * (var.xres.toNat * var.yres.toNat)))).bind _ = _
  rw [unpackWords_take enough]
  change Except.bind (List.mapM _ _) _ = _
  rw [looked, Format.frame, List.flatMap_def]
  simp only [Except.bind, List.map_map]
  rfl

theorem strideCount_three (count start : Nat) (small : start < 3)
    : strideCount (3 * count) start 3 = count := by
  unfold strideCount
  omega

theorem getD_stride_three {data : List UInt8} {count start index : Nat} (small : start < 3)
    (whole : data.length = 3 * count) (inside : index < count)
    : (stride data start 3).getD index 0 = data.getD (start + 3 * index) 0 := by
  simp [stride, whole, strideCount_three count start small, inside]

/-- The assignment of every third byte, lane by lane. -/
theorem assignStride_three {start : Nat} (small : start < 3) {out values : List UInt8} {count : Nat}
    (whole : out.length = 3 * count) (valued : values.length = count)
    : ∃ result,
        assignStride out start 3 values = .ok result
        ∧ result.length = 3 * count
        ∧ ∀ index < count, ∀ lane < 3,
            result[3 * index + lane]?
            = if lane = start then some (values.getD index 0) else out[3 * index + lane]? := by
  unfold assignStride
  rw [if_pos (by rw [valued, whole, strideCount_three count start small])]
  refine ⟨_, rfl, by simp [whole], ?_⟩
  intro index inside lane bound
  have within : 3 * index + lane < out.length := by omega
  rw [List.getElem?_mapIdx, List.getElem?_eq_getElem within, Option.map_some]
  by_cases same : lane = start
  · subst same
    have remainder : (3 * index + lane - lane) % 3 = 0 := by omega
    have quotient : (3 * index + lane - lane) / 3 = index := by omega
    rw [if_pos ⟨by omega, remainder⟩, if_pos rfl, quotient]
  · rw [if_neg (by omega), if_neg same]

theorem stride_length {start : Nat} (small : start < 3) {data : List UInt8} {count : Nat}
    (whole : data.length = 3 * count)
    : (stride data start 3).length = count := by
  simp [stride, whole, strideCount_three count start small]

/-- The slices put the three bytes of each pixel in reverse order. -/
theorem convert24_ok {data : List UInt8} {count : Nat} (enough : 3 * count ≤ data.length)
    : convert24 data count = .ok (Format.rgb888.frame data count) := by
  have mvLength : (data.take (3 * count)).length = 3 * count := by simp [enough]
  have outLength : (List.replicate (count * 3) (0 : UInt8)).length = 3 * count := by
    rw [List.length_replicate, Nat.mul_comm]
  have zero : 0 < 3 := by omega
  have one : 1 < 3 := by omega
  have two : 2 < 3 := by omega
  obtain ⟨red, redOk, redLength, redAt⟩ :=
    assignStride_three zero outLength (stride_length two mvLength)
  obtain ⟨green, greenOk, greenLength, greenAt⟩ :=
    assignStride_three one redLength (stride_length one mvLength)
  obtain ⟨blue, blueOk, blueLength, blueAt⟩ :=
    assignStride_three two greenLength (stride_length zero mvLength)
  have ran : convert24 data count = .ok blue := by
    unfold convert24
    dsimp only
    rw [redOk]
    change Except.bind (assignStride red 1 3 _) _ = _
    rw [greenOk]
    exact blueOk
  rw [ran]
  congr 1
  have sized : ∀ index, (Format.rgb888.colour (block 3 data index)).length = 3 :=
    fun index => Format.colour_length _ _
  apply ext_blocks blueLength (flatMap_range_length sized count)
  intro index inside
  rw [block_flatMap sized inside]
  have byte (lane : Nat) (bound : lane < 3)
      : (block 3 data index).getD lane 0 = (data.take (3 * count)).getD (lane + 3 * index) 0 := by
    rw [List.getD_eq_getElem?_getD, List.getD_eq_getElem?_getD, getElem?_block _ bound,
      List.getElem?_take_of_lt (by omega), Nat.add_comm]
  apply List.ext_getElem?
  intro lane
  rcases lane with _ | _ | _ | lane
  · rw [getElem?_block _ zero, blueAt index inside 0 zero, greenAt index inside 0 zero,
      redAt index inside 0 zero, if_neg (by omega), if_neg (by omega), if_pos rfl,
      getD_stride_three two mvLength inside, ← byte 2 two]
    rfl
  · rw [getElem?_block _ one, blueAt index inside 1 one, greenAt index inside 1 one,
      if_neg (by omega), if_pos rfl, getD_stride_three one mvLength inside, ← byte 1 one]
    rfl
  · rw [getElem?_block _ two, blueAt index inside 2 two, if_pos rfl,
      getD_stride_three zero mvLength inside, ← byte 0 zero]
    rfl
  · rw [List.getElem?_eq_none, List.getElem?_eq_none]
    · simp
    · simp only [block, List.length_take]
      omega

theorem shiftRight_mask (p : Nat) (channel : Nat × Nat)
    : (p &&& channelMask channel) >>> channel.1 = (p >>> channel.1) % 2 ^ channel.2 := by
  rw [channelMask, Nat.shiftRight_and_distrib, Nat.shiftLeft_shiftRight, Nat.one_shiftLeft,
    Nat.and_two_pow_sub_one_eq_mod]

/-- A channel of at most eight bits gives a byte. -/
theorem channelByte_ok (p : Nat) {channel : Nat × Nat} (short : channel.2 ≤ 8)
    : channelByte p (channelMask channel) channel
      = .ok (((p >>> channel.1) % 2 ^ channel.2) <<< (8 - channel.2)) := by
  rw [channelByte, shiftRight_mask, shiftLeft, if_neg (by omega)]
  congr 2
  omega

theorem channelTop_le (p : Nat) {channel : Nat × Nat} (short : channel.2 ≤ 8)
    : ((p >>> channel.1) % 2 ^ channel.2) <<< (8 - channel.2) ≤ 255 := by
  have small : (p >>> channel.1) % 2 ^ channel.2 < 2 ^ channel.2 :=
    Nat.mod_lt _ (Nat.two_pow_pos _)
  have bound : ((p >>> channel.1) % 2 ^ channel.2) * 2 ^ (8 - channel.2)
      < 2 ^ channel.2 * 2 ^ (8 - channel.2) :=
    Nat.mul_lt_mul_of_pos_right small (Nat.two_pow_pos _)
  rw [← Nat.pow_add, Nat.add_sub_cancel' short] at bound
  rw [Nat.shiftLeft_eq]
  omega

/-- A round of the 32-bit loop writes one pixel's colour. -/
theorem convertPixel_ok {var : FbVarScreeninfo}
    (short
      : (channelsOf var).red.2 ≤ 8 ∧ (channelsOf var).green.2 ≤ 8 ∧ (channelsOf var).blue.2 ≤ 8)
    {out : List UInt8} (k : Nat) (inside : k + 3 ≤ out.length) (pixel : List UInt8)
    : (Converter.init var).convertPixel (out, k) (leWord pixel)
      = .ok (patch out k ((Format.masked (channelsOf var)).colour pixel), k + 3) := by
  obtain ⟨red, green, blue⟩ := short
  have stored :=
    setByte_three inside ⟨channelTop_le (leWord pixel) red, channelTop_le (leWord pixel) green,
      channelTop_le (leWord pixel) blue⟩
  have masks : (Converter.init var).masks = (channelsOf var).map channelMask := rfl
  have channels : (Converter.init var).channels = channelsOf var := rfl
  calc (Converter.init var).convertPixel (out, k) (leWord pixel)
      = (do
          let out ← setByte out k _
          let out ← setByte out (k + 1) _
          setByte out (k + 2) _) >>= fun out => pure (out, k + 3) := by
        simp only [Converter.convertPixel, masks, channels, Rgb.map, channelByte_ok _ red,
          channelByte_ok _ green, channelByte_ok _ blue, bind_assoc]
        rfl
    _ = _ := by
        rw [stored]
        rfl

theorem convert32_ok {var : FbVarScreeninfo}
    (short
      : (channelsOf var).red.2 ≤ 8 ∧ (channelsOf var).green.2 ≤ 8 ∧ (channelsOf var).blue.2 ≤ 8)
    {data : List UInt8} {count : Nat} (enough : 4 * count ≤ data.length)
    : (Converter.init var).convert32 data count
      = .ok ((Format.masked (channelsOf var)).frame data count) := by
  have outLength : (List.replicate (count * 3) (0 : UInt8)).length = 3 * count := by
    rw [List.length_replicate, Nat.mul_comm]
  have ran
      : ((List.range count).map fun index => leWord (block 4 data index)).foldlM
          (Converter.init var).convertPixel (List.replicate (count * 3) 0, 0)
        = .ok ((Format.masked (channelsOf var)).frame data count, 3 * count) := by
    rw [List.foldlM_map]
    apply foldlM_range_blocks (fun k out => (out, 3 * k)) (fun _ => Format.colour_length _ _) _
      outLength
    intro k inside out length
    exact convertPixel_ok short (3 * k) (length ▸ block_end 3 inside) (block 4 data k)
  unfold Converter.convert32
  rw [unpackWords_take enough, ok_bind, ran]
  rfl

theorem convert_masked {var : FbVarScreeninfo} (bits : var.bitsPerPixel.toNat = 32)
    (data : List UInt8)
    : (Converter.init var).convert data
      = (Converter.init var).convert32 data (var.xres.toNat * var.yres.toNat) := by
  have table : (Converter.init var).table = none := if_neg fun standard => by omega
  have bpp : (Converter.init var).bpp = var.bitsPerPixel.toNat := rfl
  unfold Converter.convert
  rw [table]
  dsimp only
  rw [if_neg (by omega), if_pos (by omega)]
  rfl

/-- On enough data the converter gives the colours of the pixels in their order. -/
theorem Supports.convert_ok {var : FbVarScreeninfo} {format : Format}
    (supports : Supports var format) {data : List UInt8}
    (enough : format.bytes * (var.xres.toNat * var.yres.toNat) ≤ data.length)
    : (Converter.init var).convert data
      = .ok (format.frame data (var.xres.toNat * var.yres.toNat)) := by
  cases supports with
  | rgb565 bits channels => exact convert_rgb565 (.rgb565 bits channels) enough
  | rgb888 bits channels =>
      have table : (Converter.init var).table = none := if_neg fun standard => by omega
      unfold Converter.convert
      rw [table]
      dsimp only
      rw [if_pos ⟨bits, channels⟩]
      exact convert24_ok enough
  | masked bits short =>
      rw [convert_masked bits]
      exact convert32_ok short enough

/-- The pixels of the converted frame. -/
theorem Format.block_frame (format : Format) (memory : List UInt8) {index count : Nat}
    (inside : index < count)
    : block 3 (format.frame memory count) index
      = format.colour (block format.bytes memory index) :=
  block_flatMap (fun _ => Format.colour_length _ _) inside

/-- Bytes after the frame have no part in it. -/
theorem Format.frame_take (format : Format) (memory : List UInt8) {size count : Nat}
    (enough : format.bytes * count ≤ size)
    : format.frame (memory.take size) count = format.frame memory count := by
  apply List.flatMap_congr
  intro index member
  have inside := block_end format.bytes (List.mem_range.mp member)
  rw [block_take memory (inside.trans enough)]

end DummyDrivers.Fbview
