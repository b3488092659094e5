import DummyDrivers.Fbcat.Colormap

/-! The dump of a monochrome framebuffer as a portable bitmap. The memory holds eight pixels
in a byte, from its lowest bit on; a bitmap has them from the highest bit on.
-/

namespace DummyDrivers.Fbcat

open DummyDrivers.Blocks
open DummyDrivers.Fb
open DummyDrivers.Loops
open DummyDrivers.Netpbm

/-- `reverse_bits`. The product has less than 64 bits. -/
def reverseBits (b : UInt8) : UInt8 :=
  UInt8.ofNat ((b.toNat * 0x0202020202 &&& 0x010884422010) % 1023)

/-- Every bit of a byte comes to the opposite place. -/
theorem reverseBits_testBit (b : UInt8) {place : Nat} (inside : place < 8)
    : (reverseBits b).toNat.testBit (7 - place) = b.toNat.testBit place := by
  have all
      : ∀ place < 8,
          ∀ high < 16,
            ∀ low < 16,
              (((16 * high + low) * 0x0202020202 &&& 0x010884422010) % 1023 % 2 ^ 8).testBit
                  (7 - place)
                = (16 * high + low).testBit place := by
    decide +kernel
  have high : b.toNat / 16 < 16 := Nat.div_lt_of_lt_mul b.toNat_lt
  have low : b.toNat % 16 < 16 := Nat.mod_lt _ (by decide)
  have split := all place inside _ high _ low
  rw [Nat.div_add_mod] at split
  rw [reverseBits, UInt8.toNat_ofNat', split]

section

variable (videoMemory : List UInt8) (info : FbVarScreeninfo) (blackIsZero : Bool)

/-- The bytes of a row of the bitmap. -/
def bytesPerRow : BitVec 32 := (info.xres + 7) / 8

/-- What becomes of a byte of the memory. -/
def monoByte (byte : UInt8) : UInt8 :=
  if blackIsZero then ~~~ reverseBits byte else reverseBits byte

/-- The body of the loop over `x`, on the pointer `current` and the row buffer. -/
def dumpMonoByte (state : Nat × List UInt8) (x : Nat) : Except DumpError (Nat × List UInt8) := do
  let (current, row) := state
  match videoMemory[current]? with
  | none => .error .outOfBounds
  | some byte => do
      let row ← storeByte row (BitVec.ofNat 32 x) (monoByte blackIsZero byte)
      return (current + 1, row)

/-- The pointer `current` at the start of a row. -/
def monoRowStart (lineLength : BitVec 32) (y : Nat) : Nat :=
  ((BitVec.ofNat 32 y + info.yoffset) * lineLength).toNat + (info.xoffset / 8).toNat

/-- The body of the loop over `y`, on the row buffer and the bytes written so far. -/
def dumpMonoRow (lineLength : BitVec 32) (state : List UInt8 × List UInt8) (y : Nat)
    : Except DumpError (List UInt8 × List UInt8) := do
  let (row, written) := state
  let (_, row) ←
    (List.range (bytesPerRow info).toNat).foldlM (dumpMonoByte videoMemory blackIsZero)
      (monoRowStart info lineLength y, row)
  return (row, written ++ row.take (bytesPerRow info).toNat)

/-- The line that starts a portable bitmap. -/
def monoHeader : String :=
  "P4 " ++ toString info.xres.toNat ++ " " ++ toString info.yres.toNat ++ "\n"

/-- `dump_video_memory_mono`. The row buffer holds whatever `malloc` left in it, if it
succeeds; writing to the output succeeds.
-/
def dumpVideoMemoryMono (lineLength : BitVec 32) (malloc : Option (Nat → UInt8))
    : Except DumpError Dump :=
  match malloc with
  | none => .error .mallocFailed
  | some heap =>
      if info.xoffset % 8 ≠ 0 then
        .error (.notSupported "xoffset not divisible by 8 in 1 bpp mode")
      else do
        let row := (List.range (bytesPerRow info).toNat).map heap
        let (_, written) ←
          (List.range info.yres.toNat).foldlM (dumpMonoRow videoMemory info blackIsZero lineLength)
            (row, [])
        return { header := monoHeader info, pixels := written }

end

/-- The visible part of a monochrome screen lies in a memory of a given size and stays within
the reach of the dump's 32 bits.
-/
structure MonoReachable (info : FbVarScreeninfo) (lineLength : BitVec 32) (size : Nat) : Prop where
  columns : info.xoffset.toNat / 8 + (info.xres.toNat + 7) / 8 ≤ lineLength.toNat
  lines : (info.yoffset.toNat + info.yres.toNat) * lineLength.toNat ≤ size
  addresses : (info.yoffset.toNat + info.yres.toNat) * lineLength.toNat < 2 ^ 32
  row : info.xres.toNat + 7 < 2 ^ 32

variable {info : FbVarScreeninfo} {lineLength : BitVec 32} {size : Nat} {blackIsZero : Bool}

theorem MonoReachable.bytesPerRow_toNat (reachable : MonoReachable info lineLength size)
    : (bytesPerRow info).toNat = bitmapRowBytes info.xres.toNat := by
  have row := reachable.row
  rw [bytesPerRow, BitVec.toNat_udiv, BitVec.toNat_add]
  change (info.xres.toNat + 7) % 2 ^ 32 / 8 = (info.xres.toNat + 7) / 8
  rw [Nat.mod_eq_of_lt row]

theorem MonoReachable.rowStart_eq (reachable : MonoReachable info lineLength size) {y : Nat}
    (line : y < info.yres.toNat)
    : monoRowStart info lineLength y
      = (info.yoffset.toNat + y) * lineLength.toNat + info.xoffset.toNat / 8 := by
  rw [monoRowStart, lineStart_toNat rfl line reachable.addresses, BitVec.toNat_udiv]
  rfl

/-- The bytes of a row end inside the memory. -/
theorem MonoReachable.line_end (reachable : MonoReachable info lineLength size) {y : Nat}
    (line : y < info.yres.toNat)
    : monoRowStart info lineLength y + bitmapRowBytes info.xres.toNat ≤ size := by
  have columns := reachable.columns
  have lines := reachable.lines
  have lineEnd : (info.yoffset.toNat + y) * lineLength.toNat + lineLength.toNat
      ≤ (info.yoffset.toNat + info.yres.toNat) * lineLength.toNat := by
    rw [← Nat.succ_mul]
    exact Nat.mul_le_mul_right _ (by omega)
  rw [reachable.rowStart_eq line, bitmapRowBytes]
  omega

/-- The bytes that a row's rounds write, from a place of the memory on. -/
def monoRow (blackIsZero : Bool) (memory : List UInt8) (start count : Nat) : List UInt8 :=
  (List.range count).map fun x => monoByte blackIsZero (memory.getD (start + x) 0)

theorem monoRow_length (blackIsZero : Bool) (memory : List UInt8) (start count : Nat)
    : (monoRow blackIsZero memory start count).length = count := by
  rw [monoRow, List.length_map, List.length_range]

theorem dumpMonoBytes_ok {memory row : List UInt8} {start count : Nat}
    (inside : start + count ≤ memory.length) (sized : row.length = count) (fits : count < 2 ^ 32)
    : (List.range count).foldlM (dumpMonoByte memory blackIsZero) (start, row)
      = .ok (start + count, monoRow blackIsZero memory start count) := by
  let content (x : Nat) : List UInt8 := [monoByte blackIsZero (memory.getD (start + x) 0)]
  have sizes (x : Nat) : (content x).length = 1 := rfl
  rw [monoRow, List.map_eq_flatMap]
  apply foldlM_range_blocks (fun x row => (start + x, row)) sizes
  · intro x column row length
    have place : (BitVec.ofNat 32 x).toNat = x := Nat.mod_eq_of_lt (column.trans fits)
    have written : x < row.length := by omega
    have byte : memory[start + x]? = some (memory.getD (start + x) 0) := by
      rw [List.getD_eq_getElem?_getD, List.getElem?_eq_getElem (by omega)]
      rfl
    simp only [dumpMonoByte, byte, storeByte, place, if_pos written, ok_bind]
    rw [List.set_eq_take_append_cons_drop, if_pos written, Nat.one_mul, patch,
      List.append_assoc]
    rfl
  · rw [sized, Nat.one_mul]

/-- The dump of a reachable screen is its rows one after the other. -/
theorem dumpVideoMemoryMono_ok {memory : List UInt8}
    (reachable : MonoReachable info lineLength memory.length)
    (aligned : info.xoffset.toNat % 8 = 0) (heap : Nat → UInt8)
    : dumpVideoMemoryMono memory info blackIsZero lineLength (some heap)
      = .ok {
          header := monoHeader info
          pixels := (List.range info.yres.toNat).flatMap
            fun y =>
              monoRow blackIsZero memory (monoRowStart info lineLength y)
                (bitmapRowBytes info.xres.toNat)
        } := by
  let rows (y : Nat) : List UInt8 :=
    monoRow blackIsZero memory (monoRowStart info lineLength y) (bitmapRowBytes info.xres.toNat)
  let holds (y : Nat) (state : List UInt8 × List UInt8) : Prop :=
    state.1.length = bitmapRowBytes info.xres.toNat ∧ state.2 = (List.range y).flatMap rows
  have bytes := reachable.bytesPerRow_toNat
  have fits : bitmapRowBytes info.xres.toNat < 2 ^ 32 := by
    have row := reachable.row
    rw [bitmapRowBytes]
    omega
  have round (y : Nat) (line : y < info.yres.toNat) (state : List UInt8 × List UInt8)
      (invariant : holds y state)
      : ∃ next,
          dumpMonoRow memory info blackIsZero lineLength state y = .ok next
          ∧ holds (y + 1) next := by
    obtain ⟨row, written⟩ := state
    obtain ⟨sized, rfl⟩ := invariant
    have length : (rows y).length = bitmapRowBytes info.xres.toNat := monoRow_length _ _ _ _
    refine ⟨(rows y, (List.range y).flatMap rows ++ rows y), ?_, length, ?_⟩
    · rw [dumpMonoRow, bytes, dumpMonoBytes_ok (reachable.line_end line) sized fits]
      simp only [ok_bind]
      rw [List.take_of_length_le length.le]
      rfl
    · rw [List.range_succ, List.flatMap_append, List.flatMap_singleton]
  have accepted : ¬ info.xoffset % 8 ≠ 0 := not_not.mpr (BitVec.eq_of_toNat_eq aligned)
  have buffer : ((List.range (bytesPerRow info).toNat).map heap).length
      = bitmapRowBytes info.xres.toNat := by
    rw [List.length_map, List.length_range, bytes]
  obtain ⟨⟨row, written⟩, ran, _, rfl⟩ := foldlM_range_ok round (⟨buffer, rfl⟩ : holds 0 (_, []))
  simp only [dumpVideoMemoryMono, if_neg accepted, ran, ok_bind]
  rfl

/-- The bit of a byte of the dump, as a pixel of the bitmap. -/
theorem monoByte_testBit (blackIsZero : Bool) (byte : UInt8) {place : Nat} (inside : place < 8)
    : (monoByte blackIsZero byte).toNat.testBit (7 - place)
      = (byte.toNat.testBit place ^^ blackIsZero) := by
  have reversed := reverseBits_testBit byte inside
  cases blackIsZero with
  | false => rw [monoByte, if_neg (by decide), reversed, Bool.xor_false]
  | true =>
      have complement : (~~~ reverseBits byte).toNat = 2 ^ 8 - ((reverseBits byte).toNat + 1) := by
        rw [UInt8.toNat_not]
        exact Nat.sub_sub 256 1 _ |>.trans (congrArg (256 - ·) (Nat.add_comm 1 _))
      rw [monoByte, if_pos rfl, Bool.xor_true, ← reversed, complement,
        Nat.testBit_two_pow_sub_succ (UInt8.toNat_lt _), decide_eq_true (by omega), Bool.true_and]

/-- The place of a pixel's byte in the memory, and the pixel's bit in the byte. -/
def monoPixel (info : FbVarScreeninfo) (lineLength : BitVec 32) (memory : List UInt8) (x y : Nat)
    : Bool :=
  let column := info.xoffset.toNat + x
  let place := (info.yoffset.toNat + y) * lineLength.toNat + column / 8
  (memory.getD place 0).toNat.testBit (column % 8)

theorem ascii_monoHeader (info : FbVarScreeninfo)
    : ascii (monoHeader info)
      = ascii "P4"
        ++ 32 :: (ascii (toString info.xres.toNat)
          ++ 32 :: (ascii (toString info.yres.toNat) ++ [10])) := by
  simp only [monoHeader, ascii_append, List.append_assoc]
  rfl

/-- The dump of a reachable monochrome screen that starts with a whole byte is a bitmap of its
visible pixels. A pixel is
black where its bit is set, or where it is not set if black is zero.
-/
theorem dumpVideoMemoryMono_shows {memory : List UInt8}
    (reachable : MonoReachable info lineLength memory.length)
    (aligned : info.xoffset.toNat % 8 = 0) (heap : Nat → UInt8)
    : ∃ dump,
        dumpVideoMemoryMono memory info blackIsZero lineLength (some heap) = .ok dump
        ∧ readBitmap dump.bytes
          = some (.ofPixels info.xres.toNat info.yres.toNat
              fun x y => monoPixel info lineLength memory x y ^^ blackIsZero) := by
  let width := bitmapRowBytes info.xres.toNat
  let rows (y : Nat) : List UInt8 :=
    monoRow blackIsZero memory (monoRowStart info lineLength y) width
  have sized (y : Nat) : (rows y).length = width := monoRow_length _ _ _ _
  have whole := flatMap_range_length sized info.yres.toNat
  refine ⟨_, dumpVideoMemoryMono_ok reachable aligned heap, ?_⟩
  have blank : isSpace 32 := rfl
  have read := readBitmap_header blank blank (rfl : isSpace 10) info.xres.toNat info.yres.toNat
    whole.ge
  have file (pixels : List UInt8)
      : (Dump.bytes { header := monoHeader info, pixels })
        = ascii "P4"
          ++ 32 :: (ascii (toString info.xres.toNat)
            ++ 32 :: (ascii (toString info.yres.toNat) ++ 10 :: pixels)) := by
    rw [Dump.bytes, ascii_monoHeader]
    simp only [List.append_assoc, List.cons_append, List.nil_append]
  rw [file, read]
  congr 1
  apply Image.ofPixels_congr
  intro x column y line
  have byteColumn : x / 8 < width := by
    change x / 8 < (info.xres.toNat + 7) / 8
    omega
  have place : monoRowStart info lineLength y + x / 8
      = (info.yoffset.toNat + y) * lineLength.toNat + (info.xoffset.toNat + x) / 8 := by
    rw [reachable.rowStart_eq line, Nat.add_assoc]
    congr 1
    omega
  have bit : (info.xoffset.toNat + x) % 8 = x % 8 := by omega
  have inRow : (rows y)[x / 8]?
      = some (monoByte blackIsZero (memory.getD (monoRowStart info lineLength y + x / 8) 0)) := by
    simp only [rows, monoRow]
    rw [List.getElem?_map, List.getElem?_range byteColumn]
    rfl
  have byte : ((List.range info.yres.toNat).flatMap rows).getD (y * width + x / 8) 0
      = monoByte blackIsZero (memory.getD (monoRowStart info lineLength y + x / 8) 0) := by
    rw [List.getD_eq_getElem?_getD, Nat.mul_comm, ← getElem?_block _ byteColumn,
      block_flatMap sized line, inRow, Option.getD_some]
  rw [bitmapPixel, byte, monoByte_testBit _ _ (Nat.mod_lt x (by decide)), place, monoPixel, bit]

end DummyDrivers.Fbcat
