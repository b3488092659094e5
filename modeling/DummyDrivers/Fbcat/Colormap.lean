import DummyDrivers.Fbcat.Rows
import DummyDrivers.Library.Netpbm

/-! The dump through any colormap: the file that it writes is a pixmap that shows, for every
visible pixel, the upper bytes of the levels that the pixel's fields select.
-/

namespace DummyDrivers.Fbcat

open DummyDrivers.Blocks
open DummyDrivers.Fb
open DummyDrivers.LittleEndian
open DummyDrivers.Loops
open DummyDrivers.Netpbm

/-- The bytes of the file. -/
def Dump.bytes (dump : Dump) : List UInt8 := ascii dump.header ++ dump.pixels

/-- A field of the pixel that only selects levels of the colormap. -/
structure InColormap (bitfield : FbBitfield) (levels : List (BitVec 16)) : Prop where
  offset : bitfield.offset.toNat < 32
  length : bitfield.length.toNat ≤ 8
  levels : 2 ^ bitfield.length.toNat ≤ levels.length

/-- Pixels that the dump can look up. -/
structure Mapped (info : FbVarScreeninfo) (colormap : FbCmap) : Prop where
  depth : 8 ≤ info.bitsPerPixel.toNat ∧ info.bitsPerPixel.toNat ≤ 32
  red : InColormap info.red colormap.red
  green : InColormap info.green colormap.green
  blue : InColormap info.blue colormap.blue

/-- The upper byte of the level that a field of a pixel selects. -/
def mappedByte (p : Nat) (bitfield : FbBitfield) (levels : List (BitVec 16)) : UInt8 :=
  let index := (p >>> bitfield.offset.toNat) % 2 ^ bitfield.length.toNat
  UInt8.ofNat (levels.getD index 0 >>> 8).toNat

/-- The colour of a pixel. -/
def mappedColour (info : FbVarScreeninfo) (colormap : FbCmap) (p : Nat) : Colour :=
  {
    red := mappedByte p info.red colormap.red
    green := mappedByte p info.green colormap.green
    blue := mappedByte p info.blue colormap.blue
  }

theorem getColor_mapped (pixel : BitVec 32) {bitfield : FbBitfield} {levels : List (BitVec 16)}
    (mapped : InColormap bitfield levels)
    : getColor pixel bitfield levels = .ok (mappedByte pixel.toNat bitfield levels) := by
  have index : (pixel >>> bitfield.offset &&& (1#32 <<< bitfield.length - 1)).toNat
      = (pixel.toNat >>> bitfield.offset.toNat) % 2 ^ bitfield.length.toNat := by
    rw [BitVec.toNat_and, shiftLeft_one_toNat mapped.length, Nat.and_two_pow_sub_one_eq_mod,
      BitVec.ushiftRight_eq', BitVec.toNat_ushiftRight]
  have inside := (Nat.mod_lt (pixel.toNat >>> bitfield.offset.toNat)
    (Nat.two_pow_pos bitfield.length.toNat)).trans_le mapped.levels
  rw [getColor, index, mappedByte, List.getD_eq_getElem?_getD, List.getElem?_eq_getElem inside]
  rfl

variable {info : FbVarScreeninfo} {colormap : FbCmap}

theorem Mapped.bytes_bounds (mapped : Mapped info colormap)
    : (bytesPerPixel info).toNat = (info.bitsPerPixel.toNat + 7) / 8
      ∧ 1 ≤ (bytesPerPixel info).toNat
      ∧ (bytesPerPixel info).toNat ≤ 4 := by
  obtain ⟨low, high⟩ := mapped.depth
  have bytes : (bytesPerPixel info).toNat = (info.bitsPerPixel.toNat + 7) / 8 := by
    rw [bytesPerPixel, BitVec.toNat_udiv, BitVec.toNat_add]
    change (info.bitsPerPixel.toNat + 7) % 2 ^ 32 / 8 = _
    omega
  omega

/-- The bytes that a round writes for a pixel. -/
def mappedBytes (info : FbVarScreeninfo) (colormap : FbCmap) (p : Nat) : List UInt8 :=
  let colour := mappedColour info colormap p
  [colour.red, colour.green, colour.blue]

theorem mappedBytes_length (info : FbVarScreeninfo) (colormap : FbCmap) (p : Nat)
    : (mappedBytes info colormap p).length = 3 := rfl

/-- The word of the pixel at a place of the memory. -/
def pixelWord (info : FbVarScreeninfo) (memory : List UInt8) (place : Nat) : Nat :=
  leWord ((memory.drop place).take (bytesPerPixel info).toNat)

/-- A round over a pixel inside the memory and the row writes the pixel's colour. -/
theorem dumpPixel_mapped (mapped : Mapped info colormap) {memory row : List UInt8}
    {current x : Nat} (inside : current + (bytesPerPixel info).toNat ≤ memory.length)
    (column : 3 * x + 3 ≤ row.length) (fits : 3 * x + 3 ≤ 2 ^ 32)
    : dumpPixel memory info colormap (current, row) x
      = .ok (current + (bytesPerPixel info).toNat,
          patch row (3 * x) (mappedBytes info colormap (pixelWord info memory current))) := by
  obtain ⟨pixel, loaded, word⟩ := loadPixel_ok inside mapped.bytes_bounds.2.2
  have redOk := getColor_mapped pixel mapped.red
  have greenOk := getColor_mapped pixel mapped.green
  have blueOk := getColor_mapped pixel mapped.blue
  have stored (red green blue : UInt8) := storeByte_three column fits red green blue
  rw [pixelWord, ← word]
  calc dumpPixel memory info colormap (current, row) x
      = (do
          let row ← storeByte row (BitVec.ofNat 32 x * 3 + 0) _
          let row ← storeByte row (BitVec.ofNat 32 x * 3 + 1) _
          storeByte row (BitVec.ofNat 32 x * 3 + 2) _)
        >>= fun row => pure (current + (bytesPerPixel info).toNat, row) := by
        simp only [dumpPixel, loaded, redOk, greenOk, blueOk, bind_assoc, ok_bind]
        rfl
    _ = _ := by
        rw [stored]
        rfl

/-- The bytes that a row's rounds write, from a place of the memory on. -/
def mappedRow (info : FbVarScreeninfo) (colormap : FbCmap) (memory : List UInt8) (start : Nat)
    : List UInt8 :=
  (List.range info.xres.toNat).flatMap
    fun x =>
      mappedBytes info colormap
        (pixelWord info memory (start + (bytesPerPixel info).toNat * x))

theorem mappedRow_length (info : FbVarScreeninfo) (colormap : FbCmap) (memory : List UInt8)
    (start : Nat)
    : (mappedRow info colormap memory start).length = 3 * info.xres.toNat :=
  flatMap_range_length (fun _ => mappedBytes_length _ _ _) _

theorem dumpPixels_mapped (mapped : Mapped info colormap) {memory row : List UInt8} {start : Nat}
    (inside : start + (bytesPerPixel info).toNat * info.xres.toNat ≤ memory.length)
    (sized : row.length = 3 * info.xres.toNat) (fits : 3 * info.xres.toNat < 2 ^ 32)
    : (List.range info.xres.toNat).foldlM (dumpPixel memory info colormap) (start, row)
      = .ok (start + (bytesPerPixel info).toNat * info.xres.toNat,
          mappedRow info colormap memory start) := by
  apply foldlM_range_blocks (fun x row => (start + (bytesPerPixel info).toNat * x, row))
    (fun _ => mappedBytes_length _ _ _) _ sized
  intro x column row length
  have pixelEnd := block_end (bytesPerPixel info).toNat column
  have cellEnd := block_end 3 column
  rw [Nat.mul_succ, ← Nat.add_assoc]
  exact dumpPixel_mapped mapped (by omega) (length ▸ cellEnd) (by omega)

/-- The visible part of the screen lies in a memory of a given size, within the reach of the
dump's 32 bits.
-/
structure Reachable (info : FbVarScreeninfo) (lineLength : BitVec 32) (size : Nat) : Prop where
  columns
    : (bytesPerPixel info).toNat * (info.xoffset.toNat + info.xres.toNat) ≤ lineLength.toNat
  lines : (info.yoffset.toNat + info.yres.toNat) * lineLength.toNat ≤ size
  addresses : (info.yoffset.toNat + info.yres.toNat) * lineLength.toNat < 2 ^ 32
  row : 3 * info.xres.toNat < 2 ^ 32

variable {lineLength : BitVec 32} {size : Nat}

/-- The start of a line does not wrap around. -/
theorem lineStart_toNat {offset lines y : Nat} {lineLength : BitVec 32} {first : BitVec 32}
    (same : first.toNat = offset) (line : y < lines)
    (addresses : (offset + lines) * lineLength.toNat < 2 ^ 32)
    : ((BitVec.ofNat 32 y + first) * lineLength).toNat = (offset + y) * lineLength.toNat := by
  have below : (offset + y) * lineLength.toNat ≤ (offset + lines) * lineLength.toNat :=
    Nat.mul_le_mul_right _ (by omega)
  have sum : (BitVec.ofNat 32 y + first).toNat = (y + offset) % 2 ^ 32 := by
    rw [BitVec.toNat_add, BitVec.toNat_ofNat, same, Nat.mod_add_mod]
  rw [BitVec.toNat_mul, sum, Nat.mod_mul_mod, Nat.add_comm y, Nat.mod_eq_of_lt]
  omega

theorem Reachable.rowStart_eq (reachable : Reachable info lineLength size) {y : Nat}
    (line : y < info.yres.toNat)
    : rowStart info lineLength y
      = (info.yoffset.toNat + y) * lineLength.toNat
        + (bytesPerPixel info).toNat * info.xoffset.toNat := by
  have columns := reachable.columns
  have left : (bytesPerPixel info).toNat * info.xoffset.toNat < 2 ^ 32 := by
    have wide := lineLength.isLt
    rw [Nat.mul_add] at columns
    omega
  rw [rowStart, lineStart_toNat rfl line reachable.addresses, BitVec.toNat_mul, Nat.mul_comm
    info.xoffset.toNat, Nat.mod_eq_of_lt left]

/-- The visible part of a line ends inside the memory. -/
theorem Reachable.line_end (reachable : Reachable info lineLength size) {y : Nat}
    (line : y < info.yres.toNat)
    : rowStart info lineLength y + (bytesPerPixel info).toNat * info.xres.toNat ≤ size := by
  have columns := reachable.columns
  have lineEnd : (info.yoffset.toNat + y) * lineLength.toNat + lineLength.toNat
      ≤ (info.yoffset.toNat + info.yres.toNat) * lineLength.toNat := by
    rw [← Nat.succ_mul]
    exact Nat.mul_le_mul_right _ (by omega)
  have lines := reachable.lines
  rw [Nat.mul_add] at columns
  rw [reachable.rowStart_eq line]
  omega

/-- The dump of a reachable screen is its rows one after the other. -/
theorem dumpVideoMemory_mapped (mapped : Mapped info colormap) {memory : List UInt8}
    (reachable : Reachable info lineLength memory.length) (heap : Nat → UInt8)
    : dumpVideoMemory memory info colormap lineLength (some heap)
      = .ok {
          header := header info
          pixels := (List.range info.yres.toNat).flatMap
            fun y => mappedRow info colormap memory (rowStart info lineLength y)
        } := by
  let rows (y : Nat) : List UInt8 :=
    mappedRow info colormap memory (rowStart info lineLength y)
  let holds (y : Nat) (state : List UInt8 × List UInt8) : Prop :=
    state.1.length = 3 * info.xres.toNat ∧ state.2 = (List.range y).flatMap rows
  have rowSize := rowSize_toNat reachable.row
  have round (y : Nat) (line : y < info.yres.toNat) (state : List UInt8 × List UInt8)
      (invariant : holds y state)
      : ∃ next,
          dumpRow memory info colormap lineLength state y = .ok next ∧ holds (y + 1) next := by
    obtain ⟨row, written⟩ := state
    obtain ⟨sized, rfl⟩ := invariant
    have length : (rows y).length = 3 * info.xres.toNat := mappedRow_length _ _ _ _
    refine ⟨(rows y, (List.range y).flatMap rows ++ rows y), ?_, length, ?_⟩
    · rw [dumpRow, dumpPixels_mapped mapped (reachable.line_end line) sized reachable.row]
      simp only [ok_bind, rowSize]
      rw [List.take_of_length_le length.le]
      rfl
    · rw [List.range_succ, List.flatMap_append, List.flatMap_singleton]
  have buffer : ((List.range (info.xres * 3).toNat).map heap).length = 3 * info.xres.toNat := by
    rw [List.length_map, List.length_range, rowSize]
  obtain ⟨⟨row, written⟩, ran, _, rfl⟩ := foldlM_range_ok round (⟨buffer, rfl⟩ : holds 0 (_, []))
  simp only [dumpVideoMemory, ran, ok_bind]
  rfl

/-- The header that the dump writes, piece by piece. -/
theorem ascii_header (info : FbVarScreeninfo)
    : ascii (header info)
      = ascii "P6"
        ++ 32 :: (ascii (toString info.xres.toNat)
          ++ 32 :: (ascii (toString info.yres.toNat)
            ++ 32 :: (ascii (toString 255) ++ [10]))) := by
  simp only [header, ascii_append, List.append_assoc]
  rfl

/-- The dump of a reachable screen is a pixmap of its visible pixels, in the colours that the
colormap has for them.
-/
theorem dumpVideoMemory_shows (mapped : Mapped info colormap) {memory : List UInt8}
    (reachable : Reachable info lineLength memory.length) (heap : Nat → UInt8)
    : ∃ dump,
        dumpVideoMemory memory info colormap lineLength (some heap) = .ok dump
        ∧ readPixmap dump.bytes
          = some (.ofPixels info.xres.toNat info.yres.toNat
              fun x y =>
                mappedColour info colormap
                  (pixelWord info memory
                    ((info.yoffset.toNat + y) * lineLength.toNat
                    + (bytesPerPixel info).toNat * (info.xoffset.toNat + x)))) := by
  let rows (y : Nat) : List UInt8 := mappedRow info colormap memory (rowStart info lineLength y)
  have sized (y : Nat) : (rows y).length = 3 * info.xres.toNat := mappedRow_length _ _ _ _
  have whole := flatMap_range_length sized info.yres.toNat
  rw [Nat.mul_assoc] at whole
  refine ⟨_, dumpVideoMemory_mapped mapped reachable heap, ?_⟩
  have blank : isSpace 32 := rfl
  have read := readPixmap_header blank blank blank (rfl : isSpace 10) info.xres.toNat
    info.yres.toNat whole.ge
  have file (pixels : List UInt8)
      : (Dump.bytes { header := header info, pixels })
        = ascii "P6"
          ++ 32 :: (ascii (toString info.xres.toNat)
            ++ 32 :: (ascii (toString info.yres.toNat)
              ++ 32 :: (ascii (toString 255) ++ 10 :: pixels))) := by
    rw [Dump.bytes, ascii_header]
    simp only [List.append_assoc, List.cons_append, List.nil_append]
  rw [file, read]
  congr 1
  apply Image.ofPixels_congr
  intro x column y line
  have place : rowStart info lineLength y + (bytesPerPixel info).toNat * x
      = (info.yoffset.toNat + y) * lineLength.toNat
        + (bytesPerPixel info).toNat * (info.xoffset.toNat + x) := by
    rw [reachable.rowStart_eq line, Nat.mul_add, Nat.add_assoc]
  rw [pixmapPixel_block, ← block_block _ y column, block_flatMap sized line]
  simp only [rows]
  rw [mappedRow, block_flatMap (fun _ => mappedBytes_length _ _ _) column, place]
  rfl

end DummyDrivers.Fbcat
