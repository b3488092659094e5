import DummyDrivers.Fbcat.Rows
import DummyDrivers.Fbview.Preview

/-! Which frames the dump and the converter make the same picture of. The dump computes
the size of its row buffer and the start of a row in 32 bits.
-/

namespace DummyDrivers.Fbcat

open DummyDrivers.Blocks
open DummyDrivers.Fb
open DummyDrivers.Fbview
open DummyDrivers.LittleEndian
open DummyDrivers.Loops

theorem storeByte_inside {row next : List UInt8} {index : BitVec 32} {byte : UInt8}
    (stored : storeByte row index byte = .ok next)
    : index.toNat < row.length ∧ next.length = row.length := by
  rw [storeByte] at stored
  split at stored
  · obtain rfl := Except.ok.inj stored
    exact ⟨‹_›, List.length_set⟩
  · contradiction

variable {info : FbVarScreeninfo} {memory : List UInt8}

theorem dumpPixel_inside {colormap : FbCmap} {state next : Nat × List UInt8} {x : Nat}
    (ran : dumpPixel memory info colormap state x = .ok next)
    : (BitVec.ofNat 32 x * 3 + 0).toNat < state.2.length
      ∧ next.2.length = state.2.length := by
  simp only [dumpPixel, bind_eq_ok] at ran
  obtain ⟨_, _, _, _, first, redStored, _, _, second, greenStored, _, _, third, blueStored, last⟩ :=
    ran
  obtain rfl := Except.ok.inj last
  obtain ⟨inside, firstLength⟩ := storeByte_inside redStored
  have secondLength := (storeByte_inside greenStored).2
  have thirdLength := (storeByte_inside blueStored).2
  exact ⟨inside, thirdLength.trans (secondLength.trans firstLength)⟩

/-- Where three bytes for each pixel of a row are more than 32 bits count, the rounds over a
row end outside the buffer. Witness: the first pixel behind the buffer.
-/
theorem dumpRow_ne_ok {colormap : FbCmap} {lineLength : BitVec 32}
    (narrow : info.xres.toNat < 2 ^ 31) (large : 2 ^ 32 ≤ 3 * info.xres.toNat)
    {row written : List UInt8} (sized : row.length = (info.xres * 3).toNat) (y : Nat)
    (next : List UInt8 × List UInt8)
    : dumpRow memory info colormap lineLength (row, written) y ≠ .ok next := by
  have wrapped : (info.xres * 3).toNat = 3 * info.xres.toNat - 2 ^ 32 := by
    rw [BitVec.toNat_mul]
    change info.xres.toNat * 3 % 2 ^ 32 = _
    omega
  have failing : (row.length + 2) / 3 ∈ List.range info.xres.toNat :=
    List.mem_range.mpr (by omega)
  have outside (state next : Nat × List UInt8) (kept : state.2.length = row.length)
      : dumpPixel memory info colormap state ((row.length + 2) / 3) ≠ .ok next := by
    intro ran
    have inside := (dumpPixel_inside ran).1
    rw [cellIndex_toNat 0 (by decide) (by omega)] at inside
    change 3 * ((row.length + 2) / 3) + 0 < _ at inside
    omega
  intro ran
  simp only [dumpRow, bind_eq_ok] at ran
  obtain ⟨⟨current, row'⟩, finished, _⟩ := ran
  have kept (state : Nat × List UInt8) (x : Nat) (next : Nat × List UInt8)
      (before : state.2.length = row.length)
      (ran : dumpPixel memory info colormap state x = .ok next)
      : next.2.length = row.length :=
    (dumpPixel_inside ran).2.trans before
  exact foldlM_ne_ok outside kept failing rfl _ finished

theorem dumpTruecolor_ne_ok {lineLength : BitVec 32} (narrow : info.xres.toNat < 2 ^ 31)
    (large : 2 ^ 32 ≤ 3 * info.xres.toNat) (line : 0 < info.yres.toNat) (heap : Nat → UInt8)
    (dump : Dump)
    : dumpTruecolor memory info lineLength (some heap) ≠ .ok dump := by
  intro ran
  obtain ⟨colormap, _, ran⟩ := bind_eq_ok.mp ran
  split at ran
  · contradiction
  simp only [dumpVideoMemory, bind_eq_ok] at ran
  obtain ⟨_, finished, _⟩ := ran
  have first : 0 ∈ List.range info.yres.toNat := List.mem_range.mpr line
  have fails (state next : List UInt8 × List UInt8)
      (sized : state.1.length = (info.xres * 3).toNat)
      : dumpRow memory info colormap lineLength state 0 ≠ .ok next :=
    dumpRow_ne_ok narrow large sized 0 next
  have kept (state : List UInt8 × List UInt8) (y : Nat) (next : List UInt8 × List UInt8)
      (sized : state.1.length = (info.xres * 3).toNat)
      (ran : dumpRow memory info colormap lineLength state y = .ok next)
      : next.1.length = (info.xres * 3).toNat :=
    absurd ran (dumpRow_ne_ok narrow large sized y next)
  exact foldlM_ne_ok fails kept first (by simp) _ finished

/-- The visible area is the whole virtual one, and the lines follow each other without
padding.
-/
structure Packed (info : FbVarScreeninfo) (format : Format) (lineLength : BitVec 32) : Prop where
  virtual : info.xresVirtual = info.xres
  xoffset : info.xoffset = 0
  yoffset : info.yoffset = 0
  line : lineLength.toNat = info.xres.toNat * format.bytes

/-- For every content of the memory, and of the row buffer before it is used, the dump
writes the pixel bytes that the converter returns.
-/
def SamePicture (info : FbVarScreeninfo) (lineLength : BitVec 32) : Prop :=
  ∀ memory heap,
    frameSize info ≤ memory.length
    → ∃ rgb dump,
        (Converter.init info).convert memory = .ok rgb
        ∧ rgb.length = 3 * (info.xres.toNat * info.yres.toNat)
        ∧ dumpTruecolor memory info lineLength (some heap) = .ok dump
        ∧ dump.pixels = rgb

/-- The 32-bit arithmetic of the dump reaches as far as the frame. -/
def DumpReaches (info : FbVarScreeninfo) (lineLength : BitVec 32) : Prop :=
  info.yres = 0
  ∨ 3 * info.xres.toNat < 2 ^ 32 ∧ (info.yres.toNat - 1) * lineLength.toNat < 2 ^ 32

variable {format : Format} {lineLength : BitVec 32}

theorem Packed.rowStart_eq (packed : Packed info format lineLength) {y : Nat} (small : y < 2 ^ 32)
    : rowStart info lineLength y = y * lineLength.toNat % 2 ^ 32 := by
  have column : (0 * bytesPerPixel info).toNat = 0 := by simp
  have line : BitVec.ofNat 32 y + 0 = BitVec.ofNat 32 y := BitVec.add_zero _
  rw [rowStart, packed.xoffset, packed.yoffset, column, line, BitVec.toNat_mul,
    BitVec.toNat_ofNat, Nat.mod_eq_of_lt small, Nat.add_zero]

theorem Packed.frameSize_eq (packed : Packed info format lineLength)
    (standard : StandardFormat info format)
    : frameSize info = format.bytes * (info.xres.toNat * info.yres.toNat) := by
  rw [standard.supports.frameSize_eq, packed.virtual]

/-- A pixel of the dump. -/
theorem block_rows (format : Format) (memory : List UInt8) (starts : Nat → Nat)
    {x y width height : Nat} (column : x < width) (line : y < height)
    : block 3 ((List.range height).flatMap fun y => rowColours format memory (starts y) width)
        (y * width + x)
      = format.colour ((memory.drop (starts y + format.bytes * x)).take format.bytes) := by
  have sized (y : Nat) := rowColours_length format memory (starts y) width
  rw [← block_block _ y column, block_flatMap sized line, rowColours,
    block_flatMap (fun _ => Format.colour_length _ _) column]

/-- The dump is complete when the row buffer is large enough, even where the starts of its
rows wrap around.
-/
theorem Packed.dump_ok (packed : Packed info format lineLength)
    (standard : StandardFormat info format)
    (fits : 0 < info.yres.toNat → 3 * info.xres.toNat < 2 ^ 32)
    (whole : frameSize info ≤ memory.length) (heap : Nat → UInt8)
    : dumpTruecolor memory info lineLength (some heap)
      = .ok {
          header := header info
          pixels := (List.range info.yres.toNat).flatMap
            fun y => rowColours format memory (rowStart info lineLength y) info.xres.toNat
        } := by
  apply dumpTruecolor_ok standard fits
  intro y line
  have rowEnd := block_end (format.bytes * info.xres.toNat) line
  have small : y < 2 ^ 32 := line.trans info.yres.isLt
  have start := Nat.mod_le (y * lineLength.toNat) (2 ^ 32)
  calc rowStart info lineLength y + format.bytes * info.xres.toNat
      ≤ y * lineLength.toNat + format.bytes * info.xres.toNat := by
        rw [packed.rowStart_eq small]
        omega
    _ = format.bytes * info.xres.toNat * y + format.bytes * info.xres.toNat := by
        rw [packed.line]
        ring
    _ ≤ format.bytes * info.xres.toNat * info.yres.toNat := rowEnd
    _ = frameSize info := by rw [packed.frameSize_eq standard, Nat.mul_assoc]
    _ ≤ memory.length := whole

/-- Where the starts of the rows do not wrap around, the pixels are those of the frame. -/
theorem Packed.pixels_eq (packed : Packed info format lineLength)
    (reaches : (info.yres.toNat - 1) * lineLength.toNat < 2 ^ 32)
    : (List.range info.yres.toNat).flatMap
        (fun y => rowColours format memory (rowStart info lineLength y) info.xres.toNat)
      = format.frame memory (info.xres.toNat * info.yres.toNat) := by
  have sized (y : Nat) := rowColours_length format memory (rowStart info lineLength y)
    info.xres.toNat
  have rowsLength := flatMap_range_length sized info.yres.toNat
  have frameLength : (format.frame memory (info.xres.toNat * info.yres.toNat)).length
      = 3 * (info.xres.toNat * info.yres.toNat) :=
    flatMap_range_length (fun _ => Format.colour_length _ _) _
  rw [Nat.mul_assoc] at rowsLength
  apply ext_blocks rowsLength frameLength
  intro index inside
  have positive : 0 < info.xres.toNat := Nat.pos_of_mul_pos_right (Nat.zero_lt_of_lt inside)
  have column := Nat.mod_lt index positive
  have line : index / info.xres.toNat < info.yres.toNat := Nat.div_lt_of_lt_mul inside
  have place : index / info.xres.toNat * info.xres.toNat + index % info.xres.toNat = index :=
    Nat.div_add_mod' _ _
  have reached : index / info.xres.toNat * lineLength.toNat < 2 ^ 32 :=
    (Nat.mul_le_mul_right _ (by omega)).trans_lt reaches
  have start : rowStart info lineLength (index / info.xres.toNat)
        + format.bytes * (index % info.xres.toNat)
      = format.bytes * index := by
    rw [packed.rowStart_eq (line.trans info.yres.isLt), Nat.mod_eq_of_lt reached, packed.line]
    nth_rewrite 3 [← place]
    ring
  rw [Format.block_frame format memory inside]
  nth_rewrite 1 [← place]
  rw [block_rows _ _ _ column line, start, block]

theorem Packed.samePicture (packed : Packed info format lineLength)
    (standard : StandardFormat info format) (reaches : DumpReaches info lineLength)
    : SamePicture info lineLength := by
  intro memory heap whole
  have fits (lines : 0 < info.yres.toNat) : 3 * info.xres.toNat < 2 ^ 32 := by
    rcases reaches with none | ⟨fits, _⟩
    · rw [none] at lines
      contradiction
    · exact fits
  have unwrapped : (info.yres.toNat - 1) * lineLength.toNat < 2 ^ 32 := by
    rcases reaches with none | ⟨_, unwrapped⟩
    · simp [none]
    · exact unwrapped
  have enough : format.bytes * (info.xres.toNat * info.yres.toNat) ≤ memory.length := by
    rw [← packed.frameSize_eq standard]
    exact whole
  refine ⟨_, _, standard.supports.convert_ok enough, ?_, packed.dump_ok standard fits whole heap,
    packed.pixels_eq unwrapped⟩
  exact flatMap_range_length (fun _ => Format.colour_length _ _) _

/-- In equal pictures the first pixel of a row has the colour of what its pointer points to. -/
theorem Packed.samePicture_first (packed : Packed info format lineLength)
    (standard : StandardFormat info format) (fits : 3 * info.xres.toNat < 2 ^ 32)
    (same : SamePicture info lineLength) (whole : frameSize info ≤ memory.length)
    (column : 0 < info.xres.toNat) {y : Nat} (line : y < info.yres.toNat)
    : format.colour ((memory.drop (rowStart info lineLength y)).take format.bytes)
      = format.colour (block format.bytes memory (y * info.xres.toNat)) := by
  have enough : format.bytes * (info.xres.toNat * info.yres.toNat) ≤ memory.length := by
    rw [← packed.frameSize_eq standard]
    exact whole
  obtain ⟨rgb, dump, converted, _, dumped, agree⟩ := same memory (fun _ => 0) whole
  have shown := standard.supports.convert_ok enough
  have written := packed.dump_ok standard (fun _ => fits) whole fun _ => 0
  have rgbEq := Except.ok.inj (shown.symm.trans converted)
  have dumpEq := congrArg Dump.pixels (Except.ok.inj (written.symm.trans dumped))
  have dumpFirst := block_rows format memory (rowStart info lineLength) column line
  have frameFirst := format.block_frame memory (raster_lt column line)
  rw [Nat.mul_zero, Nat.add_zero, Nat.add_zero] at dumpFirst
  rw [Nat.add_zero] at frameFirst
  calc format.colour ((memory.drop (rowStart info lineLength y)).take format.bytes)
      = block 3 dump.pixels (y * info.xres.toNat) := by rw [← dumpEq, dumpFirst]
    _ = block 3 rgb (y * info.xres.toNat) := by rw [agree]
    _ = format.colour (block format.bytes memory (y * info.xres.toNat)) := by
        rw [← rgbEq, frameFirst]

/-- Where the start of the last row wraps around, a frame that is zero up to this row, which
starts with a pixel of ones, is dumped with a row of zeros.
-/
theorem Packed.wrapped_differs (packed : Packed info format lineLength)
    (standard : StandardFormat info format) (fits : 3 * info.xres.toNat < 2 ^ 32)
    (wrapped : 2 ^ 32 ≤ (info.yres.toNat - 1) * lineLength.toNat)
    : ¬ SamePicture info lineLength := by
  intro same
  have nonzero : 0 < (info.yres.toNat - 1) * lineLength.toNat := by omega
  have line : info.yres.toNat - 1 < info.yres.toNat := by
    have := Nat.pos_of_mul_pos_right nonzero
    omega
  have column : 0 < info.xres.toNat := by
    have := Nat.pos_of_mul_pos_left nonzero
    rw [packed.line] at this
    exact Nat.pos_of_mul_pos_right this
  generalize info.yres.toNat - 1 = last at line wrapped
  let blank : List UInt8 := List.replicate (frameSize info) 0
  let ones : List UInt8 := List.replicate format.bytes 0xFF
  have inside : format.bytes * (last * info.xres.toNat) + format.bytes ≤ blank.length := by
    rw [List.length_replicate, packed.frameSize_eq standard]
    exact block_end format.bytes (raster_lt column line)
  have onesLength : ones.length = format.bytes := List.length_replicate
  have whole : (patch blank (format.bytes * (last * info.xres.toNat)) ones).length
      = frameSize info := by
    rw [patch_length (onesLength ▸ inside), List.length_replicate]
  have before : rowStart info lineLength last + format.bytes
      ≤ format.bytes * (last * info.xres.toNat) := by
    have start : rowStart info lineLength last = last * lineLength.toNat % 2 ^ 32 :=
      packed.rowStart_eq (line.trans info.yres.isLt)
    have place : format.bytes * (last * info.xres.toNat) = last * lineLength.toNat := by
      rw [packed.line]
      ring
    have small := format.bytes_bounds.2
    omega
  have zeros : ((patch blank (format.bytes * (last * info.xres.toNat)) ones).drop
        (rowStart info lineLength last)).take format.bytes
      = List.replicate format.bytes 0 := by
    rw [take_drop_patch (onesLength ▸ inside) before, List.drop_replicate, List.take_replicate]
    rw [List.length_replicate] at inside
    congr 1
    omega
  have agree := packed.samePicture_first standard fits same whole.ge column line
  rw [zeros, block_patch onesLength inside, if_pos rfl] at agree
  exact standard.supports.colour_ones standard.visible agree.symm

theorem Packed.samePicture_reaches (packed : Packed info format lineLength)
    (standard : StandardFormat info format) (same : SamePicture info lineLength)
    : DumpReaches info lineLength := by
  have narrow : info.xres.toNat < 2 ^ 31 := by
    have line := packed.line
    have wide := Nat.mul_le_mul_left info.xres.toNat format.bytes_bounds.1
    omega
  by_contra unreached
  obtain ⟨lines, unreached⟩ := not_or.mp unreached
  have positive : 0 < info.yres.toNat := by
    apply Nat.pos_of_ne_zero
    exact fun none => lines (BitVec.eq_of_toNat_eq none)
  by_cases fits : 3 * info.xres.toNat < 2 ^ 32
  case neg =>
    obtain ⟨_, dump, _, _, dumped, _⟩ :=
      same (List.replicate (frameSize info) 0) (fun _ => 0) (by simp)
    exact dumpTruecolor_ne_ok narrow (by omega) positive _ dump dumped
  case pos =>
    have wrapped : 2 ^ 32 ≤ (info.yres.toNat - 1) * lineLength.toNat :=
      Nat.le_of_not_lt fun unwrapped => unreached ⟨fits, unwrapped⟩
    exact packed.wrapped_differs standard fits wrapped same

/-- The dump and the converter agree on every content of a packed frame in a standard format
exactly when the 32-bit arithmetic of the dump reaches as far as the frame.
-/
theorem samePicture_iff (packed : Packed info format lineLength)
    (standard : StandardFormat info format)
    : SamePicture info lineLength ↔ DumpReaches info lineLength :=
  ⟨packed.samePicture_reaches standard, packed.samePicture standard⟩

/-- Witness: a screen of 320x240 pixels. -/
theorem samePicture_small
    : SamePicture (rgb565Screen 320 240) 640 ∧ DumpReaches (rgb565Screen 320 240) 640 := by
  have reaches : DumpReaches (rgb565Screen 320 240) 640 := .inr ⟨by decide, by decide⟩
  have packed : Packed (rgb565Screen 320 240) .rgb565 640 := ⟨rfl, rfl, rfl, rfl⟩
  exact ⟨(samePicture_iff packed (rgb565Screen_standard 320 240)).mpr reaches, reaches⟩

/-- For one line of 1431655766 pixels the row buffer has two bytes. -/
theorem samePicture_wide_fails
    : ¬ ∀ info format lineLength,
        StandardFormat info format
        → Packed info format lineLength
        → SamePicture info lineLength := by
  intro same
  have claimed := same _ _ 2863311532 (rgb565Screen_standard 1431655766 1) ⟨rfl, rfl, rfl, rfl⟩
  obtain ⟨_, dump, _, _, dumped, _⟩ :=
    claimed (List.replicate (frameSize (rgb565Screen 1431655766 1)) 0) (fun _ => 0)
      List.length_replicate.ge
  exact dumpTruecolor_ne_ok (by decide) (by decide) (by decide) _ dump dumped

end DummyDrivers.Fbcat
