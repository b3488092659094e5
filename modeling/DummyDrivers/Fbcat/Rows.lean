import DummyDrivers.Fbcat.Colours
import DummyDrivers.Library.Blocks
import DummyDrivers.Library.Loops

/-! What the dump writes of a frame in a standard format, as long as its row buffer is as
large as a row.
-/

namespace DummyDrivers.Fbcat

open DummyDrivers.Blocks
open DummyDrivers.Fb
open DummyDrivers.Fbview (Format StandardFormat)
open DummyDrivers.LittleEndian
open DummyDrivers.Loops

theorem cellIndex_toNat {x : Nat} (lane : BitVec 32) (small : lane.toNat < 3)
    (fits : 3 * x + 3 ≤ 2 ^ 32)
    : (BitVec.ofNat 32 x * 3 + lane).toNat = 3 * x + lane.toNat := by
  rw [BitVec.toNat_add, BitVec.toNat_mul, BitVec.toNat_ofNat]
  change ((x % 2 ^ 32) * 3 % 2 ^ 32 + lane.toNat) % 2 ^ 32 = _
  omega

/-- The three stores of a round are a patch. -/
theorem storeByte_three {row : List UInt8} {x : Nat} (column : 3 * x + 3 ≤ row.length)
    (fits : 3 * x + 3 ≤ 2 ^ 32) (red green blue : UInt8)
    : (do
        let row ← storeByte row (BitVec.ofNat 32 x * 3 + 0) red
        let row ← storeByte row (BitVec.ofNat 32 x * 3 + 1) green
        storeByte row (BitVec.ofNat 32 x * 3 + 2) blue)
      = .ok (patch row (3 * x) [red, green, blue]) := by
  have zero : (BitVec.ofNat 32 x * 3 + 0).toNat = 3 * x := cellIndex_toNat 0 (by decide) fits
  have one : (BitVec.ofNat 32 x * 3 + 1).toNat = 3 * x + 1 := cellIndex_toNat 1 (by decide) fits
  have two : (BitVec.ofNat 32 x * 3 + 2).toNat = 3 * x + 2 := cellIndex_toNat 2 (by decide) fits
  rw [← set_three_eq_patch column]
  simp only [storeByte, zero, one, two]
  rw [if_pos (by omega)]
  simp only [bind, Except.bind, List.length_set]
  rw [if_pos (by omega)]
  simp only [List.length_set]
  rw [if_pos (by omega)]

/-- A round over a pixel inside the memory and the row writes the pixel's colour. -/
theorem dumpPixel_ok {info : FbVarScreeninfo} {format : Format}
    (standard : StandardFormat info format) {memory row : List UInt8} {current x : Nat}
    (inside : current + format.bytes ≤ memory.length) (column : 3 * x + 3 ≤ row.length)
    (fits : 3 * x + 3 ≤ 2 ^ 32)
    : dumpPixel memory info (levelColormap info) (current, row) x
      = .ok (current + format.bytes,
          patch row (3 * x) (format.colour ((memory.drop current).take format.bytes))) := by
  obtain ⟨red, green, blue⟩ := channels_scalable standard
  have whole : ((memory.drop current).take format.bytes).length = format.bytes := by
    rw [List.length_take, List.length_drop]
    omega
  obtain ⟨pixel, loaded, word⟩ := loadPixel_ok inside format.bytes_bounds.2
  have redOk := getColor_ok pixel red.1
  have greenOk := getColor_ok pixel green.1
  have blueOk := getColor_ok pixel blue.1
  have stored (red green blue : UInt8) := storeByte_three column fits red green blue
  rw [← scaledColour_eq standard whole, ← word]
  calc dumpPixel memory info (levelColormap info) (current, row) x
      = (do
          let row ← storeByte row (BitVec.ofNat 32 x * 3 + 0) _
          let row ← storeByte row (BitVec.ofNat 32 x * 3 + 1) _
          storeByte row (BitVec.ofNat 32 x * 3 + 2) _)
        >>= fun row => pure (current + format.bytes, row) := by
        simp only [dumpPixel, bytesPerPixel_toNat standard, loaded, levelColormap, redOk,
          greenOk, blueOk, bind_assoc, ok_bind]
        rfl
    _ = _ := by
        rw [stored]
        rfl

/-- The colours of the pixels from a place of the memory on. -/
def rowColours (format : Format) (memory : List UInt8) (start width : Nat) : List UInt8 :=
  (List.range width).flatMap
    fun x => format.colour ((memory.drop (start + format.bytes * x)).take format.bytes)

theorem rowColours_length (format : Format) (memory : List UInt8) (start width : Nat)
    : (rowColours format memory start width).length = 3 * width :=
  flatMap_range_length (fun _ => Format.colour_length _ _) width

/-- The rounds over a row inside the memory write its colours, whatever the row buffer held
before.
-/
theorem dumpPixels_ok {info : FbVarScreeninfo} {format : Format}
    (standard : StandardFormat info format) {memory row : List UInt8} {start width : Nat}
    (inside : start + format.bytes * width ≤ memory.length) (sized : row.length = 3 * width)
    (fits : 3 * width ≤ 2 ^ 32)
    : (List.range width).foldlM (dumpPixel memory info (levelColormap info)) (start, row)
      = .ok (start + format.bytes * width, rowColours format memory start width) := by
  apply foldlM_range_blocks (fun x row => (start + format.bytes * x, row))
    (fun _ => Format.colour_length _ _) _ sized
  intro x column row length
  have pixelEnd := block_end format.bytes column
  have cellEnd := block_end 3 column
  rw [Nat.mul_succ, ← Nat.add_assoc]
  exact dumpPixel_ok standard (by omega) (length ▸ cellEnd) (by omega)

/-- The buffer of a row is exactly as long as the bytes of the row, which are computed in 32
bits.
-/
theorem rowSize_toNat {xres : BitVec 32} (fits : 3 * xres.toNat < 2 ^ 32)
    : (xres * 3).toNat = 3 * xres.toNat := by
  rw [BitVec.toNat_mul]
  change xres.toNat * 3 % 2 ^ 32 = _
  omega

/-- The dump is the rows one after the other, each from where its pointer starts. -/
theorem dumpTruecolor_ok {info : FbVarScreeninfo} {format : Format}
    (standard : StandardFormat info format) {memory : List UInt8} {lineLength : BitVec 32}
    (fits : 0 < info.yres.toNat → 3 * info.xres.toNat < 2 ^ 32)
    (inside
      : ∀ y < info.yres.toNat,
          rowStart info lineLength y + format.bytes * info.xres.toNat ≤ memory.length)
    (heap : Nat → UInt8)
    : dumpTruecolor memory info lineLength (some heap)
      = .ok {
          header := header info
          pixels := (List.range info.yres.toNat).flatMap
            fun y => rowColours format memory (rowStart info lineLength y) info.xres.toNat
        } := by
  let rows (y : Nat) : List UInt8 :=
    rowColours format memory (rowStart info lineLength y) info.xres.toNat
  let holds (y : Nat) (state : List UInt8 × List UInt8) : Prop :=
    state.1.length = (info.xres * 3).toNat ∧ state.2 = (List.range y).flatMap rows
  have round (y : Nat) (line : y < info.yres.toNat) (state : List UInt8 × List UInt8)
      (invariant : holds y state)
      : ∃ next,
          dumpRow memory info (levelColormap info) lineLength state y = .ok next
          ∧ holds (y + 1) next := by
    obtain ⟨row, written⟩ := state
    obtain ⟨sized, rfl⟩ := invariant
    have fits := fits (by omega)
    rw [rowSize_toNat fits] at sized
    have length : (rows y).length = 3 * info.xres.toNat := rowColours_length _ _ _ _
    refine ⟨(rows y, (List.range y).flatMap rows ++ rows y), ?_, ?_, ?_⟩
    · rw [dumpRow, dumpPixels_ok standard (inside y line) sized fits.le]
      simp only [ok_bind, rowSize_toNat fits]
      rw [List.take_of_length_le (rowColours_length _ _ _ _).le]
      rfl
    · rw [length, rowSize_toNat fits]
    · rw [List.range_succ, List.flatMap_append, List.flatMap_singleton]
  have buffer : ((List.range (info.xres * 3).toNat).map heap).length = (info.xres * 3).toNat := by
    rw [List.length_map, List.length_range]
  obtain ⟨⟨row, written⟩, ran, _, rfl⟩ := foldlM_range_ok round (⟨buffer, rfl⟩ : holds 0 (_, []))
  have deep : ¬ info.bitsPerPixel < 8 := by
    change ¬ info.bitsPerPixel.toNat < 8
    cases standard <;> omega
  rw [dumpTruecolor, truecolorColormap_ok standard]
  simp only [ok_bind, if_neg deep, dumpVideoMemory, ran]
  rfl

end DummyDrivers.Fbcat
