import DummyDrivers.Fb.Screeninfo
import DummyDrivers.Library.Overwriting

/-! The rectangles of the framebuffer benchmark. Pointers into the mapping are positions in
it, and the results of `rand` are given.
-/

namespace DummyDrivers.FbRectangle

open DummyDrivers.Blocks
open DummyDrivers.Fb
open DummyDrivers.Loops
open DummyDrivers.Overwriting

inductive Fault where
  | divisionByZero
  | outOfBounds
  deriving DecidableEq, Repr

/-- The numbers in the environment variables that are set. -/
structure Environment where
  width : Option (BitVec 32)
  height : Option (BitVec 32)
  posx : Option (BitVec 32)
  posy : Option (BitVec 32)
  deriving DecidableEq, Repr

/-- The `int` variables of `main` that do not change in its loop. -/
structure Window where
  width : BitVec 32
  height : BitVec 32
  posx : BitVec 32
  posy : BitVec 32
  deriving DecidableEq, Repr

/-- The assignments before the mapping. -/
def Window.init (info : FbVarScreeninfo) (environment : Environment) : Window :=
  {
    width := environment.width.getD info.xres
    height := environment.height.getD info.yres
    posx := environment.posx.getD 0
    posy := environment.posy.getD 0
  }

/-- The size of a rectangle, with the shift of an `int`. -/
def Window.w (window : Window) : BitVec 32 := window.width.sshiftRight 2

def Window.h (window : Window) : BitVec 32 := window.height.sshiftRight 2

/-- The length of the mapping. -/
def mapLength (info : FbVarScreeninfo) : BitVec 32 :=
  info.xres * info.yres * info.bitsPerPixel / 8

/-- The results of `rand` in a round. -/
structure Draws where
  r : BitVec 32
  g : BitVec 32
  b : BitVec 32
  x : BitVec 32
  y : BitVec 32
  deriving DecidableEq, Repr

/-- A remainder, whose divisor is unsigned. -/
def remainder (value divisor : BitVec 32) : Except Fault (BitVec 32) :=
  if divisor = 0 then .error .divisionByZero else .ok (value % divisor)

def storeByte (memory : List UInt8) (place : Nat) (byte : UInt8) : Except Fault (List UInt8) :=
  if place < memory.length then .ok (memory.set place byte) else .error .outOfBounds

/-- A colour in the order of its bytes in the memory. -/
structure Colour where
  b : UInt8
  g : UInt8
  r : UInt8
  deriving DecidableEq, Repr

def Colour.bytes (colour : Colour) : List UInt8 := [colour.b, colour.g, colour.r]

/-- The colour of a round. -/
def Draws.colour (draws : Draws) : Colour :=
  {
    r := UInt8.ofNat (draws.r % 256).toNat
    g := UInt8.ofNat (draws.g % 256).toNat
    b := UInt8.ofNat (draws.b % 256).toNat
  }

/-- The stores of the inner loop in a round of it. -/
def putPixel (info : FbVarScreeninfo) (data : Nat) (colour : Colour) (memory : List UInt8)
    (j : Nat) : Except Fault (List UInt8) := do
  let offset := info.bitsPerPixel / 8 * BitVec.ofNat 32 j
  let memory ← storeByte memory (data + (offset + 2).toNat) colour.r
  let memory ← storeByte memory (data + (offset + 1).toNat) colour.g
  storeByte memory (data + offset.toNat) colour.b

/-- A round of the outer loop, on the memory and the pointer into it. -/
def putRow (info : FbVarScreeninfo) (w : BitVec 32) (colour : Colour)
    (state : List UInt8 × Nat) (_ : Nat) : Except Fault (List UInt8 × Nat) := do
  let (memory, data) := state
  let memory ← (List.range w.toNat).foldlM (putPixel info data colour) memory
  .ok (memory, data + (info.xres * info.bitsPerPixel / 8).toNat)

/-- A round of the benchmark. -/
def putRectangle (info : FbVarScreeninfo) (window : Window) (memory : List UInt8)
    (draws : Draws) : Except Fault (List UInt8) := do
  let x ← remainder draws.x (window.width - window.w)
  let y ← remainder draws.y (window.height - window.h)
  let data := ((window.posy + y) * info.xres * info.bitsPerPixel / 8).toNat
    + ((window.posx + x) * info.bitsPerPixel / 8).toNat
  let (memory, _) ← (List.range window.h.toNat).foldlM
    (putRow info window.w draws.colour) (memory, data)
  .ok memory

/-- The loop of `main`, for as many rounds as the time allows. -/
def benchmark (info : FbVarScreeninfo) (environment : Environment) (mapping : List UInt8)
    (rounds : List Draws) : Except Fault (List UInt8) :=
  rounds.foldlM (putRectangle info (Window.init info environment)) mapping

/-- A window on a screen whose pixels have a number of whole bytes. -/
structure Fits (info : FbVarScreeninfo) (window : Window) (size : Nat) : Prop where
  sized : 0 < size
  bits : info.bitsPerPixel.toNat = 8 * size
  small : info.xres.toNat * info.yres.toNat * info.bitsPerPixel.toNat < 2 ^ 31
  wide : 0 < window.width.toNat
  high : 0 < window.height.toNat
  columns : window.posx.toNat + window.width.toNat ≤ info.xres.toNat
  lines : window.posy.toNat + window.height.toNat ≤ info.yres.toNat

/-- A rectangle on the screen. -/
structure Rectangle where
  left : Nat
  top : Nat
  width : Nat
  height : Nat
  colour : Colour
  deriving DecidableEq, Repr

/-- The rectangle of a round. -/
def Window.rectangle (window : Window) (draws : Draws) : Rectangle :=
  let width := window.width.toNat / 4
  let height := window.height.toNat / 4
  {
    left := window.posx.toNat + draws.x.toNat % (window.width.toNat - width)
    top := window.posy.toNat + draws.y.toNat % (window.height.toNat - height)
    width
    height
    colour := draws.colour
  }

/-- The bytes of a rectangle by their places. A pixel is stored as three bytes, whatever its
size is.
-/
def Rectangle.layer (rectangle : Rectangle) (xres size : Nat) : Nat → Option UInt8 :=
  latest ((List.range rectangle.height).map fun i =>
    latest ((List.range rectangle.width).map fun j =>
      laid (size * ((rectangle.top + i) * xres + rectangle.left + j)) rectangle.colour.bytes))

variable {info : FbVarScreeninfo} {window : Window} {size : Nat}

-----------------------------------------------------------------------------------------
-- The numbers of a round
-----------------------------------------------------------------------------------------

/-- The shift of a number that is not negative. -/
theorem sshiftRight_toNat {value : BitVec 32} (small : value.toNat < 2 ^ 31)
    : (value.sshiftRight 2).toNat = value.toNat / 4 := by
  have positive : value.msb = false := BitVec.msb_eq_false_iff_two_mul_lt.mpr (by omega)
  rw [BitVec.toNat_sshiftRight_of_msb_false positive, Nat.shiftRight_eq_div_pow]

/-- A remainder by what a quarter leaves of a length. -/
theorem remainder_ok {length : BitVec 32} (small : length.toNat < 2 ^ 31)
    (positive : 0 < length.toNat) (value : BitVec 32)
    : ∃ offset,
        remainder value (length - length.sshiftRight 2) = .ok offset
        ∧ offset.toNat = value.toNat % (length.toNat - length.toNat / 4) := by
  have quarter := sshiftRight_toNat small
  have rest : (length - length.sshiftRight 2).toNat = length.toNat - length.toNat / 4 := by
    rw [BitVec.toNat_sub_of_le (BitVec.le_def.mpr (by omega)), quarter]
  have divides : length - length.sshiftRight 2 ≠ 0 := by
    intro zero
    rw [zero] at rest
    change 0 = _ at rest
    omega
  refine ⟨_, if_neg divides, ?_⟩
  rw [BitVec.toNat_umod, rest]

/-- A number of pixels in bytes. -/
theorem scaled_toNat {count bits : BitVec 32} (whole : bits.toNat = 8 * size)
    (small : count.toNat * (8 * size) < 2 ^ 32)
    : (count * bits / 8).toNat = size * count.toNat := by
  have eight : (8 : BitVec 32).toNat = 8 := rfl
  rw [BitVec.toNat_udiv, BitVec.toNat_mul, whole, eight, Nat.mod_eq_of_lt small,
    Nat.mul_left_comm, Nat.mul_div_cancel_left _ (by norm_num), Nat.mul_comm]

theorem Fits.pixels (fits : Fits info window size)
    : info.xres.toNat * info.yres.toNat * (8 * size) < 2 ^ 31 := by
  rw [← fits.bits]
  exact fits.small

/-- A part of the pixels of the screen is counted in bits without a carry. -/
theorem Fits.part (fits : Fits info window size) {count : Nat}
    (inside : count ≤ info.xres.toNat * info.yres.toNat)
    : count * (8 * size) < 2 ^ 32 :=
  (Nat.mul_le_mul_right _ inside).trans_lt (fits.pixels.trans (by omega))

/-- The screen has a pixel, and fewer pixels than there are numbers of type `int`. -/
theorem Fits.screen (fits : Fits info window size)
    : info.xres.toNat ≤ info.xres.toNat * info.yres.toNat
      ∧ info.yres.toNat ≤ info.xres.toNat * info.yres.toNat
      ∧ info.xres.toNat * info.yres.toNat < 2 ^ 31 := by
  have sized := fits.sized
  have wide := fits.wide
  have high := fits.high
  have columns := fits.columns
  have lines := fits.lines
  refine ⟨Nat.le_mul_of_pos_right _ (by omega), Nat.le_mul_of_pos_left _ (by omega), ?_⟩
  exact (Nat.le_mul_of_pos_right _ (by omega)).trans_lt fits.pixels

/-- The lengths of the window are positive as `int`. -/
theorem Fits.lengths (fits : Fits info window size)
    : window.width.toNat < 2 ^ 31 ∧ window.height.toNat < 2 ^ 31 := by
  have columns := fits.columns
  have lines := fits.lines
  have screen := fits.screen
  omega

/-- The address of a pixel, row by row. -/
theorem Fits.data_eq (fits : Fits info window size) {x y : BitVec 32}
    (column : window.posx.toNat + x.toNat < info.xres.toNat)
    (line : window.posy.toNat + y.toNat < info.yres.toNat)
    : ((window.posy + y) * info.xres * info.bitsPerPixel / 8).toNat
        + ((window.posx + x) * info.bitsPerPixel / 8).toNat
      = size * ((window.posy.toNat + y.toNat) * info.xres.toNat
          + (window.posx.toNat + x.toNat)) := by
  obtain ⟨across, down, small⟩ := fits.screen
  have left : (window.posx + x).toNat = window.posx.toNat + x.toNat := by
    rw [BitVec.toNat_add]
    exact Nat.mod_eq_of_lt (by omega)
  have top : (window.posy + y).toNat = window.posy.toNat + y.toNat := by
    rw [BitVec.toNat_add]
    exact Nat.mod_eq_of_lt (by omega)
  have inside := raster_lt column line
  have lines : ((window.posy + y) * info.xres).toNat
      = (window.posy.toNat + y.toNat) * info.xres.toNat := by
    rw [BitVec.toNat_mul, top]
    exact Nat.mod_eq_of_lt (by omega)
  rw [scaled_toNat fits.bits (lines ▸ fits.part (by omega)),
    scaled_toNat fits.bits (left ▸ fits.part (by omega)), lines, left, ← Nat.mul_add]

/-- The length of a line. -/
theorem Fits.stride_eq (fits : Fits info window size)
    : (info.xres * info.bitsPerPixel / 8).toNat = size * info.xres.toNat :=
  scaled_toNat fits.bits (fits.part fits.screen.1)

/-- To the right of a rectangle and below it there is room. -/
theorem Fits.rectangle_inside (fits : Fits info window size) (draws : Draws)
    : (window.rectangle draws).left + (window.rectangle draws).width < info.xres.toNat
      ∧ (window.rectangle draws).top + (window.rectangle draws).height < info.yres.toNat := by
  have wide := fits.wide
  have high := fits.high
  have columns := fits.columns
  have lines := fits.lines
  have column := Nat.mod_lt draws.x.toNat
    (show 0 < window.width.toNat - window.width.toNat / 4 by omega)
  have line := Nat.mod_lt draws.y.toNat
    (show 0 < window.height.toNat - window.height.toNat / 4 by omega)
  simp only [Window.rectangle]
  omega

-----------------------------------------------------------------------------------------
-- The stores of a round
-----------------------------------------------------------------------------------------

theorem storeByte_ok {memory : List UInt8} {place : Nat} (inside : place < memory.length)
    (byte : UInt8)
    : storeByte memory place byte = .ok (memory.set place byte) :=
  if_pos inside

/-- The three bytes of a pixel are stored from the last to the first. -/
theorem putPixel_ok {data j : Nat} {colour : Colour} {memory : List UInt8}
    (bits : info.bitsPerPixel.toNat = 8 * size) (small : size * j + 2 < 2 ^ 32)
    (inside : data + size * j + 3 ≤ memory.length)
    : putPixel info data colour memory j
      = .ok (patch memory (data + size * j) colour.bytes) := by
  have pixelBytes : (info.bitsPerPixel / 8).toNat = size := by
    have eight : (8 : BitVec 32).toNat = 8 := rfl
    rw [BitVec.toNat_udiv, bits, eight, Nat.mul_div_cancel_left _ (by norm_num)]
  have offset : (info.bitsPerPixel / 8 * BitVec.ofNat 32 j).toNat = size * j := by
    rw [BitVec.toNat_mul, pixelBytes, BitVec.toNat_ofNat, Nat.mul_mod_mod,
      Nat.mod_eq_of_lt (by omega)]
  have next {lane : Nat} (low : lane ≤ 2)
      : (info.bitsPerPixel / 8 * BitVec.ofNat 32 j + BitVec.ofNat 32 lane).toNat
        = size * j + lane := by
    rw [BitVec.toNat_add, offset, BitVec.toNat_ofNat, Nat.add_mod_mod,
      Nat.mod_eq_of_lt (by omega)]
  have second : (info.bitsPerPixel / 8 * BitVec.ofNat 32 j + 1).toNat = size * j + 1 :=
    next (show 1 ≤ 2 by omega)
  have third : (info.bitsPerPixel / 8 * BitVec.ofNat 32 j + 2).toNat = size * j + 2 :=
    next (show 2 ≤ 2 by omega)
  have start : data + size * j < memory.length := by omega
  have order
      : ((memory.set (data + (size * j + 2)) colour.r).set (data + (size * j + 1)) colour.g).set
          (data + size * j) colour.b
        = patch memory (data + size * j) colour.bytes := by
    rw [List.set_comm colour.g colour.b (by omega), List.set_comm colour.r colour.b (by omega),
      List.set_comm colour.r colour.g (by omega)]
    exact set_three_eq_patch inside
  unfold putPixel
  simp only [offset]
  rw [second, third, storeByte_ok (by omega), ok_bind,
    storeByte_ok (by rw [List.length_set]; omega), ok_bind,
    storeByte_ok (by rw [List.length_set, List.length_set]; exact start), order]

/-- A row of pixels, from a pixel of the screen on. -/
theorem putRow_ok {w : BitVec 32} {colour : Colour} {memory : List UInt8} {start stride : Nat}
    (bits : info.bitsPerPixel.toNat = 8 * size)
    (across : (info.xres * info.bitsPerPixel / 8).toNat = stride)
    (small : size * w.toNat + 2 < 2 ^ 32)
    (inside : ∀ j < w.toNat, size * (start + j) + 3 ≤ memory.length) (i : Nat)
    : ∃ next,
        putRow info w colour (memory, size * start) i = .ok (next, size * start + stride)
        ∧ Overwrites
            (latest ((List.range w.toNat).map fun j => laid (size * (start + j)) colour.bytes))
            memory next := by
  have step (j : Nat) (member : j ∈ List.range w.toNat) (current : List UInt8)
      (same : current.length = memory.length)
      : ∃ next,
          putPixel info (size * start) colour current j = .ok next
          ∧ Overwrites (laid (size * (start + j)) colour.bytes) current next := by
    have before := List.mem_range.mp member
    have room := inside j before
    have earlier := Nat.mul_le_mul_left size before.le
    rw [Nat.mul_add] at room ⊢
    exact ⟨_, putPixel_ok bits (by omega) (by omega),
      patch_overwrites (same ▸ room)⟩
  obtain ⟨next, ran, written⟩ := foldlM_overwrites step
  refine ⟨next, ?_, written⟩
  rw [putRow]
  simp only [ran, ok_bind, across]

/-- The rows of a rectangle with room to its right and below it. -/
theorem putRows_ok (fits : Fits info window size) {memory : List UInt8}
    (mapped : memory.length = size * (info.xres.toNat * info.yres.toNat)) {w : BitVec 32}
    {rectangle : Rectangle} (width : w.toNat = rectangle.width)
    (right : rectangle.left + rectangle.width < info.xres.toNat)
    (below : rectangle.top + rectangle.height < info.yres.toNat)
    : ∃ next pointer,
        (List.range rectangle.height).foldlM (putRow info w rectangle.colour)
            (memory, size * (rectangle.top * info.xres.toNat + rectangle.left))
          = .ok (next, pointer)
        ∧ Overwrites (rectangle.layer info.xres.toNat size) memory next := by
  have sized := fits.sized
  -- a pixel that is stored has a line of the screen below it
  have room {i j : Nat} (line : i < rectangle.height) (column : j < w.toNat)
      : size * ((rectangle.top + i) * info.xres.toNat + rectangle.left + j) + 3
        ≤ size * (info.xres.toNat * info.yres.toNat) := by
    have inside := @raster_lt info.xres.toNat.pred (rectangle.top + i + 1) info.xres.toNat
      info.yres.toNat (by rw [Nat.pred_eq_sub_one]; omega) (by omega)
    rw [Nat.succ_mul, Nat.pred_eq_sub_one] at inside
    calc size * ((rectangle.top + i) * info.xres.toNat + rectangle.left + j) + 3
        ≤ size * ((rectangle.top + i) * info.xres.toNat + rectangle.left + j) + size * 3 := by
          omega
      _ = size * ((rectangle.top + i) * info.xres.toNat + rectangle.left + j + 3) :=
          (Nat.mul_add _ _ _).symm
      _ ≤ size * (info.xres.toNat * info.yres.toNat) := Nat.mul_le_mul_left _ (by omega)
  have narrow : size * w.toNat + 2 < 2 ^ 32 := by
    have bound := fits.part ((Nat.le_of_lt (show w.toNat < info.xres.toNat by omega)).trans
      fits.screen.1)
    have eight : w.toNat * (8 * size) = 8 * (size * w.toNat) := by ring
    omega
  have step (i : Nat) (line : i < rectangle.height) (current : List UInt8)
      (same : current.length = memory.length)
      : ∃ next,
          putRow info w rectangle.colour
              (current, size * ((rectangle.top + i) * info.xres.toNat + rectangle.left)) i
            = .ok (next,
                size * ((rectangle.top + (i + 1)) * info.xres.toNat + rectangle.left))
          ∧ Overwrites
              (latest ((List.range rectangle.width).map fun j =>
                laid (size * ((rectangle.top + i) * info.xres.toNat + rectangle.left + j))
                  rectangle.colour.bytes))
              current next := by
    obtain ⟨next, ran, written⟩ := putRow_ok fits.bits fits.stride_eq narrow
      (fun j column => same ▸ mapped ▸ room line column) i
    refine ⟨next, ran.trans ?_, width ▸ written⟩
    congr 2
    ring
  obtain ⟨next, ran, written⟩ := foldlM_range_overwrites
    (fun i memory =>
      (memory, size * ((rectangle.top + i) * info.xres.toNat + rectangle.left))) step
  exact ⟨next, _, ran, written⟩

/-- A round writes its rectangle, all of it inside the mapping. -/
theorem putRectangle_ok (fits : Fits info window size) {memory : List UInt8}
    (mapped : memory.length = size * (info.xres.toNat * info.yres.toNat)) (draws : Draws)
    : ∃ next,
        putRectangle info window memory draws = .ok next
        ∧ Overwrites ((window.rectangle draws).layer info.xres.toNat size) memory next := by
  obtain ⟨shortWidth, shortHeight⟩ := fits.lengths
  obtain ⟨x, drawnX, offsetX⟩ := remainder_ok shortWidth fits.wide draws.x
  obtain ⟨y, drawnY, offsetY⟩ := remainder_ok shortHeight fits.high draws.y
  obtain ⟨right, below⟩ := fits.rectangle_inside draws
  have left : window.posx.toNat + x.toNat = (window.rectangle draws).left := by
    rw [offsetX]
    rfl
  have top : window.posy.toNat + y.toNat = (window.rectangle draws).top := by
    rw [offsetY]
    rfl
  have width : window.w.toNat = (window.rectangle draws).width := sshiftRight_toNat shortWidth
  have height : window.h.toNat = (window.rectangle draws).height :=
    sshiftRight_toNat shortHeight
  have start := fits.data_eq (left ▸ (Nat.le_add_right _ _).trans_lt right)
    (top ▸ (Nat.le_add_right _ _).trans_lt below)
  obtain ⟨next, pointer, ran, written⟩ := putRows_ok fits mapped width right below
  refine ⟨next, ?_, written⟩
  rw [left, top] at start
  change (List.range _).foldlM (putRow info window.w draws.colour) _ = _ at ran
  simp only [putRectangle, Window.w, Window.h, drawnX, drawnY, ok_bind]
  rw [start]
  change ((List.range window.h.toNat).foldlM (putRow info window.w draws.colour) _ >>= _) = _
  rw [height, ran, ok_bind]

/-- Every run of the benchmark stays inside the mapping. -/
theorem benchmark_ok {environment : Environment}
    (fits : Fits info (Window.init info environment) size) {mapping : List UInt8}
    (mapped : mapping.length = size * (info.xres.toNat * info.yres.toNat))
    (rounds : List Draws)
    : ∃ final,
        benchmark info environment mapping rounds = .ok final
        ∧ Overwrites
            (latest (rounds.map fun draws =>
              ((Window.init info environment).rectangle draws).layer info.xres.toNat size))
            mapping final :=
  foldlM_overwrites fun draws _ _ same => putRectangle_ok fits (same.trans mapped) draws

end DummyDrivers.FbRectangle
