import DummyDrivers.FbStr.PutPixel

/-! What a framebuffer holds after any sequence of drawn pixels, for every size of a pixel
that the tool knows.
-/

namespace DummyDrivers.FbStr

open DummyDrivers.Blocks
open DummyDrivers.Fb
open DummyDrivers.LittleEndian

/-- The arguments of a call of `lcd_put_pixel`. -/
structure PixelCall where
  x : BitVec 32
  y : BitVec 32
  color : BitVec 32
  deriving DecidableEq, Repr

/-- The calls one after the other. -/
def lcdPutPixels (screen : Screen) (memory : List UInt8) (calls : List PixelCall)
    : Except StoreError (List UInt8) :=
  calls.foldlM (fun memory call => lcdPutPixel screen memory call.x call.y call.color) memory

/-- The position of a call, whose arguments are signed, is on the screen. -/
structure PixelCall.OnScreen (call : PixelCall) (var : FbVarScreeninfo) : Prop where
  left : 0 ≤ call.x.toInt
  right : call.x.toInt < var.xres.toNat
  top : 0 ≤ call.y.toInt
  bottom : call.y.toInt < var.yres.toNat

/-- The colour of the last call at a position. -/
def lastColor (calls : List PixelCall) (x y : Nat) : Option (BitVec 32) :=
  (calls.reverse.find? fun call => call.x.toNat = x ∧ call.y.toNat = y).map PixelCall.color

/-- A screen whose pixels have one, two or four bytes and whose number of bits is a positive
`int`.
-/
structure PixelSize (var : FbVarScreeninfo) (size : Nat) : Prop where
  known : size = 1 ∨ size = 2 ∨ size = 4
  bits : var.bitsPerPixel.toNat = 8 * size
  small : var.xres.toNat * var.yres.toNat * var.bitsPerPixel.toNat < 2 ^ 31

/-- The bytes that are stored for a colour in a pixel of some size. -/
def pixelBytes (size : Nat) (color : BitVec 32) : List UInt8 :=
  match size with
  | 1 => leBytes 1 color.toNat
  | 2 => leBytes 2 (pack565 color).toNat
  | _ => leBytes 4 color.toNat

theorem toInt_range {word : BitVec 32} {bound : Nat} (low : 0 ≤ word.toInt)
    (high : word.toInt < bound)
    : word.toNat < bound := by
  rw [BitVec.toInt_eq_toNat_cond] at low high
  split at low <;> omega

theorem PixelCall.OnScreen.column {call : PixelCall} {var : FbVarScreeninfo}
    (onScreen : call.OnScreen var)
    : call.x.toNat < var.xres.toNat :=
  toInt_range onScreen.left onScreen.right

theorem PixelCall.OnScreen.line {call : PixelCall} {var : FbVarScreeninfo}
    (onScreen : call.OnScreen var)
    : call.y.toNat < var.yres.toNat :=
  toInt_range onScreen.top onScreen.bottom

variable {var : FbVarScreeninfo} {size : Nat}

theorem PixelSize.pixelBytes_length (pixels : PixelSize var size) (color : BitVec 32)
    : (pixelBytes size color).length = size := by
  rcases pixels.known with rfl | rfl | rfl <;> exact leBytes_length _ _

/-- The widths that `main` computes, on a screen that has a line. -/
theorem PixelSize.widths (pixels : PixelSize var size) (lines : 0 < var.yres.toNat)
    : (Screen.init var).lineWidth.toNat = var.xres.toNat * size
      ∧ (Screen.init var).pixelWidth.toNat = size := by
  have bits := pixels.bits
  have eight : (8 : BitVec 32).toNat = 8 := rfl
  have line : var.xres.toNat * (8 * size) < 2 ^ 32 :=
    calc var.xres.toNat * (8 * size)
        ≤ var.xres.toNat * var.yres.toNat * (8 * size) :=
          Nat.mul_le_mul_right _ (Nat.le_mul_of_pos_right _ lines)
      _ = var.xres.toNat * var.yres.toNat * var.bitsPerPixel.toNat := by rw [bits]
      _ < 2 ^ 32 := pixels.small.trans (by omega)
  constructor
  · change (var.xres * var.bitsPerPixel / 8).toNat = _
    rw [BitVec.toNat_udiv, BitVec.toNat_mul, bits, eight, Nat.mod_eq_of_lt line,
      Nat.mul_left_comm, Nat.mul_div_cancel_left _ (by norm_num)]
  · change (var.bitsPerPixel / 8).toNat = _
    rw [BitVec.toNat_udiv, bits, eight, Nat.mul_div_cancel_left _ (by norm_num)]

/-- The number of the pixel in which a call stores, with the products of `lcd_put_pixel`. -/
def PixelCall.place (call : PixelCall) (var : FbVarScreeninfo) (size : Nat) : Nat :=
  let screen := Screen.init var
  ((call.y * screen.lineWidth).toNat + (call.x * screen.pixelWidth).toNat) / size

theorem PixelSize.positive (pixels : PixelSize var size) : 0 < size := by
  have known := pixels.known
  omega

/-- A call stores the bytes of one pixel, wherever that is. -/
theorem PixelSize.lcdPutPixel_eq (pixels : PixelSize var size) (lines : 0 < var.yres.toNat)
    (memory : List UInt8) (call : PixelCall)
    : lcdPutPixel (Screen.init var) memory call.x call.y call.color
      = store memory (size * call.place var size) (pixelBytes size call.color) := by
  obtain ⟨lineWidth, pixelWidth⟩ := pixels.widths lines
  have words : size ∣ 2 ^ 32 := by
    rcases pixels.known with rfl | rfl | rfl <;> norm_num
  have line : size ∣ (call.y * (Screen.init var).lineWidth).toNat := by
    rw [BitVec.toNat_mul, lineWidth, ← Nat.mul_assoc]
    exact (Nat.dvd_mod_iff words).mpr (Nat.dvd_mul_left _ _)
  have column : size ∣ (call.x * (Screen.init var).pixelWidth).toNat := by
    rw [BitVec.toNat_mul, pixelWidth]
    exact (Nat.dvd_mod_iff words).mpr (Nat.dvd_mul_left _ _)
  have bits : (Screen.init var).var.bitsPerPixel.toNat = 8 * size := pixels.bits
  rw [PixelCall.place, Nat.mul_div_cancel' (Nat.dvd_add line column)]
  unfold lcdPutPixel
  rw [bits]
  rcases pixels.known with rfl | rfl | rfl <;> rfl

/-- On the screen the pixels are counted line by line. -/
theorem PixelSize.place_eq (pixels : PixelSize var size) {call : PixelCall}
    (onScreen : call.OnScreen var)
    : call.place var size = call.y.toNat * var.xres.toNat + call.x.toNat := by
  obtain ⟨lineWidth, pixelWidth⟩ := pixels.widths (Nat.zero_lt_of_lt onScreen.line)
  have inside := block_end size (raster_lt onScreen.column onScreen.line)
  have address : size * (call.y.toNat * var.xres.toNat + call.x.toNat)
      = call.y.toNat * (var.xres.toNat * size) + call.x.toNat * size := by
    ring
  have reached : size * (var.xres.toNat * var.yres.toNat) < 2 ^ 31 :=
    calc size * (var.xres.toNat * var.yres.toNat)
        ≤ 8 * (size * (var.xres.toNat * var.yres.toNat)) := by omega
      _ = var.xres.toNat * var.yres.toNat * var.bitsPerPixel.toNat := by
          rw [pixels.bits]
          ring
      _ < 2 ^ 31 := pixels.small
  rw [PixelCall.place, BitVec.toNat_mul, BitVec.toNat_mul, lineWidth, pixelWidth,
    Nat.mod_eq_of_lt (by omega), Nat.mod_eq_of_lt (by omega), ← address,
    Nat.mul_div_cancel_left _ pixels.positive]

/-- A call that stores inside the memory changes one pixel. -/
theorem PixelSize.lcdPutPixel_ok (pixels : PixelSize var size) (lines : 0 < var.yres.toNat)
    {memory : List UInt8} {call : PixelCall}
    (inside : size * call.place var size + size ≤ memory.length)
    : ∃ next,
        lcdPutPixel (Screen.init var) memory call.x call.y call.color = .ok next
        ∧ next.length = memory.length
        ∧ ∀ index,
            block size next index
              = if index = call.place var size then pixelBytes size call.color
                else block size memory index := by
  have sized := pixels.pixelBytes_length call.color
  refine ⟨patch memory (size * call.place var size) (pixelBytes size call.color), ?_, ?_, ?_⟩
  · rw [pixels.lcdPutPixel_eq lines, store, if_pos (by rw [sized]; exact inside)]
  · exact patch_length (by rw [sized]; exact inside)
  · exact block_patch sized inside

/-- A later call at the position counts before the first one. -/
theorem lastColor_cons (call : PixelCall) (calls : List PixelCall) (x y : Nat)
    : lastColor (call :: calls) x y
      = (lastColor calls x y).or
          (if call.x.toNat = x ∧ call.y.toNat = y then some call.color else none) := by
  rw [lastColor, List.reverse_cons, List.find?_append, Option.map_or, ← lastColor]
  congr 1
  by_cases same : call.x.toNat = x ∧ call.y.toNat = y <;> simp [same]

/-- The bytes that the memory holds for a pixel after some calls. -/
def bytesAfter (size : Nat) (calls : List PixelCall) (x y : Nat) (before : List UInt8)
    : List UInt8 :=
  match lastColor calls x y with
  | some color => pixelBytes size color
  | none => before

theorem bytesAfter_cons (size : Nat) (call : PixelCall) (calls : List PixelCall) (x y : Nat)
    (before : List UInt8)
    : bytesAfter size (call :: calls) x y before
      = bytesAfter size calls x y
          (if call.x.toNat = x ∧ call.y.toNat = y then pixelBytes size call.color else before) := by
  rw [bytesAfter, lastColor_cons, bytesAfter]
  cases lastColor calls x y with
  | some color => rfl
  | none =>
      by_cases same : call.x.toNat = x ∧ call.y.toNat = y
      · rw [if_pos same, if_pos same]
        rfl
      · rw [if_neg same, if_neg same]
        rfl

/-- After calls on the screen every pixel holds what the last call at its position stored,
by induction on the calls with the memory generalized.
-/
theorem PixelSize.lcdPutPixels_ok (pixels : PixelSize var size) {memory : List UInt8}
    (whole : size * (var.xres.toNat * var.yres.toNat) ≤ memory.length)
    {calls : List PixelCall} (onScreen : ∀ call ∈ calls, call.OnScreen var)
    : ∃ final,
        lcdPutPixels (Screen.init var) memory calls = .ok final
        ∧ final.length = memory.length
        ∧ ∀ x y,
            x < var.xres.toNat
            → y < var.yres.toNat
            → block size final (y * var.xres.toNat + x)
              = bytesAfter size calls x y (block size memory (y * var.xres.toNat + x)) := by
  induction calls generalizing memory with
  | nil => exact ⟨memory, rfl, rfl, fun x y _ _ => rfl⟩
  | cons call calls ih =>
      have first : call.OnScreen var := onScreen call List.mem_cons_self
      have place := pixels.place_eq first
      have inside := (block_end size (raster_lt first.column first.line)).trans whole
      obtain ⟨next, stored, kept, changed⟩ :=
        pixels.lcdPutPixel_ok (Nat.zero_lt_of_lt first.line) (place ▸ inside)
      have later (other : PixelCall) (member : other ∈ calls) : other.OnScreen var :=
        onScreen other (List.mem_cons_of_mem _ member)
      obtain ⟨final, ran, length, held⟩ := ih (by rw [kept]; exact whole) later
      refine ⟨final, ?_, length.trans kept, ?_⟩
      · rw [lcdPutPixels, List.foldlM_cons, stored]
        exact ran
      · intro x y column line
        rw [held x y column line, bytesAfter_cons, changed, place]
        congr 1
        by_cases same : call.x.toNat = x ∧ call.y.toNat = y
        · obtain ⟨rfl, rfl⟩ := same
          rw [if_pos rfl, if_pos ⟨rfl, rfl⟩]
        · rw [if_neg same, if_neg]
          intro equal
          obtain ⟨rfl, rfl⟩ := (raster_inj column first.column).mp equal
          exact same ⟨rfl, rfl⟩

/-- Calls return only if all of them store inside the memory, by induction on the calls with
the memory generalized.
-/
theorem PixelSize.places_of_ok (pixels : PixelSize var size) (lines : 0 < var.yres.toNat)
    {memory final : List UInt8} {calls : List PixelCall}
    (ran : lcdPutPixels (Screen.init var) memory calls = .ok final)
    : ∀ call ∈ calls, size * call.place var size + size ≤ memory.length := by
  induction calls generalizing memory with
  | nil => exact List.forall_mem_nil _
  | cons call calls ih =>
      by_cases inside : size * call.place var size + size ≤ memory.length
      · obtain ⟨next, stored, kept, _⟩ := pixels.lcdPutPixel_ok lines inside
        rw [lcdPutPixels, List.foldlM_cons, stored] at ran
        have later := ih ran
        rw [kept] at later
        exact List.forall_mem_cons.mpr ⟨inside, later⟩
      · have sized := pixels.pixelBytes_length call.color
        rw [lcdPutPixels, List.foldlM_cons, pixels.lcdPutPixel_eq lines, store,
          if_neg (by rw [sized]; exact inside)] at ran
        cases ran

/-- Calls of one colour that store inside the memory leave it at their places, by induction
on the calls with the memory generalized.
-/
theorem PixelSize.lcdPutPixels_same (pixels : PixelSize var size) (lines : 0 < var.yres.toNat)
    {color : BitVec 32} {memory : List UInt8} {calls : List PixelCall}
    (same : ∀ call ∈ calls, call.color = color)
    (inside : ∀ call ∈ calls, size * call.place var size + size ≤ memory.length)
    : ∃ final,
        lcdPutPixels (Screen.init var) memory calls = .ok final
        ∧ ∀ index,
            block size final index
              = if index ∈ calls.map fun call => call.place var size then pixelBytes size color
                else block size memory index := by
  induction calls generalizing memory with
  | nil => exact ⟨memory, rfl, fun _ => rfl⟩
  | cons call calls ih =>
      obtain ⟨firstColor, sameLater⟩ := List.forall_mem_cons.mp same
      obtain ⟨firstInside, insideLater⟩ := List.forall_mem_cons.mp inside
      obtain ⟨next, stored, kept, changed⟩ := pixels.lcdPutPixel_ok lines firstInside
      obtain ⟨final, ran, held⟩ := ih sameLater (by rw [kept]; exact insideLater)
      refine ⟨final, ?_, ?_⟩
      · rw [lcdPutPixels, List.foldlM_cons, stored]
        exact ran
      · intro index
        rw [held, changed, firstColor, List.map_cons]
        by_cases later : index ∈ calls.map fun call => call.place var size
        · rw [if_pos later, if_pos (List.mem_cons_of_mem _ later)]
        · rw [if_neg later]
          simp only [List.mem_cons, later, or_false]

end DummyDrivers.FbStr
