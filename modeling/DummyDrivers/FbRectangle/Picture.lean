import DummyDrivers.FbRectangle.Rectangle
import DummyDrivers.Fbview.Frame

/-! What the preview shows of the benchmark's rectangles, and what they leave on a screen whose
pixels are smaller than the stored colours.
-/

namespace DummyDrivers.FbRectangle

open DummyDrivers.Blocks
open DummyDrivers.Fb
open DummyDrivers.Fbview
open DummyDrivers.LittleEndian
open DummyDrivers.Overwriting

def Rectangle.HasLine (rectangle : Rectangle) (y : Nat) : Prop :=
  rectangle.top ≤ y ∧ y < rectangle.top + rectangle.height

instance (rectangle : Rectangle) (y : Nat) : Decidable (rectangle.HasLine y) := by
  unfold Rectangle.HasLine
  infer_instance

def Rectangle.HasColumn (rectangle : Rectangle) (x : Nat) : Prop :=
  rectangle.left ≤ x ∧ x < rectangle.left + rectangle.width

instance (rectangle : Rectangle) (x : Nat) : Decidable (rectangle.HasColumn x) := by
  unfold Rectangle.HasColumn
  infer_instance

/-- The colour that a rectangle gives a pixel. -/
def Rectangle.colourAt (rectangle : Rectangle) (x y : Nat) : Option Colour :=
  if rectangle.HasColumn x ∧ rectangle.HasLine y then some rectangle.colour else none

/-- The upper byte that a rectangle gives a pixel of two bytes. -/
def Rectangle.upperAt (rectangle : Rectangle) (x y : Nat) : Option UInt8 :=
  if rectangle.HasColumn x ∧ rectangle.HasLine y then some rectangle.colour.g else none

/-- The lower byte that a rectangle gives a pixel of two bytes: the red byte of its last
column lands in the next pixel.
-/
def Rectangle.lowerAt (rectangle : Rectangle) (x y : Nat) : Option UInt8 :=
  if rectangle.HasLine y then
    if rectangle.HasColumn x then
      some rectangle.colour.b
    else if 0 < rectangle.width ∧ x = rectangle.left + rectangle.width then
      some rectangle.colour.r
    else
      none
  else
    none

/-- What the last of the rounds gives a pixel. -/
def lastOf {Value : Type} (given : Rectangle → Nat → Nat → Option Value) (window : Window)
    (rounds : List Draws) (x y : Nat) : Option Value :=
  rounds.reverse.findSome? fun draws => given (window.rectangle draws) x y

-----------------------------------------------------------------------------------------
-- The bytes of a pixel
-----------------------------------------------------------------------------------------

variable {rectangle : Rectangle} {xres size x y lane : Nat}

/-- The line of a rectangle that has a pixel. -/
theorem Rectangle.layer_line
    (others
      : ∀ i, rectangle.top + i ≠ y
        → latest ((List.range rectangle.width).map fun j =>
            laid (size * ((rectangle.top + i) * xres + rectangle.left + j))
              rectangle.colour.bytes) (size * (y * xres + x) + lane)
          = none)
    : rectangle.layer xres size (size * (y * xres + x) + lane)
      = if rectangle.HasLine y then
          latest ((List.range rectangle.width).map fun j =>
            laid (size * (y * xres + rectangle.left + j)) rectangle.colour.bytes)
            (size * (y * xres + x) + lane)
        else
          none := by
  rw [Rectangle.layer, @latest_range_single _ _ _ _ (y - rectangle.top)]
  · by_cases line : rectangle.HasLine y
    · obtain ⟨above, below⟩ := line
      rw [if_pos (by omega), if_pos ⟨above, below⟩, Nat.add_sub_cancel' above]
    · rw [if_neg line]
      split
      · apply others
        intro same
        exact line ⟨by omega, by omega⟩
      · rfl
  · intro i _ other
    apply others
    omega

/-- A byte that only the stores for its own pixel reach. -/
theorem Rectangle.layer_single {byte : Option UInt8}
    (pixel
      : ∀ row, ∀ j < rectangle.width,
          laid (size * (row * xres + rectangle.left + j)) rectangle.colour.bytes
              (size * (y * xres + x) + lane)
            = if rectangle.left + j = x ∧ row = y then byte else none)
    : rectangle.layer xres size (size * (y * xres + x) + lane)
      = if rectangle.HasColumn x ∧ rectangle.HasLine y then byte else none := by
  have line (row : Nat)
      : latest ((List.range rectangle.width).map fun j =>
          laid (size * (row * xres + rectangle.left + j)) rectangle.colour.bytes)
          (size * (y * xres + x) + lane)
        = if rectangle.HasColumn x ∧ row = y then byte else none := by
    rw [@latest_range_single _ _ _ _ (x - rectangle.left)]
    · by_cases before : x - rectangle.left < rectangle.width
      · rw [if_pos before, pixel row _ before]
        unfold Rectangle.HasColumn
        congr 1
        apply propext
        omega
      · rw [if_neg before, if_neg]
        unfold Rectangle.HasColumn
        omega
    · intro j before other
      rw [pixel row j before, if_neg (by omega)]
  rw [Rectangle.layer_line]
  · rw [line y]
    by_cases covered : rectangle.HasLine y <;> simp [covered]
  · intro i other
    rw [line, if_neg fun both => other both.2]

/-- A pixel that has room for the three bytes of a colour. -/
theorem Rectangle.layer_wide (wide : 3 ≤ size) (inside : lane < size) (column : x < xres)
    (right : rectangle.left + rectangle.width ≤ xres)
    : rectangle.layer xres size (size * (y * xres + x) + lane)
      = if rectangle.HasColumn x ∧ rectangle.HasLine y then rectangle.colour.bytes[lane]?
        else none := by
  apply Rectangle.layer_single
  intro row j before
  rw [laid_block wide inside, Nat.add_assoc]
  simp only [raster_inj (show rectangle.left + j < xres by omega) column]

/-- Three bytes from a pixel of two bytes on. -/
theorem laid_lower (b g r : UInt8) (index other : Nat)
    : laid (2 * index) [b, g, r] (2 * other)
      = if index = other then some b else if index + 1 = other then some r else none := by
  rw [laid]
  rcases Nat.lt_trichotomy index other with earlier | rfl | later
  · rw [if_pos (by omega), if_neg (by omega)]
    rcases Nat.lt_or_eq_of_le (show index + 1 ≤ other by omega) with far | rfl
    · rw [if_neg (by omega)]
      exact List.getElem?_eq_none (show 3 ≤ 2 * other - 2 * index by omega)
    · rw [if_pos rfl, show 2 * (index + 1) - 2 * index = 2 by omega]
      rfl
  · rw [if_pos (by omega), if_pos rfl, Nat.sub_self]
    rfl
  · rw [if_neg (by omega), if_neg (by omega), if_neg (by omega)]

theorem laid_upper (b g r : UInt8) (index other : Nat)
    : laid (2 * index) [b, g, r] (2 * other + 1)
      = if index = other then some g else none := by
  rw [laid]
  rcases Nat.lt_trichotomy index other with earlier | rfl | later
  · rw [if_pos (by omega), if_neg (by omega)]
    exact List.getElem?_eq_none (show 3 ≤ 2 * other + 1 - 2 * index by omega)
  · rw [if_pos (by omega), if_pos rfl, Nat.add_sub_cancel_left]
    rfl
  · rw [if_neg (by omega), if_neg (by omega)]

/-- The upper byte of a pixel of two bytes. -/
theorem Rectangle.layer_upper (column : x < xres)
    (right : rectangle.left + rectangle.width ≤ xres)
    : rectangle.layer xres 2 (2 * (y * xres + x) + 1) = rectangle.upperAt x y := by
  apply Rectangle.layer_single
  intro row j before
  rw [Colour.bytes, laid_upper, Nat.add_assoc]
  simp only [raster_inj (show rectangle.left + j < xres by omega) column]

/-- The lower byte of a pixel of two bytes, which the stores for the pixel to its left reach
too.
-/
theorem Rectangle.layer_lower (column : x < xres)
    (right : rectangle.left + rectangle.width < xres)
    : rectangle.layer xres 2 (2 * (y * xres + x)) = rectangle.lowerAt x y := by
  have pixel (row j : Nat) (before : j < rectangle.width)
      : laid (2 * (row * xres + rectangle.left + j)) rectangle.colour.bytes (2 * (y * xres + x))
        = if rectangle.left + j = x ∧ row = y then some rectangle.colour.b
          else if rectangle.left + (j + 1) = x ∧ row = y then some rectangle.colour.r
          else none := by
    rw [Colour.bytes, laid_lower]
    simp only [Nat.add_assoc, raster_inj (show rectangle.left + j < xres by omega) column,
      raster_inj (show rectangle.left + (j + 1) < xres by omega) column]
  have others (i : Nat) (other : rectangle.top + i ≠ y)
      : latest ((List.range rectangle.width).map fun j =>
          laid (2 * ((rectangle.top + i) * xres + rectangle.left + j)) rectangle.colour.bytes)
          (2 * (y * xres + x))
        = none := by
    rw [@latest_range_single _ _ _ _ 0]
    · split
      · rename_i before
        rw [pixel _ 0 before, if_neg (by omega), if_neg (by omega)]
      · rfl
    · intro j before _
      rw [pixel _ j before, if_neg (by omega), if_neg (by omega)]
  have line
      : latest ((List.range rectangle.width).map fun j =>
          laid (2 * (y * xres + rectangle.left + j)) rectangle.colour.bytes)
          (2 * (y * xres + x))
        = if rectangle.HasColumn x then some rectangle.colour.b
          else if 0 < rectangle.width ∧ x = rectangle.left + rectangle.width then
            some rectangle.colour.r
          else none := by
    have outside {x : Nat} (beyond : x < rectangle.left ∨ rectangle.left + rectangle.width ≤ x)
        : ¬rectangle.HasColumn x := by
      unfold Rectangle.HasColumn
      omega
    rcases Nat.lt_or_ge rectangle.left x with inside | before
    · obtain ⟨first, rfl⟩ : ∃ first, x = rectangle.left + (first + 1) :=
        ⟨x - rectangle.left - 1, by omega⟩
      rw [@latest_range_pair _ _ _ _ first]
      · rcases Nat.lt_trichotomy (first + 1) rectangle.width with covered | last | beyond
        · have has : rectangle.HasColumn (rectangle.left + (first + 1)) :=
            ⟨by omega, by omega⟩
          rw [if_pos covered, pixel y _ covered, if_pos ⟨rfl, rfl⟩, Option.some_or, if_pos has]
        · rw [if_neg (by omega), if_pos (by omega), pixel y first (by omega),
            if_neg (by omega), if_pos ⟨rfl, rfl⟩, Option.none_or,
            if_neg (outside (.inr (by omega))), if_pos ⟨by omega, by omega⟩]
        · rw [if_neg (by omega), if_neg (by omega), Option.none_or,
            if_neg (outside (.inr (by omega))), if_neg (by omega)]
      · intro j covered other next
        rw [pixel y j covered, if_neg (by omega), if_neg (by omega)]
    · rw [@latest_range_single _ _ _ _ 0]
      · by_cases covered : 0 < rectangle.width
        · rw [if_pos covered, pixel y 0 covered]
          rcases Nat.eq_or_lt_of_le before with rfl | left
          · have has : rectangle.HasColumn rectangle.left := ⟨by omega, by omega⟩
            rw [if_pos ⟨rfl, rfl⟩, if_pos has]
          · rw [if_neg (by omega), if_neg (by omega), if_neg (outside (.inl left)),
              if_neg (by omega)]
        · rw [if_neg covered, if_neg, if_neg (by omega)]
          unfold Rectangle.HasColumn
          omega
      · intro j covered other
        rw [pixel y j covered, if_neg (by omega), if_neg (by omega)]
  rw [← Nat.add_zero (2 * (y * xres + x)), Rectangle.layer_line others, Nat.add_zero, line]
  rfl

-----------------------------------------------------------------------------------------
-- Whole runs
-----------------------------------------------------------------------------------------

variable {info : FbVarScreeninfo} {environment : Environment} {format : Format}

/-- The colour of a pixel that begins with the three bytes of a colour. -/
theorem StandardFormat.colour_first (standard : StandardFormat info format)
    (wide : format ≠ .rgb565) (colour : Colour) (rest : List UInt8)
    : format.colour (colour.bytes ++ rest) = [colour.r, colour.g, colour.b] := by
  cases standard with
  | rgb565 => exact absurd rfl wide
  | rgb888 => rfl
  | xrgb8888 =>
      have word : leWord (colour.bytes ++ rest)
          = colour.b.toNat
            + 256 * (colour.g.toNat + 256 * (colour.r.toNat + 256 * leWord rest)) := rfl
      have top (offset : Nat) (byte : UInt8)
          (same : (leWord (colour.bytes ++ rest) >>> offset) % 2 ^ 8 = byte.toNat)
          : channelTop (leWord (colour.bytes ++ rest)) (offset, 8) = byte := by
        rw [channelTop, same, Nat.sub_self, Nat.shiftLeft_zero, UInt8.ofNat_toNat]
      change [channelTop _ (16, 8), channelTop _ (8, 8), channelTop _ (0, 8)] = _
      have b := colour.b.toNat_lt
      have g := colour.g.toNat_lt
      have r := colour.r.toNat_lt
      rw [top 16 colour.r, top 8 colour.g, top 0 colour.b] <;>
        (rw [word, Nat.shiftRight_eq_div_pow]; omega)

variable {window : Window}

/-- The bytes that the rounds put into a pixel with room for a colour. -/
theorem latest_wide (wide : 3 ≤ size) (fits : Fits info window size) (rounds : List Draws)
    (inside : lane < size) (column : x < info.xres.toNat)
    : latest (rounds.map fun draws => (window.rectangle draws).layer info.xres.toNat size)
        (size * (y * info.xres.toNat + x) + lane)
      = if lane < 3 then
          (lastOf Rectangle.colourAt window rounds x y).map fun colour => colour.bytes.getD lane 0
        else
          none := by
  have layer (draws : Draws)
      : (window.rectangle draws).layer info.xres.toNat size
          (size * (y * info.xres.toNat + x) + lane)
        = if lane < 3 then
            ((window.rectangle draws).colourAt x y).map fun colour => colour.bytes.getD lane 0
          else
            none := by
    rw [Rectangle.layer_wide wide inside column (fits.rectangle_inside draws).1.le,
      Rectangle.colourAt]
    by_cases covered
        : (window.rectangle draws).HasColumn x ∧ (window.rectangle draws).HasLine y
    · rw [if_pos covered, if_pos covered]
      split
      · rename_i low
        rw [Option.map_some, List.getD_eq_getElem?_getD, List.getElem?_eq_getElem low,
          Option.getD_some]
      · rename_i high
        exact List.getElem?_eq_none (by simpa [Colour.bytes] using high)
    · rw [if_neg covered, if_neg covered]
      split <;> rfl
  rw [latest_map]
  simp only [layer]
  split
  · rw [lastOf, List.map_findSome?]
    rfl
  · simp

/-- What the rounds leave of a pixel with room for a colour. -/
theorem block_wide {mapping final : List UInt8} (wide : 3 ≤ size)
    (fits : Fits info window size) {rounds : List Draws}
    (written
      : Overwrites
          (latest (rounds.map fun draws =>
            (window.rectangle draws).layer info.xres.toNat size))
          mapping final)
    (column : x < info.xres.toNat) (y : Nat)
    : block size final (y * info.xres.toNat + x)
      = match lastOf Rectangle.colourAt window rounds x y with
        | some colour =>
            colour.bytes ++ (block size mapping (y * info.xres.toNat + x)).drop 3
        | none => block size mapping (y * info.xres.toNat + x) := by
  have byte {lane : Nat} (inside : lane < size)
      : (block size final (y * info.xres.toNat + x))[lane]?
        = (if lane < 3 then
            (lastOf Rectangle.colourAt window rounds x y).map fun colour => colour.bytes.getD lane 0
          else
            none).or (block size mapping (y * info.xres.toNat + x))[lane]? := by
    rw [getElem?_block _ inside, written.held, latest_wide wide fits rounds inside column,
      getElem?_block _ inside]
  have beyond (memory : List UInt8) {lane : Nat} (outside : ¬lane < size)
      : (block size memory (y * info.xres.toNat + x))[lane]? = none :=
    List.getElem?_eq_none ((List.length_take_le _ _).trans (by omega))
  cases last : lastOf Rectangle.colourAt window rounds x y with
  | none =>
      apply List.ext_getElem?
      intro lane
      by_cases inside : lane < size
      · rw [byte inside, last]
        split <;> rfl
      · rw [beyond final inside, beyond mapping inside]
  | some colour =>
      apply List.ext_getElem?
      intro lane
      by_cases low : lane < 3
      · rw [byte (by omega), if_pos low, last, List.getElem?_append_left (show lane < 3 from low),
          Option.map_some, Option.some_or, List.getD_eq_getElem?_getD,
          List.getElem?_eq_getElem (show lane < 3 from low), Option.getD_some]
      · have after : 3 + (lane - colour.bytes.length) = lane := Nat.add_sub_cancel' (by omega)
        rw [List.getElem?_append_right (show 3 ≤ lane by omega), List.getElem?_drop, after]
        by_cases inside : lane < size
        · rw [byte inside, if_neg low, Option.none_or]
        · rw [beyond final inside, beyond mapping inside]

theorem Fits.mapLength_eq (fits : Fits info window size)
    : (mapLength info).toNat = size * (info.xres.toNat * info.yres.toNat) := by
  have pixels : (info.xres * info.yres).toNat = info.xres.toNat * info.yres.toNat := by
    have screen := fits.screen
    rw [BitVec.toNat_mul]
    exact Nat.mod_eq_of_lt (by omega)
  rw [mapLength, scaled_toNat fits.bits (pixels ▸ fits.part (Nat.le_refl _)), pixels]

/-- Whatever `rand` returns and however many rounds there are, the benchmark stays in the
mapping, and on pixels of three or four bytes the preview then shows each pixel in the colour
of the last rectangle that has it, and each other pixel as before.
-/
theorem benchmark_shown (standard : StandardFormat info format) (wide : format ≠ .rgb565)
    (lines : info.xresVirtual = info.xres)
    (fits : Fits info (Window.init info environment) format.bytes) {mapping : List UInt8}
    (mapped : mapping.length = (mapLength info).toNat) (rounds : List Draws)
    : ∃ final initial rgb,
        benchmark info environment mapping rounds = .ok final
        ∧ (Converter.init info).convert (readFrame info mapping) = .ok initial
        ∧ (Converter.init info).convert (readFrame info final) = .ok rgb
        ∧ ∀ x y,
            x < info.xres.toNat
            → y < info.yres.toNat
            → block 3 rgb (y * info.xres.toNat + x)
              = match lastOf Rectangle.colourAt (Window.init info environment) rounds x y with
                | some colour => [colour.r, colour.g, colour.b]
                | none => block 3 initial (y * info.xres.toNat + x) := by
  have whole := mapped.trans fits.mapLength_eq
  obtain ⟨final, ran, written⟩ := benchmark_ok fits whole rounds
  have supports := standard.supports
  have frame (memory : List UInt8) (same : memory.length = mapping.length)
      : (Converter.init info).convert (readFrame info memory)
        = .ok (format.frame memory (info.xres.toNat * info.yres.toNat)) := by
    have size : frameSize info = memory.length := by
      rw [supports.frameSize_eq, lines, same, whole]
    rw [readFrame, size, List.take_length]
    exact supports.convert_ok (same.trans whole).ge
  have three : 3 ≤ format.bytes := by
    cases standard with
    | rgb565 => exact absurd rfl wide
    | rgb888 => exact Nat.le_refl 3
    | xrgb8888 => exact Nat.le_succ 3
  refine ⟨final, _, _, ran, frame mapping rfl, frame final written.length, ?_⟩
  intro x y column line
  have place := raster_lt column line
  rw [Format.block_frame format _ place, Format.block_frame format _ place,
    block_wide three fits written column y]
  cases lastOf Rectangle.colourAt (Window.init info environment) rounds x y with
  | some colour => exact StandardFormat.colour_first standard wide colour _
  | none => rfl

/-- A screen of 32-bit pixels without padding. -/
def xrgb8888Screen (xres yres : BitVec 32) : FbVarScreeninfo :=
  {
    rgb565Screen xres yres with
    bitsPerPixel := 32
    red := { offset := 16, length := 8 }
    green := { offset := 8, length := 8 }
    blue := { offset := 0, length := 8 }
  }

/-- No variable is set. -/
def wholeScreen : Environment := { width := none, height := none, posx := none, posy := none }

/-- Two rectangles at one place, the second one blue. -/
def redThenBlue : List Draws :=
  [{ r := 0xFF, g := 0, b := 0, x := 1, y := 2 }, { r := 0, g := 0, b := 0x1FF, x := 4, y := 5 }]

/-- Witness: on a screen of four by four pixels the second rectangle is shown. -/
theorem benchmark_shown_blue
    : ∃ final initial rgb,
        benchmark (xrgb8888Screen 4 4) wholeScreen (List.replicate 64 0x11) redThenBlue
          = .ok final
        ∧ (Converter.init (xrgb8888Screen 4 4)).convert
            (readFrame (xrgb8888Screen 4 4) (List.replicate 64 0x11)) = .ok initial
        ∧ (Converter.init (xrgb8888Screen 4 4)).convert (readFrame (xrgb8888Screen 4 4) final)
          = .ok rgb
        ∧ block 3 rgb 9 = [0, 0, 0xFF]
        ∧ block 3 rgb 10 = block 3 initial 10 := by
  have fits : Fits (xrgb8888Screen 4 4) (Window.init (xrgb8888Screen 4 4) wholeScreen)
      (Format.masked rgb888Channels).bytes := by
    constructor <;> decide
  have standard : StandardFormat (xrgb8888Screen 4 4) (.masked rgb888Channels) :=
    .xrgb8888 rfl rfl
  have wide : Format.masked rgb888Channels ≠ .rgb565 := by
    intro same
    contradiction
  have mapped : (List.replicate 64 (0x11 : UInt8)).length
      = (mapLength (xrgb8888Screen 4 4)).toNat := by
    rw [List.length_replicate]
    rfl
  obtain ⟨final, initial, rgb, ran, before, after, shown⟩ :=
    benchmark_shown standard wide rfl fits mapped redThenBlue
  refine ⟨final, initial, rgb, ran, before, after, ?_, ?_⟩
  · exact shown 1 2 (by decide) (by decide)
  · exact shown 2 2 (by decide) (by decide)

/-- On pixels of two bytes a round stores blue and green in each pixel of its rectangle and
red in the pixel to the right of each of its lines; the last store of each byte counts.
-/
theorem benchmark_bleeds (fits : Fits info (Window.init info environment) 2)
    {mapping : List UInt8} (mapped : mapping.length = (mapLength info).toNat)
    (rounds : List Draws)
    : ∃ final,
        benchmark info environment mapping rounds = .ok final
        ∧ ∀ x y,
            x < info.xres.toNat
            → y < info.yres.toNat
            → final[2 * (y * info.xres.toNat + x)]?
                = (lastOf Rectangle.lowerAt (Window.init info environment) rounds x y).or
                    mapping[2 * (y * info.xres.toNat + x)]?
              ∧ final[2 * (y * info.xres.toNat + x) + 1]?
                = (lastOf Rectangle.upperAt (Window.init info environment) rounds x y).or
                    mapping[2 * (y * info.xres.toNat + x) + 1]? := by
  obtain ⟨final, ran, written⟩ := benchmark_ok fits (mapped.trans fits.mapLength_eq) rounds
  refine ⟨final, ran, ?_⟩
  intro x y column line
  constructor
  · rw [written.held, latest_map]
    simp only [Rectangle.layer_lower column (fits.rectangle_inside _).1]
    rfl
  · rw [written.held, latest_map]
    simp only [Rectangle.layer_upper column (fits.rectangle_inside _).1.le]
    rfl

/-- Witness: a rectangle of one pixel puts its red byte in the pixel to its right. -/
theorem benchmark_bleeds_red
    : ∃ final,
        benchmark (rgb565Screen 4 4) wholeScreen (List.replicate 32 0x11) redThenBlue
          = .ok final
        ∧ final[18]? = some 0xFF
        ∧ final[19]? = some 0
        ∧ final[20]? = some 0
        ∧ final[21]? = some 0x11 := by
  have fits : Fits (rgb565Screen 4 4) (Window.init (rgb565Screen 4 4) wholeScreen) 2 := by
    constructor <;> decide
  have mapped : (List.replicate 32 (0x11 : UInt8)).length
      = (mapLength (rgb565Screen 4 4)).toNat := by
    rw [List.length_replicate]
    rfl
  obtain ⟨final, ran, held⟩ := benchmark_bleeds fits mapped redThenBlue
  obtain ⟨blue, green⟩ := held 1 2 (by decide) (by decide)
  obtain ⟨red, same⟩ := held 2 2 (by decide) (by decide)
  exact ⟨final, ran, blue, green, red, same⟩

end DummyDrivers.FbRectangle
