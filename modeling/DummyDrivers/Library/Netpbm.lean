import DummyDrivers.Library.Blocks

/-! The portable formats for images: what the bytes of a pixmap or a bitmap show. The numbers
of a header are decimal, each after white space, and one byte of white space comes before the
raster. Headers with comments are not read, and pixmaps only with values up to 255.
-/

namespace DummyDrivers.Netpbm

open DummyDrivers.Blocks

/-- The bytes of a text of ASCII characters. -/
def ascii (text : String) : List UInt8 :=
  text.toList.map fun character => UInt8.ofNat character.toNat

def isSpace (byte : UInt8) : Bool :=
  decide (byte.toNat = 32 ∨ 9 ≤ byte.toNat ∧ byte.toNat ≤ 13)

def isDigit (byte : UInt8) : Bool := decide (48 ≤ byte.toNat ∧ byte.toNat ≤ 57)

/-- The value of decimal digits. -/
def value (digits : List UInt8) : Nat :=
  digits.foldl (fun value digit => 10 * value + (digit.toNat - 48)) 0

/-- A number after white space, and the bytes behind it. -/
def readNumber (bytes : List UInt8) : Option (Nat × List UInt8) :=
  let text := bytes.dropWhile isSpace
  let digits := text.takeWhile isDigit
  if bytes.takeWhile isSpace = [] ∨ digits = [] then
    none
  else
    some (value digits, text.dropWhile isDigit)

/-- The raster of a header's file: the bytes behind one byte of white space. -/
def readRaster : List UInt8 → Option (List UInt8)
  | space :: raster => if isSpace space then some raster else none
  | [] => none

/-- A picture that has all its pixels. -/
structure Image (Pixel : Type*) where
  width : Nat
  height : Nat
  pixels : List Pixel
  complete : pixels.length = width * height

variable {Pixel : Type*}

/-- The pixel in a column and a line. -/
def Image.at? (image : Image Pixel) (x y : Nat) : Option Pixel :=
  if x < image.width then image.pixels[y * image.width + x]? else none

/-- The picture of a pixel for each place. -/
def Image.ofPixels (width height : Nat) (pixel : Nat → Nat → Pixel) : Image Pixel :=
  {
    width
    height
    pixels := (List.range (width * height)).map fun index => pixel (index % width) (index / width)
    complete := by rw [List.length_map, List.length_range]
  }

theorem Image.at?_ofPixels {width height x y : Nat} (column : x < width) (line : y < height)
    (pixel : Nat → Nat → Pixel)
    : (Image.ofPixels width height pixel).at? x y = some (pixel x y) := by
  have place : ((List.range (width * height)).map fun index => pixel (index % width)
        (index / width))[y * width + x]?
      = some (pixel x y) := by
    rw [List.getElem?_map, List.getElem?_range (raster_lt column line)]
    exact congrArg some (congrArg₂ pixel (raster_mod column y) (raster_div column y))
  rw [Image.at?, Image.ofPixels, if_pos column]
  exact place

theorem Image.ofPixels_congr {width height : Nat} {pixel other : Nat → Nat → Pixel}
    (same : ∀ x < width, ∀ y < height, pixel x y = other x y)
    : Image.ofPixels width height pixel = Image.ofPixels width height other := by
  unfold Image.ofPixels
  congr 1
  apply List.map_congr_left
  intro index member
  have inside : index < width * height := List.mem_range.mp member
  have some_column : 0 < width := Nat.pos_of_mul_pos_right (Nat.zero_lt_of_lt inside)
  exact same _ (Nat.mod_lt _ some_column) _ (Nat.div_lt_of_lt_mul inside)

structure Colour where
  red : UInt8
  green : UInt8
  blue : UInt8
  deriving DecidableEq, Repr

/-- The pixels of a pixmap: three bytes each, row by row. -/
def pixmapPixel (raster : List UInt8) (width x y : Nat) : Colour :=
  let first := 3 * (y * width + x)
  {
    red := raster.getD first 0
    green := raster.getD (first + 1) 0
    blue := raster.getD (first + 2) 0
  }

theorem pixmapPixel_block (raster : List UInt8) (width x y : Nat)
    : pixmapPixel raster width x y
      = {
          red := (block 3 raster (y * width + x)).getD 0 0
          green := (block 3 raster (y * width + x)).getD 1 0
          blue := (block 3 raster (y * width + x)).getD 2 0
        } := by
  have lane (index : Nat) (inside : index < 3)
      : (block 3 raster (y * width + x)).getD index 0
        = raster.getD (3 * (y * width + x) + index) 0 := by
    rw [List.getD_eq_getElem?_getD, getElem?_block raster inside, List.getD_eq_getElem?_getD]
  rw [lane 0 (by decide), lane 1 (by decide), lane 2 (by decide)]
  rfl

/-- A pixmap in bytes. -/
def readPixmap (bytes : List UInt8) : Option (Image Colour) := do
  let (width, rest) ← readNumber (bytes.drop 2)
  let (height, rest) ← readNumber rest
  let (maximum, rest) ← readNumber rest
  let raster ← readRaster rest
  if bytes.take 2 = ascii "P6" ∧ maximum = 255 ∧ 3 * (width * height) ≤ raster.length then
    some (.ofPixels width height (pixmapPixel raster width))
  else
    none

/-- The bytes of a bitmap's row: each is eight pixels, from its highest bit on. -/
def bitmapRowBytes (width : Nat) : Nat := (width + 7) / 8

/-- The pixels of a bitmap, where a bit of one is black. -/
def bitmapPixel (raster : List UInt8) (width x y : Nat) : Bool :=
  (raster.getD (y * bitmapRowBytes width + x / 8) 0).toNat.testBit (7 - x % 8)

/-- A bitmap in bytes. -/
def readBitmap (bytes : List UInt8) : Option (Image Bool) := do
  let (width, rest) ← readNumber (bytes.drop 2)
  let (height, rest) ← readNumber rest
  let raster ← readRaster rest
  if bytes.take 2 = ascii "P4" ∧ bitmapRowBytes width * height ≤ raster.length then
    some (.ofPixels width height (bitmapPixel raster width))
  else
    none

theorem ascii_append (text more : String) : ascii (text ++ more) = ascii text ++ ascii more := by
  rw [ascii, String.toList_append, List.map_append]
  rfl

theorem ascii_number (number : Nat)
    : ascii (toString number)
      = (Nat.toDigits 10 number).map fun digit => UInt8.ofNat digit.toNat := by
  rw [ascii, show (toString number).toList = _ from Nat.toList_repr]

/-- The byte of a decimal digit. -/
theorem digit_byte {number : Nat} {digit : Char} (member : digit ∈ Nat.toDigits 10 number)
    : 48 ≤ digit.toNat
      ∧ digit.toNat ≤ 57
      ∧ (UInt8.ofNat digit.toNat).toNat = digit.toNat := by
  have decimal : digit.isDigit := Nat.isDigit_of_mem_toDigits (by decide) (by decide) member
  rw [Char.isDigit, Bool.and_eq_true, decide_eq_true_eq, decide_eq_true_eq] at decimal
  have low : 48 ≤ digit.toNat := decimal.1
  have high : digit.toNat ≤ 57 := decimal.2
  refine ⟨low, high, ?_⟩
  rw [UInt8.toNat_ofNat']
  exact Nat.mod_eq_of_lt (by omega)

theorem isDigit_number {number : Nat} {byte : UInt8} (member : byte ∈ ascii (toString number))
    : isDigit byte := by
  rw [ascii_number] at member
  obtain ⟨digit, inside, rfl⟩ := List.mem_map.mp member
  obtain ⟨low, high, same⟩ := digit_byte inside
  exact decide_eq_true (same.symm ▸ ⟨low, high⟩)

theorem value_number (number : Nat) : value (ascii (toString number)) = number := by
  rw [ascii_number, value, List.foldl_map]
  calc (Nat.toDigits 10 number).foldl
        (fun value digit => 10 * value + ((UInt8.ofNat digit.toNat).toNat - 48)) 0
      = Nat.ofDigitChars 10 (Nat.toDigits 10 number) 0 := by
        rw [Nat.ofDigitChars_eq_foldl]
        apply List.foldl_ext
        intro value digit member
        rw [(digit_byte member).2.2]
        rfl
    _ = number := Nat.ofDigitChars_ten_toDigits

theorem isSpace_of_isDigit {byte : UInt8} (digit : isDigit byte) : isSpace byte = false := by
  have bounds : 48 ≤ byte.toNat ∧ byte.toNat ≤ 57 := of_decide_eq_true digit
  exact decide_eq_false (by omega)

/-- A number is read back, as far as its digits go. -/
theorem readNumber_ascii {space next : UInt8} (blank : isSpace space) (number : Nat)
    (ends : isDigit next = false) (rest : List UInt8)
    : readNumber (space :: (ascii (toString number) ++ next :: rest))
      = some (number, next :: rest) := by
  have digits : ∀ byte ∈ ascii (toString number), isDigit byte := fun _ => isDigit_number
  have nonempty : ascii (toString number) ≠ [] := by
    rw [ascii_number, ne_eq, List.map_eq_nil_iff]
    exact Nat.toDigits_ne_nil
  have taken : (ascii (toString number) ++ next :: rest).takeWhile isDigit
      = ascii (toString number) := by
    rw [List.takeWhile_append_of_pos digits, List.takeWhile_cons, ends]
    exact List.append_nil _
  have dropped : (ascii (toString number) ++ next :: rest).dropWhile isDigit = next :: rest := by
    rw [List.dropWhile_append_of_pos digits, List.dropWhile_cons, ends]
    rfl
  have text : (space :: (ascii (toString number) ++ next :: rest)).dropWhile isSpace
      = ascii (toString number) ++ next :: rest := by
    rw [List.dropWhile_cons, if_pos blank]
    obtain ⟨first, others, split⟩ := List.exists_cons_of_ne_nil nonempty
    have digit : isDigit first := digits first (split ▸ List.mem_cons_self)
    rw [split, List.cons_append, List.dropWhile_cons, isSpace_of_isDigit digit]
    rfl
  have spaces : (space :: (ascii (toString number) ++ next :: rest)).takeWhile isSpace ≠ [] := by
    rw [List.takeWhile_cons, if_pos blank]
    exact List.cons_ne_nil _ _
  simp only [readNumber, text, taken, dropped, value_number]
  exact if_neg (not_or.mpr ⟨spaces, nonempty⟩)

theorem isDigit_of_isSpace {byte : UInt8} (space : isSpace byte) : isDigit byte = false := by
  have bounds : byte.toNat = 32 ∨ 9 ≤ byte.toNat ∧ byte.toNat ≤ 13 := of_decide_eq_true space
  exact decide_eq_false (by omega)

/-- The file of a pixmap shows its pixels, whatever white space its header has. -/
theorem readPixmap_header {first second third last : UInt8} (firstBlank : isSpace first)
    (secondBlank : isSpace second) (thirdBlank : isSpace third) (lastBlank : isSpace last)
    (width height : Nat) {raster : List UInt8} (whole : 3 * (width * height) ≤ raster.length)
    : readPixmap (ascii "P6"
        ++ first :: (ascii (toString width)
          ++ second :: (ascii (toString height)
            ++ third :: (ascii (toString 255) ++ last :: raster))))
      = some (.ofPixels width height (pixmapPixel raster width)) := by
  have magic (rest : List UInt8)
      : (ascii "P6" ++ rest).take 2 = ascii "P6" ∧ (ascii "P6" ++ rest).drop 2 = rest := ⟨rfl, rfl⟩
  rw [readPixmap, (magic _).1, (magic _).2,
    readNumber_ascii firstBlank width (isDigit_of_isSpace secondBlank)]
  simp only [Option.bind_eq_bind, Option.bind_some]
  rw [readNumber_ascii secondBlank height (isDigit_of_isSpace thirdBlank)]
  simp only [Option.bind_some]
  rw [readNumber_ascii thirdBlank 255 (isDigit_of_isSpace lastBlank)]
  simp only [Option.bind_some]
  rw [readRaster, if_pos lastBlank]
  exact if_pos ⟨trivial, trivial, whole⟩

/-- The file of a bitmap shows its pixels, whatever white space its header has. -/
theorem readBitmap_header {first second last : UInt8} (firstBlank : isSpace first)
    (secondBlank : isSpace second) (lastBlank : isSpace last) (width height : Nat)
    {raster : List UInt8} (whole : bitmapRowBytes width * height ≤ raster.length)
    : readBitmap (ascii "P4"
        ++ first :: (ascii (toString width)
          ++ second :: (ascii (toString height) ++ last :: raster)))
      = some (.ofPixels width height (bitmapPixel raster width)) := by
  have magic (rest : List UInt8)
      : (ascii "P4" ++ rest).take 2 = ascii "P4" ∧ (ascii "P4" ++ rest).drop 2 = rest := ⟨rfl, rfl⟩
  rw [readBitmap, (magic _).1, (magic _).2,
    readNumber_ascii firstBlank width (isDigit_of_isSpace secondBlank)]
  simp only [Option.bind_eq_bind, Option.bind_some]
  rw [readNumber_ascii secondBlank height (isDigit_of_isSpace lastBlank)]
  simp only [Option.bind_some]
  rw [readRaster, if_pos lastBlank]
  exact if_pos ⟨trivial, whole⟩

end DummyDrivers.Netpbm
