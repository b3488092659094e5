import DummyDrivers.Fb.Screeninfo
import DummyDrivers.Library.LittleEndian

/-! The dump of a truecolor framebuffer as a portable pixmap. Pointers into the video
memory and the row buffer are positions, whose sums the C code computes in 32 bits before
they are added to a pointer.
-/

namespace DummyDrivers.Fbcat

open DummyDrivers.Fb
open DummyDrivers.LittleEndian

inductive DumpError where
  | notSupported (message : String)
  | divisionByZero
  | mallocFailed
  | outOfBounds
  deriving DecidableEq, Repr

/-- The colour arrays of a `struct fb_cmap`, as far as they are initialised. -/
structure FbCmap where
  red : List (BitVec 16)
  green : List (BitVec 16)
  blue : List (BitVec 16)

/-- One of the loops of `main` that initialise the colormap of a truecolor visual. -/
def truecolorChannel (length : BitVec 32) : Except DumpError (List (BitVec 16)) :=
  if length = 0 then
    .error .divisionByZero
  else
    .ok ((List.range (2 ^ length.toNat)).map
      fun i => (BitVec.ofNat 32 i * 0xFFFF / ((1#32 <<< length) - 1)).setWidth 16)

/-- The colormap that `main` passes on for a truecolor visual. -/
def truecolorColormap (info : FbVarScreeninfo) : Except DumpError FbCmap := do
  if 8 < info.red.length || 8 < info.green.length || 8 < info.blue.length then
    throw (.notSupported "color depth > 8 bits per component")
  let red ← truecolorChannel info.red.length
  let green ← truecolorChannel info.green.length
  let blue ← truecolorChannel info.blue.length
  return { red, green, blue }

def getColor (pixel : BitVec 32) (bitfield : FbBitfield) (colormap : List (BitVec 16))
    : Except DumpError UInt8 :=
  let index := (pixel >>> bitfield.offset) &&& ((1#32 <<< bitfield.length) - 1)
  match colormap[index.toNat]? with
  | some value => .ok (UInt8.ofNat (value >>> 8).toNat)
  | none => .error .outOfBounds

def bytesPerPixel (info : FbVarScreeninfo) : BitVec 32 := (info.bitsPerPixel + 7) / 8

/-- The default case of the switch: the bytes are put together one by one. -/
def joinBytes (bytes : List UInt8) (count : Nat) : BitVec 32 :=
  (List.range count).foldl
    (fun pixel i => pixel ||| (bytes.getD i 0).toBitVec.setWidth 32 <<< (i * 8)) 0

/-- The switch on the size of a pixel, at the pointer `current`. -/
def loadPixel (videoMemory : List UInt8) (current bytes : Nat) : Except DumpError (BitVec 32) :=
  let pixel := (videoMemory.drop current).take bytes
  if pixel.length < bytes then
    .error .outOfBounds
  else
    match bytes with
    | 4 => .ok (BitVec.ofNat 32 (leWord pixel))
    | 2 => .ok (BitVec.ofNat 32 (leWord pixel))
    | count => .ok (joinBytes pixel count)

/-- `row[index] = byte`. -/
def storeByte (row : List UInt8) (index : BitVec 32) (byte : UInt8)
    : Except DumpError (List UInt8) :=
  if index.toNat < row.length then .ok (row.set index.toNat byte) else .error .outOfBounds

section

variable (videoMemory : List UInt8) (info : FbVarScreeninfo) (colormap : FbCmap)

/-- The body of the loop over `x`, on the pointer `current` and the row buffer. -/
def dumpPixel (state : Nat × List UInt8) (x : Nat) : Except DumpError (Nat × List UInt8) := do
  let (current, row) := state
  let bytes := (bytesPerPixel info).toNat
  let pixel ← loadPixel videoMemory current bytes
  let x := BitVec.ofNat 32 x
  let row ← storeByte row (x * 3 + 0) (← getColor pixel info.red colormap.red)
  let row ← storeByte row (x * 3 + 1) (← getColor pixel info.green colormap.green)
  let row ← storeByte row (x * 3 + 2) (← getColor pixel info.blue colormap.blue)
  return (current + bytes, row)

/-- The pointer `current` at the start of a row. -/
def rowStart (lineLength : BitVec 32) (y : Nat) : Nat :=
  ((BitVec.ofNat 32 y + info.yoffset) * lineLength).toNat
  + (info.xoffset * bytesPerPixel info).toNat

/-- The body of the loop over `y`, on the row buffer and the bytes written so far. -/
def dumpRow (lineLength : BitVec 32) (state : List UInt8 × List UInt8) (y : Nat)
    : Except DumpError (List UInt8 × List UInt8) := do
  let (row, written) := state
  let (_, row) ←
    (List.range info.xres.toNat).foldlM (dumpPixel videoMemory info colormap)
      (rowStart info lineLength y, row)
  return (row, written ++ row.take (info.xres * 3).toNat)

/-- The header and the pixel bytes that are written. -/
structure Dump where
  header : String
  pixels : List UInt8

/-- The line that starts a portable pixmap. -/
def header : String :=
  "P6 " ++ toString info.xres.toNat ++ " " ++ toString info.yres.toNat ++ " 255\n"

/-- `dump_video_memory`. The row buffer holds whatever `malloc` left in it, if it succeeds;
writing to the output succeeds.
-/
def dumpVideoMemory (lineLength : BitVec 32) (malloc : Option (Nat → UInt8))
    : Except DumpError Dump :=
  match malloc with
  | none => .error .mallocFailed
  | some heap => do
      let row := (List.range (info.xres * 3).toNat).map heap
      let (_, written) ←
        (List.range info.yres.toNat).foldlM (dumpRow videoMemory info colormap lineLength)
          (row, [])
      return { header := header info, pixels := written }

/-- The way of `main` to the dump of a truecolor visual. -/
def dumpTruecolor (lineLength : BitVec 32) (malloc : Option (Nat → UInt8))
    : Except DumpError Dump := do
  let colormap ← truecolorColormap info
  if info.bitsPerPixel < 8 then
    throw (.notSupported "< 8 bpp")
  dumpVideoMemory videoMemory info colormap lineLength malloc

end

end DummyDrivers.Fbcat
