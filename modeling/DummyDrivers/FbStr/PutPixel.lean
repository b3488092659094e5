import DummyDrivers.Fb.Screeninfo
import DummyDrivers.Library.Blocks
import DummyDrivers.Library.LittleEndian

/-! Drawing pixels into a mapped framebuffer, on a little-endian host. Pointers into the
mapping are positions in it.
-/

namespace DummyDrivers.FbStr

open DummyDrivers.Blocks
open DummyDrivers.Fb
open DummyDrivers.LittleEndian

inductive StoreError where
  | outOfBounds
  deriving DecidableEq, Repr

/-- The static variables that `main` fills in from the screen information. -/
structure Screen where
  var : FbVarScreeninfo
  lineWidth : BitVec 32
  pixelWidth : BitVec 32
  deriving DecidableEq, Repr

/-- The assignments in `main`. -/
def Screen.init (var : FbVarScreeninfo) : Screen :=
  {
    var
    lineWidth := var.xres * var.bitsPerPixel / 8
    pixelWidth := var.bitsPerPixel / 8
  }

/-- A store through a pointer. -/
def store (memory : List UInt8) (pen : Nat) (bytes : List UInt8)
    : Except StoreError (List UInt8) :=
  if pen + bytes.length ≤ memory.length then
    .ok (patch memory pen bytes)
  else
    .error .outOfBounds

/-- A colour in five, six and five bits. -/
def pack565 (color : BitVec 32) : BitVec 32 :=
  let red := (color >>> 16) &&& 0xFF
  let green := (color >>> 8) &&& 0xFF
  let blue := (color >>> 0) &&& 0xFF
  (red >>> 3) <<< 11 ||| (green >>> 2) <<< 5 ||| (blue >>> 3) <<< 0

/-- `lcd_put_pixel`. The default case only prints a message. -/
def lcdPutPixel (screen : Screen) (memory : List UInt8) (x y color : BitVec 32)
    : Except StoreError (List UInt8) :=
  let pen := (y * screen.lineWidth).toNat + (x * screen.pixelWidth).toNat
  match screen.var.bitsPerPixel.toNat with
  | 8 => store memory pen (leBytes 1 color.toNat)
  | 16 => store memory pen (leBytes 2 (pack565 color).toNat)
  | 32 => store memory pen (leBytes 4 color.toNat)
  | _ => .ok memory

end DummyDrivers.FbStr
