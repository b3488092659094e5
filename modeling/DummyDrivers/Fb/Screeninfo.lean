import Mathlib.Data.Nat.Notation

/-! The screen information that the framebuffer driver fills in and the tools read. -/

namespace DummyDrivers.Fb

/-- A `struct fb_bitfield`: the place of a colour channel in a pixel. -/
structure FbBitfield where
  offset : BitVec 32
  length : BitVec 32
  deriving DecidableEq, Repr

/-- The fields of a `struct fb_var_screeninfo` that the driver or a tool uses. -/
structure FbVarScreeninfo where
  xres : BitVec 32
  yres : BitVec 32
  xresVirtual : BitVec 32
  yresVirtual : BitVec 32
  xoffset : BitVec 32
  yoffset : BitVec 32
  bitsPerPixel : BitVec 32
  grayscale : BitVec 32
  red : FbBitfield
  green : FbBitfield
  blue : FbBitfield
  transp : FbBitfield
  nonstd : BitVec 32
  rotate : BitVec 32
  deriving DecidableEq, Repr

/-- The fields of a `struct fb_fix_screeninfo` that the driver or a tool uses. -/
structure FbFixScreeninfo where
  type : BitVec 32
  visual : BitVec 32
  xpanstep : BitVec 16
  ypanstep : BitVec 16
  ywrapstep : BitVec 16
  lineLength : BitVec 32
  accel : BitVec 32
  smemLen : BitVec 32
  deriving DecidableEq, Repr

def fbTypePackedPixels : BitVec 32 := 0

def fbVisualTruecolor : BitVec 32 := 2

def fbAccelNone : BitVec 32 := 0

/-- The information in zeroed memory. -/
def FbVarScreeninfo.zero : FbVarScreeninfo :=
  {
    xres := 0
    yres := 0
    xresVirtual := 0
    yresVirtual := 0
    xoffset := 0
    yoffset := 0
    bitsPerPixel := 0
    grayscale := 0
    red := { offset := 0, length := 0 }
    green := { offset := 0, length := 0 }
    blue := { offset := 0, length := 0 }
    transp := { offset := 0, length := 0 }
    nonstd := 0
    rotate := 0
  }

/-- A screen of 16-bit pixels without padding. -/
def rgb565Screen (xres yres : BitVec 32) : FbVarScreeninfo :=
  {
    FbVarScreeninfo.zero with
    xres
    yres
    xresVirtual := xres
    yresVirtual := yres
    bitsPerPixel := 16
    red := { offset := 11, length := 5 }
    green := { offset := 5, length := 6 }
    blue := { offset := 0, length := 5 }
  }

end DummyDrivers.Fb
