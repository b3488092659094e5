import DummyDrivers.Fb.Screeninfo
import DummyDrivers.Library.Python

/-! The converter of the preview tool, from raw framebuffer bytes to packed RGB, with the
frame that the tool reads. Python's integers are unbounded.
-/

namespace DummyDrivers.Fbview

open DummyDrivers.Blocks
open DummyDrivers.Fb
open DummyDrivers.LittleEndian
open DummyDrivers.Python

/-- One value for each colour channel. -/
structure Rgb (Value : Type*) where
  red : Value
  green : Value
  blue : Value
  deriving DecidableEq, Repr

def Rgb.map {Value Other : Type*} (rgb : Rgb Value) (f : Value → Other) : Rgb Other :=
  { red := f rgb.red, green := f rgb.green, blue := f rgb.blue }

/-- Bytes for each pixel, rounded up. -/
def bytesPerPixel (var : FbVarScreeninfo) : Nat := (var.bitsPerPixel.toNat + 7) / 8

def frameSize (var : FbVarScreeninfo) : Nat :=
  let bpp := bytesPerPixel var
  let stride := var.xresVirtual.toNat * bpp
  stride * var.yres.toNat

/-- `Framebuffer.read_frame`: `os.pread` of the frame's size at offset zero, with all the
bytes requested as far as the memory has them.
-/
def readFrame (var : FbVarScreeninfo) (memory : List UInt8) : List UInt8 :=
  memory.take (frameSize var)

/-- Offset and length of each channel, as the converter keeps them. -/
def channelsOf (var : FbVarScreeninfo) : Rgb (Nat × Nat) :=
  {
    red := (var.red.offset.toNat, var.red.length.toNat)
    green := (var.green.offset.toNat, var.green.length.toNat)
    blue := (var.blue.offset.toNat, var.blue.length.toNat)
  }

def rgb565Channels : Rgb (Nat × Nat) := { red := (11, 5), green := (5, 6), blue := (0, 5) }

def rgb888Channels : Rgb (Nat × Nat) := { red := (16, 8), green := (8, 8), blue := (0, 8) }

/-- An entry of the table for 16-bit pixels. -/
def rgb565Entry (p : Nat) : List UInt8 :=
  let r := (p >>> 11) &&& 0x1F
  let g := (p >>> 5) &&& 0x3F
  let b := p &&& 0x1F
  [
    UInt8.ofNat (r <<< 3 ||| r >>> 2),
    UInt8.ofNat (g <<< 2 ||| g >>> 4),
    UInt8.ofNat (b <<< 3 ||| b >>> 2)
  ]

structure Converter where
  w : Nat
  h : Nat
  bpp : Nat
  channels : Rgb (Nat × Nat)
  masks : Rgb Nat
  table : Option (List (List UInt8))

/-- `((1 << ln) - 1) << off` of an offset and a length. -/
def channelMask (channel : Nat × Nat) : Nat := ((1 <<< channel.2) - 1) <<< channel.1

def Converter.init (var : FbVarScreeninfo) : Converter :=
  let channels := channelsOf var
  {
    w := var.xres.toNat
    h := var.yres.toNat
    bpp := var.bitsPerPixel.toNat
    channels
    masks := channels.map channelMask
    table :=
      if var.bitsPerPixel.toNat = 16 ∧ channels = rgb565Channels then
        some ((List.range 65536).map rgb565Entry)
      else
        none
  }

/-- `((p & mask) >> off) << (8 - ln)`. -/
def channelByte (p mask : Nat) (channel : Nat × Nat) : Except PyError Nat :=
  shiftLeft ((p &&& mask) >>> channel.1) (8 - channel.2)

/-- One round of the 32-bit loop, on the output and the position `k` in it. -/
def Converter.convertPixel (c : Converter) (state : List UInt8 × Nat) (p : Nat)
    : Except PyError (List UInt8 × Nat) := do
  let k := state.2
  let out ← setByte state.1 k (← channelByte p c.masks.red c.channels.red)
  let out ← setByte out (k + 1) (← channelByte p c.masks.green c.channels.green)
  let out ← setByte out (k + 2) (← channelByte p c.masks.blue c.channels.blue)
  return (out, k + 3)

/-- `_convert32`. -/
def Converter.convert32 (c : Converter) (data : List UInt8) (n : Nat)
    : Except PyError (List UInt8) := do
  let words ← unpackWords 4 n (data.take (4 * n))
  let state ← words.foldlM c.convertPixel (List.replicate (n * 3) 0, 0)
  return state.1

/-- `self._table[p]`. -/
def lookup (table : List (List UInt8)) (p : Nat) : Except PyError (List UInt8) :=
  match table[p]? with
  | some entry => .ok entry
  | none => .error .indexError

/-- The three slice assignments for 24-bit pixels. -/
def convert24 (data : List UInt8) (n : Nat) : Except PyError (List UInt8) := do
  let mv := data.take (3 * n)
  let out ← assignStride (List.replicate (n * 3) 0) 0 3 (stride mv 2 3)
  let out ← assignStride out 1 3 (stride mv 1 3)
  assignStride out 2 3 (stride mv 0 3)

def Converter.convert (c : Converter) (data : List UInt8) : Except PyError (List UInt8) :=
  let n := c.w * c.h
  match c.table with
  | some table => do
      let px ← unpackWords 2 n (data.take (2 * n))
      let entries ← px.mapM (lookup table)
      return entries.flatten
  | none =>
      if c.bpp = 24 ∧ c.channels = rgb888Channels then
        convert24 data n
      else if c.bpp = 32 then
        c.convert32 data n
      else
        .error (.runtimeError ("unsupported bpp " ++ toString c.bpp))

/-- The pixel formats the converter handles, with the channels of the general 32-bit one. -/
inductive Format where
  | rgb565
  | rgb888
  | masked (channels : Rgb (Nat × Nat))

/-- The size of a pixel in bytes. -/
def Format.bytes : Format → Nat
  | .rgb565 => 2
  | .rgb888 => 3
  | .masked _ => 4

/-- The bits of a channel in a pixel, shifted to the top of a byte. -/
def channelTop (p : Nat) (channel : Nat × Nat) : UInt8 :=
  UInt8.ofNat (((p >>> channel.1) % 2 ^ channel.2) <<< (8 - channel.2))

/-- The red, green and blue byte of the pixel that some bytes encode. -/
def Format.colour (format : Format) (pixel : List UInt8) : List UInt8 :=
  match format with
  | .rgb565 => rgb565Entry (leWord pixel)
  | .rgb888 => [pixel.getD 2 0, pixel.getD 1 0, pixel.getD 0 0]
  | .masked channels =>
      [
        channelTop (leWord pixel) channels.red,
        channelTop (leWord pixel) channels.green,
        channelTop (leWord pixel) channels.blue
      ]

/-- Some screen information is in a format that the converter handles without raising: a
channel of a 32-bit pixel may have at most the eight bits of a byte.
-/
inductive Supports (var : FbVarScreeninfo) : Format → Prop where
  | rgb565 (bits : var.bitsPerPixel.toNat = 16) (channels : channelsOf var = rgb565Channels)
    : Supports var .rgb565
  | rgb888 (bits : var.bitsPerPixel.toNat = 24) (channels : channelsOf var = rgb888Channels)
    : Supports var .rgb888
  | masked (bits : var.bitsPerPixel.toNat = 32)
    (short
      : (channelsOf var).red.2 ≤ 8 ∧ (channelsOf var).green.2 ≤ 8 ∧ (channelsOf var).blue.2 ≤ 8)
    : Supports var (.masked (channelsOf var))

@[simp] theorem Format.colour_length (format : Format) (pixel : List UInt8)
    : (format.colour pixel).length = 3 := by
  cases format <;> rfl

theorem Supports.bytes_eq {var : FbVarScreeninfo} {format : Format}
    (supports : Supports var format)
    : bytesPerPixel var = format.bytes := by
  cases supports with
  | rgb565 bits => simp [bytesPerPixel, bits, Format.bytes]
  | rgb888 bits => simp [bytesPerPixel, bits, Format.bytes]
  | masked bits => simp [bytesPerPixel, bits, Format.bytes]

theorem Supports.frameSize_eq {var : FbVarScreeninfo} {format : Format}
    (supports : Supports var format)
    : frameSize var = format.bytes * (var.xresVirtual.toNat * var.yres.toNat) := by
  rw [frameSize, supports.bytes_eq]
  ring

theorem Format.bytes_bounds (format : Format) : 2 ≤ format.bytes ∧ format.bytes ≤ 4 := by
  cases format <;> simp [Format.bytes]

/-- The standard formats: 16 bits for RGB565, and 24 or 32 bits for channels of eight bits. -/
inductive StandardFormat (var : FbVarScreeninfo) : Format → Prop where
  | rgb565 (bits : var.bitsPerPixel.toNat = 16) (channels : channelsOf var = rgb565Channels)
    : StandardFormat var .rgb565
  | rgb888 (bits : var.bitsPerPixel.toNat = 24) (channels : channelsOf var = rgb888Channels)
    : StandardFormat var .rgb888
  | xrgb8888 (bits : var.bitsPerPixel.toNat = 32) (channels : channelsOf var = rgb888Channels)
    : StandardFormat var (.masked rgb888Channels)

theorem StandardFormat.supports {var : FbVarScreeninfo} {format : Format}
    (standard : StandardFormat var format)
    : Supports var format := by
  cases standard with
  | rgb565 bits channels => exact .rgb565 bits channels
  | rgb888 bits channels => exact .rgb888 bits channels
  | xrgb8888 bits channels =>
      rw [← channels]
      exact .masked bits (by rw [channels]; decide)

theorem rgb565Screen_standard (xres yres : BitVec 32)
    : StandardFormat (rgb565Screen xres yres) .rgb565 :=
  .rgb565 rfl rfl

end DummyDrivers.Fbview
