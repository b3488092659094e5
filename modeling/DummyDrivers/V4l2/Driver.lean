import DummyDrivers.Library.KernelCall
import Mathlib.Algebra.Ring.Nat
import Mathlib.Logic.Function.Basic

/-! The buffer path of the v4l2 driver: its videobuf2 callbacks, the timer handler and
their shared device state, each split where another thread can run in between.
-/

namespace DummyDrivers.V4l2

def dummyVideoWidth : Nat := 600

def dummyVideoHeight : Nat := 350

def dummyVideoPlaneSize : Nat := dummyVideoWidth * dummyVideoHeight * 2

/-- A frame of the animation: the bytes of its array and their number as a `uint32_t`. -/
structure DummyFrame where
  data : List UInt8
  len : BitVec 32
  len_eq : len = BitVec.ofNat 32 data.length

/-- The `DUMMY_FRAME` initialiser: `len` is the array's `sizeof`, converted to 32 bits. -/
def dummyFrame (frameJpg : List UInt8) : DummyFrame :=
  { data := frameJpg, len := BitVec.ofNat 32 frameJpg.length, len_eq := rfl }

/-- `FRAME_COUNT`, an `ARRAY_SIZE` and therefore a 64-bit `size_t`. -/
def frameCount : BitVec 64 := 25

/-- The array `frames`: its initialiser lists 25 frames, whatever `frames.h` holds. -/
structure Frames where
  entries : List DummyFrame
  length_eq : entries.length = frameCount.toNat

/-- `frames[index]`. Outside the table the model reads an empty frame; `frameIndex_lt`
excludes that case.
-/
def Frames.frame (frames : Frames) (index : Nat) : DummyFrame :=
  frames.entries.getD index (dummyFrame [])

/-- `dv->sequence % FRAME_COUNT`: the `int` is converted to the 64-bit unsigned type of
the divisor, which extends its sign.
-/
def frameIndex (sequence : BitVec 32) : Nat :=
  (sequence.signExtend 64 % frameCount).toNat

/-- A `struct dummy_video_frame_buf`, by reference. -/
abbrev BufRef := Nat

/-- What videobuf2 records of a buffer's place between user space and the driver. -/
inductive Vb2State where
  | dequeued
  | prepared
  | active
  | done
  | error
  deriving DecidableEq, Repr

/-- The parts of a buffer that the driver reads and writes. `mapped` says whether
`vb2_plane_vaddr` returns an address for plane 0, whose size is its number of bytes.
-/
structure FrameBuf where
  plane : List UInt8
  mapped : Bool
  bytesused : BitVec 32
  sequence : BitVec 32
  timestamp : BitVec 64
  state : Vb2State

/-- `vb2_plane_size(vb, 0)`. -/
def FrameBuf.planeSize (buf : FrameBuf) : Nat := buf.plane.length

/-- The fields of `struct dummy_video` that the callbacks share. -/
structure DummyVideo where
  queuedBufs : List BufRef
  sequence : BitVec 32
  timerPending : Bool

/-- The static device after `dummy_video_drv_register`: no buffer queued, timer set up. -/
def DummyVideo.initial : DummyVideo :=
  { queuedBufs := [], sequence := 0, timerPending := false }

/-- `mod_timer` arms the timer, whether or not it is pending. -/
def modTimer (dv : DummyVideo) : DummyVideo := { dv with timerPending := true }

/-- The result of `queue_setup`: its return value, `*nplanes` and `sizes[0]`. -/
structure QueueSetup where
  ret : Int
  nplanes : BitVec 32
  size : BitVec 32

/-- A caller that brings its own planes has its size checked; otherwise the driver
answers with one plane of its own size.
-/
def dummyVideoQueueSetup (nplanes size : BitVec 32) : QueueSetup :=
  if nplanes ≠ 0 then
    { ret := if size.toNat < dummyVideoPlaneSize then -einval else 0, nplanes, size }
  else
    { ret := 0, nplanes := 1, size := BitVec.ofNat 32 dummyVideoPlaneSize }

/-- The frame pointer the source also computes here is used by a commented-out line only. -/
def dummyVideoBufPrepare (buf : FrameBuf) : Int :=
  if buf.planeSize < dummyVideoPlaneSize then -einval else 0

/-- `list_add_tail` under the lock. -/
def dummyVideoBufQueue (dv : DummyVideo) (buf : BufRef) : DummyVideo :=
  { dv with queuedBufs := dv.queuedBufs ++ [buf] }

/-- The lock section of the handler: the first queued buffer is taken off the list, or
the list is empty and the handler goes to `resched`.
-/
def timerPop (dv : DummyVideo) : Option BufRef × DummyVideo :=
  match dv.queuedBufs with
  | [] => (none, dv)
  | buf :: rest => (some buf, { dv with queuedBufs := rest })

/-- `memcpy` of `count` bytes to the start of a plane. The bytes past the plane's end
land in other memory, which is not part of the plane.
-/
def memcpyPlane (plane src : List UInt8) (count : Nat) : List UInt8 :=
  (src.take count).take plane.length ++ plane.drop count

/-- What one `memcpy` of the handler touches: the frame's index, the number of bytes
written, the size of the plane it writes to, and the payload set after it.
-/
structure FrameCopy where
  index : Nat
  count : Nat
  planeSize : Nat
  payload : Nat
  deriving DecidableEq, Repr

/-- The handler between the lock section and `vb2_buffer_done`: `now` is the clock. -/
def timerFill (frames : Frames) (now : BitVec 64) (dv : DummyVideo) (buf : FrameBuf)
    : DummyVideo × FrameBuf × Option FrameCopy :=
  let index := frameIndex dv.sequence
  let df := frames.frame index
  let stamped := { buf with sequence := dv.sequence, timestamp := now }
  let dv := { dv with sequence := dv.sequence + 1 }
  if buf.mapped then
    (dv,
      { stamped with
        plane := memcpyPlane buf.plane df.data df.len.toNat
        bytesused := df.len },
      some
        { index, count := df.len.toNat, planeSize := buf.planeSize,
          payload := df.len.toNat })
  else
    (dv, stamped, none)

def dummyVideoStartStreaming (dv : DummyVideo) : Int × DummyVideo :=
  (0, modTimer { dv with sequence := 0 })

/-- `timer_delete_sync` on an idle handler: the timer is no longer pending. -/
def timerDeleteSync (dv : DummyVideo) : DummyVideo := { dv with timerPending := false }

@[simp] theorem frameCount_toNat : frameCount.toNat = 25 := rfl

/-- Every sequence value picks a frame of the table, negative ones included. -/
theorem frameIndex_lt (sequence : BitVec 32) : frameIndex sequence < frameCount.toNat := by
  simp only [frameIndex, BitVec.toNat_umod]
  exact Nat.mod_lt _ (by decide)

/-- The index as the counter runs: from 2^31 on, the sign extension adds 2^64 - 2^32, which
is 20 modulo the table length.
-/
theorem frameIndex_ofNat (n : Nat)
    : frameIndex (BitVec.ofNat 32 n)
      = if n % 2 ^ 32 < 2 ^ 31 then n % 2 ^ 32 % 25 else (n % 2 ^ 32 + 20) % 25 := by
  have msb : (BitVec.ofNat 32 n).msb = decide (2 ^ 31 ≤ n % 2 ^ 32) := by
    rw [BitVec.msb_eq_decide, BitVec.toNat_ofNat]
  simp only [frameIndex, frameCount_toNat, BitVec.toNat_umod, BitVec.toNat_signExtend,
    BitVec.toNat_setWidth, BitVec.toNat_ofNat, msb, decide_eq_true_eq]
  split <;> split <;> omega

/-- Copying into a plane keeps its size: bytes beyond it go elsewhere. -/
@[simp] theorem memcpyPlane_length (plane src : List UInt8) (count : Nat)
    (enough : count ≤ src.length)
    : (memcpyPlane plane src count).length = plane.length := by
  simp [memcpyPlane]
  omega

/-- The 32-bit length never exceeds the array it was taken from. -/
theorem DummyFrame.len_le (df : DummyFrame) : df.len.toNat ≤ df.data.length := by
  rw [df.len_eq, BitVec.toNat_ofNat]
  exact Nat.mod_le _ _

/-- Preparation accepts exactly the buffers whose plane has the driver's size. -/
theorem dummyVideoBufPrepare_eq_zero {buf : FrameBuf}
    : dummyVideoBufPrepare buf = 0 ↔ dummyVideoPlaneSize ≤ buf.planeSize := by
  unfold dummyVideoBufPrepare einval
  split <;> omega

end DummyDrivers.V4l2
