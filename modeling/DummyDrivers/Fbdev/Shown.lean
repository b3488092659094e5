import DummyDrivers.Fbdev.DeferredIo
import DummyDrivers.FbStr.TextFiles
import DummyDrivers.Fbview.Main
import DummyDrivers.Library.Overwriting

/-! From the driver to the files of both tools: whatever is written into the video memory, in
any order and overlapping, the dump and the preview show for each pixel the bytes that were
written to it last.
-/

namespace DummyDrivers.Fbdev

open DummyDrivers.Blocks
open DummyDrivers.Fb
open DummyDrivers.Fbview
open DummyDrivers.FbStr (dummyFb_drawable)
open DummyDrivers.Netpbm
open DummyDrivers.Overwriting

/-- Bytes that go into the video memory from a position on, through `dummy_fb_write` or the
mapping.
-/
structure VideoWrite where
  ppos : Nat
  buf : List UInt8
  inside : ppos + buf.length ≤ smemLen

def VideoWrite.layer (write : VideoWrite) : Nat → Option UInt8 := laid write.ppos write.buf

/-- The video memory, which `vzalloc` has cleared, after some writes. -/
def videoMemory (writes : List VideoWrite) : List UInt8 :=
  writes.foldl (fun memory write => patch memory write.ppos write.buf) (List.replicate smemLen 0)

/-- The byte that was written last to a position, or zero. -/
def writtenByte (writes : List VideoWrite) (place : Nat) : UInt8 :=
  (latest (writes.map VideoWrite.layer) place).getD 0

/-- The picture of the bytes that were written last. -/
def writtenPicture (writes : List VideoWrite) : Image Colour :=
  .ofPixels dummyFbInfo.var.xres.toNat dummyFbInfo.var.yres.toNat
    fun x y =>
      let first := 2 * (y * dummyFbInfo.var.xres.toNat + x)
      colourOf
        (Format.rgb565.colour [writtenByte writes first, writtenByte writes (first + 1)])

theorem videoMemory_overwrites (writes : List VideoWrite)
    : Overwrites (latest (writes.map VideoWrite.layer)) (List.replicate smemLen 0)
        (videoMemory writes) := by
  apply foldl_overwrites
  intro write _ current same
  apply patch_overwrites
  rw [same, List.length_replicate]
  exact write.inside

theorem videoMemory_length (writes : List VideoWrite) : (videoMemory writes).length = smemLen :=
  (videoMemory_overwrites writes).length.trans List.length_replicate

theorem videoMemory_getElem? (writes : List VideoWrite) {place : Nat} (inside : place < smemLen)
    : (videoMemory writes)[place]? = some (writtenByte writes place) := by
  rw [(videoMemory_overwrites writes).held, List.getElem?_replicate_of_lt inside, writtenByte]
  cases latest (writes.map VideoWrite.layer) place <;> rfl

theorem block_videoMemory (writes : List VideoWrite) {index : Nat}
    (inside : 2 * index + 2 ≤ smemLen)
    : block 2 (videoMemory writes) index
      = [writtenByte writes (2 * index), writtenByte writes (2 * index + 1)] := by
  apply List.ext_getElem?
  intro lane
  match lane with
  | 0 => rw [getElem?_block _ (by decide), videoMemory_getElem? writes (by omega)]; rfl
  | 1 => rw [getElem?_block _ (by decide), videoMemory_getElem? writes (by omega)]; rfl
  | lane + 2 =>
      rw [List.getElem?_eq_none (by rw [block, List.length_take]; omega)]
      rfl

-----------------------------------------------------------------------------------------
-- The tools on the driver's screen
-----------------------------------------------------------------------------------------

/-- The picture of the memory is that of the writes. -/
theorem framePicture_videoMemory (writes : List VideoWrite)
    : framePicture dummyFbInfo.var .rgb565 (videoMemory writes) = writtenPicture writes := by
  apply Image.ofPixels_congr
  intro x column y line
  have pixel := raster_lt column line
  have screen : smemLen = 2 * (dummyFbInfo.var.xres.toNat * dummyFbInfo.var.yres.toNat) := rfl
  rw [Format.bytes, block_videoMemory writes (by omega)]

/-- After any writes, both tools write the picture of the bytes that were written last: the
preview, to which the driver reports its screen, and the dump.
-/
theorem dummyFb_writes_shown (writes : List VideoWrite) {env : Environment} {args : Args}
    (previews : PreviewsOnce env args dummyFbInfo.var (videoMemory writes))
    {fbcatEnv : Fbcat.Environment} {device : Fbcat.Device}
    (readable
      : Fbcat.Readable fbcatEnv device dummyFbInfo.fix dummyFbInfo.var (videoMemory writes))
    : ∃ previewed dumped,
        (Fbview.main env args).2 = .pixmap previewed
        ∧ Fbcat.main fbcatEnv = .ok dumped
        ∧ readPixmap previewed = some (writtenPicture writes)
        ∧ readPixmap dumped = some (writtenPicture writes) := by
  have screen : smemLen = 2 * (dummyFbInfo.var.xres.toNat * dummyFbInfo.var.yres.toNat) := rfl
  have length := videoMemory_length writes
  have size : frameSize dummyFbInfo.var = (videoMemory writes).length :=
    dummyFb_drawable.frameSize_eq.trans (screen.symm.trans length.symm)
  have read : readFrame dummyFbInfo.var (videoMemory writes) = videoMemory writes := by
    rw [readFrame, size, List.take_length]
  have whole
      : Format.rgb565.bytes * (dummyFbInfo.var.xres.toNat * dummyFbInfo.var.yres.toNat)
        ≤ (videoMemory writes).length :=
    (screen.symm.trans length.symm).le
  obtain ⟨previewed, ran, shown⟩ :=
    previews.main_shows dummyFb_drawable.standard.supports (by rw [read]; exact whole)
  rw [read, framePicture_videoMemory] at shown
  have narrow : 3 * dummyFbInfo.var.xres.toNat < 2 ^ 32 := by decide
  obtain ⟨dumped, written, dumpShown⟩ :=
    dummyFb_drawable.main_shows ⟨rfl, rfl⟩ narrow whole readable
  rw [framePicture_videoMemory] at dumpShown
  exact ⟨previewed, dumped, ran, written, shown, dumpShown⟩

/-- Witness: white over black, and black over the second half of it again. -/
theorem dummyFb_writes_shown_halves
    : let writes : List VideoWrite :=
        [
          { ppos := 0, buf := [0, 0, 0, 0], inside := by decide },
          { ppos := 0, buf := [0xFF, 0xFF, 0xFF, 0xFF], inside := by decide },
          { ppos := 2, buf := [0, 0], inside := by decide }
        ]
      let device := recordedDevice dummyFbInfo.var (videoMemory writes)
      ∃ previewed,
        (Fbview.main (oneDevice "/dev/fb0" device) onceArgs).2 = .pixmap previewed
        ∧ (readPixmap previewed).bind (·.at? 0 0) = some { red := 255, green := 255, blue := 255 }
        ∧ (readPixmap previewed).bind (·.at? 1 0) = some { red := 0, green := 0, blue := 0 } := by
  intro writes device
  obtain ⟨previewed, _, ran, _, shown, _⟩ :=
    dummyFb_writes_shown writes (oneDevice_previews dummyFbInfo.var (videoMemory writes))
      (Fbcat.packedDevice_readable dummyFbInfo.fix dummyFbInfo.var (videoMemory writes) rfl
        (by decide))
  refine ⟨previewed, ran, ?_, ?_⟩ <;>
    rw [shown, Option.bind_some, writtenPicture, Image.at?_ofPixels (by decide) (by decide)] <;>
    decide

end DummyDrivers.Fbdev
