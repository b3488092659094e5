import DummyDrivers.Fbview.Frame
import DummyDrivers.Library.Netpbm

/-! The single frame that the preview writes: a pixmap of the frame. -/

namespace DummyDrivers.Fbview

open DummyDrivers.Blocks
open DummyDrivers.Fb
open DummyDrivers.Loops
open DummyDrivers.Netpbm
open DummyDrivers.Python

/-- The header that `run_once_ppm` writes. -/
def onceHeader (conv : Converter) : String :=
  "P6\n" ++ toString conv.w ++ " " ++ toString conv.h ++ "\n255\n"

/-- `run_once_ppm`: the bytes that are written, on a given content of the memory. -/
def runOncePpm (var : FbVarScreeninfo) (memory : List UInt8) : Except PyError (List UInt8) := do
  let conv := Converter.init var
  let rgb ← conv.convert (readFrame var memory)
  return ascii (onceHeader conv) ++ rgb

/-- Three bytes as a colour. -/
def colourOf (bytes : List UInt8) : Colour :=
  { red := bytes.getD 0 0, green := bytes.getD 1 0, blue := bytes.getD 2 0 }

/-- The picture of a frame whose lines follow each other without padding. -/
def framePicture (var : FbVarScreeninfo) (format : Format) (memory : List UInt8) : Image Colour :=
  .ofPixels var.xres.toNat var.yres.toNat
    fun x y => colourOf (format.colour (block format.bytes memory (y * var.xres.toNat + x)))

theorem ascii_onceHeader (conv : Converter)
    : ascii (onceHeader conv)
      = ascii "P6"
        ++ 10 :: (ascii (toString conv.w)
          ++ 32 :: (ascii (toString conv.h)
            ++ 10 :: (ascii (toString 255) ++ [10]))) := by
  simp only [onceHeader, ascii_append, List.append_assoc]
  rfl

/-- The file of a readable frame is a pixmap of its pixels. -/
theorem Supports.runOncePpm_shows {var : FbVarScreeninfo} {format : Format}
    (supports : Supports var format) {memory : List UInt8}
    (enough : format.bytes * (var.xres.toNat * var.yres.toNat) ≤ (readFrame var memory).length)
    : ∃ file,
        runOncePpm var memory = .ok file
        ∧ readPixmap file = some (framePicture var format (readFrame var memory)) := by
  let rgb := format.frame (readFrame var memory) (var.xres.toNat * var.yres.toNat)
  have whole : 3 * (var.xres.toNat * var.yres.toNat) ≤ rgb.length :=
    (flatMap_range_length (fun _ => Format.colour_length _ _) _).ge
  have newline : isSpace 10 := rfl
  have read := readPixmap_header newline (rfl : isSpace 32) newline newline var.xres.toNat
    var.yres.toNat whole
  have file (raster : List UInt8)
      : ascii (onceHeader (Converter.init var)) ++ raster
        = ascii "P6"
          ++ 10 :: (ascii (toString var.xres.toNat)
            ++ 32 :: (ascii (toString var.yres.toNat)
              ++ 10 :: (ascii (toString 255) ++ 10 :: raster))) := by
    rw [ascii_onceHeader]
    simp only [List.append_assoc, List.cons_append, List.nil_append]
    rfl
  refine ⟨ascii (onceHeader (Converter.init var)) ++ rgb, ?_, ?_⟩
  · rw [runOncePpm, supports.convert_ok enough]
    rfl
  · rw [file, read, framePicture]
    congr 1
    apply Image.ofPixels_congr
    intro x column y line
    rw [pixmapPixel_block, Format.block_frame format _ (raster_lt column line)]
    rfl

end DummyDrivers.Fbview
