import DummyDrivers.Fbview.Converter

/-! How the preview opens a framebuffer: it reads the kernel's record of the screen as words
with names, and without a device it takes the first that it can open.
-/

namespace DummyDrivers.Fbview

open DummyDrivers.Fb
open DummyDrivers.LittleEndian
open DummyDrivers.Python

/-- The names that the tool has for the words of the record. -/
inductive VarName where
  | xres | yres | xresVirtual | yresVirtual | xoffset | yoffset | bitsPerPixel | grayscale
  | redOffset | redLength | redMsb | greenOffset | greenLength | greenMsb | blueOffset
  | blueLength | blueMsb | transpOffset | transpLength | transpMsb | nonstd | activate
  | height | width | accelFlags | pixclock | leftMargin | rightMargin | upperMargin
  | lowerMargin | hsyncLen | vsyncLen | sync | vmode | rotate | colorspace | reserved0
  | reserved1 | reserved2 | reserved3
  deriving DecidableEq, Repr

/-- `_VAR_NAMES`. -/
def varNames : List VarName :=
  [
    .xres, .yres, .xresVirtual, .yresVirtual, .xoffset, .yoffset, .bitsPerPixel,
    .grayscale, .redOffset, .redLength, .redMsb, .greenOffset, .greenLength, .greenMsb,
    .blueOffset, .blueLength, .blueMsb, .transpOffset, .transpLength, .transpMsb, .nonstd,
    .activate, .height, .width, .accelFlags, .pixclock, .leftMargin, .rightMargin,
    .upperMargin, .lowerMargin, .hsyncLen, .vsyncLen, .sync, .vmode, .rotate, .colorspace,
    .reserved0, .reserved1, .reserved2, .reserved3
  ]

/-- `VAR_SIZE`: the size of forty words. -/
def varSize : Nat := 4 * 40

/-- What the ioctl returns for a buffer of `VAR_SIZE` bytes. -/
structure VarBuffer where
  bytes : List UInt8
  sized : bytes.length = varSize

/-- The words by their names. -/
abbrev VarWords := List (VarName × Nat)

/-- `read_var`. -/
def readVar (buf : VarBuffer) : Except PyError VarWords := do
  return varNames.zip (← unpackWords 4 40 buf.bytes)

/-- `var[name]`, for a name that is there. -/
def VarWords.item (var : VarWords) (name : VarName) : BitVec 32 :=
  BitVec.ofNat 32 ((var.lookup name).getD 0)

/-- The words as the screen information that the rest of the tool uses. -/
def VarWords.screeninfo (var : VarWords) : FbVarScreeninfo :=
  {
    xres := var.item .xres
    yres := var.item .yres
    xresVirtual := var.item .xresVirtual
    yresVirtual := var.item .yresVirtual
    xoffset := var.item .xoffset
    yoffset := var.item .yoffset
    bitsPerPixel := var.item .bitsPerPixel
    grayscale := var.item .grayscale
    red := { offset := var.item .redOffset, length := var.item .redLength }
    green := { offset := var.item .greenOffset, length := var.item .greenLength }
    blue := { offset := var.item .blueOffset, length := var.item .blueLength }
    transp := { offset := var.item .transpOffset, length := var.item .transpLength }
    nonstd := var.item .nonstd
    rotate := var.item .rotate
  }

-----------------------------------------------------------------------------------------
-- The record of the kernel
-----------------------------------------------------------------------------------------

/-- The members of `struct fb_var_screeninfo` in their order, with those that no part of the
model uses taken from elsewhere.
-/
def kernelWords (var : FbVarScreeninfo) (others : VarName → BitVec 32) : List (BitVec 32) :=
  [
    var.xres, var.yres, var.xresVirtual, var.yresVirtual, var.xoffset, var.yoffset,
    var.bitsPerPixel, var.grayscale,
    var.red.offset, var.red.length, others .redMsb,
    var.green.offset, var.green.length, others .greenMsb,
    var.blue.offset, var.blue.length, others .blueMsb,
    var.transp.offset, var.transp.length, others .transpMsb,
    var.nonstd, others .activate, others .height, others .width, others .accelFlags,
    others .pixclock, others .leftMargin, others .rightMargin, others .upperMargin,
    others .lowerMargin, others .hsyncLen, others .vsyncLen, others .sync, others .vmode,
    var.rotate, others .colorspace,
    others .reserved0, others .reserved1, others .reserved2, others .reserved3
  ]

/-- The record in the memory of the kernel. -/
def kernelRecord (var : FbVarScreeninfo) (others : VarName → BitVec 32) : VarBuffer :=
  {
    bytes := ((kernelWords var others).map BitVec.toNat).flatMap (leBytes 4)
    sized := by simp [kernelWords, varSize]
  }

/-- A word that came from a member is the member. -/
theorem VarWords.item_eq {var : VarWords} {name : VarName} {value : BitVec 32}
    (held : var.lookup name = some value.toNat)
    : var.item name = value := by
  rw [item, held, Option.getD_some, BitVec.ofNat_toNat, BitVec.setWidth_eq]

/-- The tool reads the members of the kernel's record under their own names. -/
theorem readVar_kernelRecord (var : FbVarScreeninfo) (others : VarName → BitVec 32)
    : ∃ words, readVar (kernelRecord var others) = .ok words ∧ words.screeninfo = var := by
  have small : ∀ word ∈ (kernelWords var others).map BitVec.toNat, word < 256 ^ 4 := by
    intro word member
    obtain ⟨value, _, rfl⟩ := List.mem_map.mp member
    exact value.isLt
  have unpacked : unpackWords 4 40 (kernelRecord var others).bytes
      = .ok ((kernelWords var others).map BitVec.toNat) := unpackWords_leBytes small
  let words : VarWords := varNames.zip ((kernelWords var others).map BitVec.toNat)
  have item (name : VarName) (value : BitVec 32) (held : words.lookup name = some value.toNat)
      : words.item name = value :=
    VarWords.item_eq held
  refine ⟨words, ?_, ?_⟩
  · rw [readVar, unpacked]
    rfl
  · rw [VarWords.screeninfo, item .xres var.xres rfl, item .yres var.yres rfl,
      item .xresVirtual var.xresVirtual rfl, item .yresVirtual var.yresVirtual rfl,
      item .xoffset var.xoffset rfl, item .yoffset var.yoffset rfl,
      item .bitsPerPixel var.bitsPerPixel rfl, item .grayscale var.grayscale rfl,
      item .redOffset var.red.offset rfl, item .redLength var.red.length rfl,
      item .greenOffset var.green.offset rfl, item .greenLength var.green.length rfl,
      item .blueOffset var.blue.offset rfl, item .blueLength var.blue.length rfl,
      item .transpOffset var.transp.offset rfl, item .transpLength var.transp.length rfl,
      item .nonstd var.nonstd rfl, item .rotate var.rotate rfl]

-----------------------------------------------------------------------------------------
-- Opening
-----------------------------------------------------------------------------------------

/-- What the system has behind a path: the ioctl, or the text of its error, and the content
of the memory at each of the tool's reads.
-/
structure FbNode where
  ioctl : Except String VarBuffer
  memory : Nat → List UInt8

/-- How opening may fail: with an `OSError` and its text, or with another exception. -/
inductive OpenError where
  | osError (text : String)
  | raised (error : PyError)

/-- A `Framebuffer`; its size is that of `frameSize`. -/
structure Framebuffer where
  path : String
  var : FbVarScreeninfo
  device : FbNode

section

-- `os.open` of a path, or the text of its error.
variable (openDevice : String → Except String FbNode)

/-- `Framebuffer(path)`. -/
def Framebuffer.init (path : String) : Except OpenError Framebuffer :=
  match openDevice path with
  | .error text => .error (.osError text)
  | .ok device =>
      match device.ioctl with
      | .error text => .error (.osError text)
      | .ok buf =>
          match readVar buf with
          | .error error => .error (.raised error)
          | .ok words => .ok { path, var := words.screeninfo, device }

/-- Why the tool ends without a picture. -/
inductive Failure where
  | systemExit (message : String)
  | raised (error : PyError)
  deriving DecidableEq

/-- `open_fb`. -/
def openFb (path : String) : Except Failure Framebuffer :=
  match Framebuffer.init openDevice path with
  | .ok fb => .ok fb
  | .error (.osError text) => .error (.systemExit (path ++ ": " ++ text ++ " (try sudo)"))
  | .error (.raised error) => .error (.raised error)

def fbPath (index : Nat) : String := "/dev/fb" ++ toString index

/-- The loop of `find_fb` over the numbers that are left. -/
def findFrom : List Nat → Except Failure Framebuffer
  | [] => .error (.systemExit "no /dev/fbN found (try sudo)")
  | index :: rest =>
      match Framebuffer.init openDevice (fbPath index) with
      | .ok fb => .ok fb
      | .error (.osError _) => findFrom rest
      | .error (.raised error) => .error (.raised error)

/-- `find_fb`. -/
def findFb : Except Failure Framebuffer := findFrom openDevice (List.range 32)

/-- `open_fb(args.device) if args.device else find_fb()`, with the empty path for none. -/
def selectFb (path : String) : Except Failure Framebuffer :=
  if path ≠ "" then openFb openDevice path else findFb openDevice

/-- The framebuffer of a run: the named one, or the first of its numbers that opens. -/
inductive Selects : String → Framebuffer → Prop where
  | named {path fb} (given : path ≠ "") (opened : Framebuffer.init openDevice path = .ok fb)
    : Selects path fb
  | found {index fb} (inside : index < 32)
    (missing
      : ∀ earlier < index,
          ∃ text, Framebuffer.init openDevice (fbPath earlier) = .error (.osError text))
    (opened : Framebuffer.init openDevice (fbPath index) = .ok fb)
    : Selects "" fb

variable {openDevice}

/-- The search skips what cannot be opened, by induction on the numbers before the one found. -/
theorem findFrom_found {fb : Framebuffer} {before rest : List Nat} {index : Nat}
    (missing
      : ∀ earlier ∈ before,
          ∃ text, Framebuffer.init openDevice (fbPath earlier) = .error (.osError text))
    (opened : Framebuffer.init openDevice (fbPath index) = .ok fb)
    : findFrom openDevice (before ++ index :: rest) = .ok fb := by
  induction before with
  | nil => rw [List.nil_append, findFrom, opened]
  | cons first before ih =>
      obtain ⟨text, absent⟩ := missing first List.mem_cons_self
      rw [List.cons_append, findFrom, absent]
      exact ih fun earlier member => missing earlier (List.mem_cons_of_mem first member)

theorem range_split {index count : Nat} (inside : index < count)
    : ∃ rest, List.range count = List.range index ++ index :: rest := by
  have split : count = index + (count - index - 1 + 1) := by omega
  refine ⟨((List.range (count - index - 1)).map (· + 1)).map (index + ·), ?_⟩
  conv_lhs => rw [split, List.range_add, List.range_succ_eq_map]
  rfl

/-- The framebuffer of a run is the one that is opened. -/
theorem Selects.selectFb_ok {path : String} {fb : Framebuffer}
    (selects : Selects openDevice path fb)
    : selectFb openDevice path = .ok fb := by
  cases selects with
  | named given opened => rw [selectFb, if_pos given, openFb, opened]
  | found inside missing opened =>
      obtain ⟨rest, numbers⟩ := range_split inside
      rw [selectFb, if_neg (fun given => given rfl), findFb, numbers]
      exact findFrom_found (fun earlier member => missing earlier (List.mem_range.mp member))
        opened

/-- A device that opens and reports its screen is a framebuffer. -/
theorem Framebuffer.init_opened {path : String} {device : FbNode}
    (opened : openDevice path = .ok device) {var : FbVarScreeninfo}
    {others : VarName → BitVec 32} (reported : device.ioctl = .ok (kernelRecord var others))
    : Framebuffer.init openDevice path = .ok { path, var, device } := by
  obtain ⟨words, read, same⟩ := readVar_kernelRecord var others
  rw [Framebuffer.init, opened]
  dsimp only
  rw [reported]
  dsimp only
  rw [read, ← same]

/-- A framebuffer has the screen information that its device reports. -/
theorem Framebuffer.init_var {path : String} {fb : Framebuffer}
    (opened : Framebuffer.init openDevice path = .ok fb) {var : FbVarScreeninfo}
    {others : VarName → BitVec 32} (reported : fb.device.ioctl = .ok (kernelRecord var others))
    : fb.var = var := by
  obtain ⟨words, read, same⟩ := readVar_kernelRecord var others
  rw [Framebuffer.init] at opened
  cases found : openDevice path with
  | error text =>
      rw [found] at opened
      contradiction
  | ok device =>
      rw [found] at opened
      dsimp only at opened
      cases ioctl : device.ioctl with
      | error text =>
          rw [ioctl] at opened
          contradiction
      | ok buf =>
          rw [ioctl] at opened
          dsimp only at opened
          cases given : readVar buf with
          | error error =>
              rw [given] at opened
              contradiction
          | ok items =>
              rw [given] at opened
              obtain rfl := Except.ok.inj opened
              obtain rfl := Except.ok.inj (ioctl.symm.trans reported)
              obtain rfl := Except.ok.inj (given.symm.trans read)
              exact same

theorem Selects.var_eq {path : String} {fb : Framebuffer}
    (selects : Selects openDevice path fb) {var : FbVarScreeninfo}
    {others : VarName → BitVec 32} (reported : fb.device.ioctl = .ok (kernelRecord var others))
    : fb.var = var := by
  cases selects with
  | named given opened => exact Framebuffer.init_var opened reported
  | found inside missing opened => exact Framebuffer.init_var opened reported

end

end DummyDrivers.Fbview
