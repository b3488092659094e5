import DummyDrivers.Fbcat.Mono

/-! The command as a whole: which framebuffers it dumps and how it fails. What the kernel and
the C library answer is given; the memory is read through a mapping or, where the device
cannot be mapped, into a buffer.
-/

namespace DummyDrivers.Fbcat

open DummyDrivers.Blocks
open DummyDrivers.Fb
open DummyDrivers.Loops
open DummyDrivers.Netpbm

/-- Why the command stops before its end. -/
inductive Stop where
  | exit (status : Nat) (message : String)
  | undefined (behaviour : DumpError)
  deriving DecidableEq, Repr

/-- `posix_error`. The text of the system's error follows the message. -/
def posixError (text : String) : Stop := .exit 2 ("fbcat: " ++ text ++ ": ")

def bugTrackerUrl : String := "https://github.com/jwilk/fbcat/issues"

/-- `not_supported`. -/
def notSupported (text : String) : Stop :=
  .exit 3
    ("fbcat: not yet supported: "
    ++ text
    ++ "\nPlease file a bug at <"
    ++ bugTrackerUrl
    ++ ">.\n")

/-- How an error of the dump stops the command. -/
def Stop.ofDump : DumpError → Stop
  | .notSupported message => notSupported message
  | .mallocFailed => posixError "malloc failed"
  | behaviour => .undefined behaviour

/-- The answers about an open device. -/
structure Device where
  fixInfo : Option FbFixScreeninfo
  varInfo : Option FbVarScreeninfo
  cmap : Option FbCmap
  mmap : Nat → Option (List UInt8)
  mallocBuffer : Bool
  lseek : Nat → Bool
  read : Nat → Nat → Option (List UInt8)

/-- The circumstances of a run. -/
structure Environment where
  stdoutIsTerminal : Bool
  command : String
  arguments : List String
  framebuffer : Option String
  openDevice : String → Option Device
  mallocRow : Option (Nat → UInt8)
  fclose : Bool

def defaultFbdev : String := "/dev/fb0"

def fbVisualMono01 : BitVec 32 := 0

def fbVisualMono10 : BitVec 32 := 1

def fbVisualPseudocolor : BitVec 32 := 3

def fbVisualDirectcolor : BitVec 32 := 4

def fbVisualStaticPseudocolor : BitVec 32 := 5

/-- What `main` makes of the visual. -/
inductive Visual where
  | mono (blackIsZero : Bool)
  | mapped (colormap : FbCmap)

/-- An answer, or the error of the call. -/
def answer {Answer : Type} (result : Option Answer) (text : String) : Except Stop Answer :=
  match result with
  | some value => .ok value
  | none => .error (posixError text)

def check (holds : Bool) (stop : Stop) : Except Stop Unit := if holds then .ok () else .error stop

def dumped {Result : Type} : Except DumpError Result → Except Stop Result
  | .ok result => .ok result
  | .error error => .error (.ofDump error)

/-- The name of the device. -/
def fbdevName (env : Environment) : String :=
  match env.arguments with
  | [name] => name
  | _ =>
      match env.framebuffer with
      | some name => if name = "" then defaultFbdev else name
      | none => defaultFbdev

/-- The test of the command line. -/
def usage (env : Environment) : Except Stop Unit :=
  let refusal :=
    if env.stdoutIsTerminal then "fbcat: refusing to write binary data to a terminal\n" else ""
  check (!env.stdoutIsTerminal && env.arguments.length ≤ 1)
    (.exit 1 (refusal ++ "Usage: " ++ env.command ++ " [fbdev]\n"))

/-- The colormap that is initialised for a truecolor visual. -/
def dummyColormap (var : FbVarScreeninfo) : Except DumpError FbCmap := do
  let red ← truecolorChannel var.red.length
  let green ← truecolorChannel var.green.length
  let blue ← truecolorChannel var.blue.length
  return { red, green, blue }

/-- The switch on the visual. -/
def readVisual (device : Device) (fix : FbFixScreeninfo) (var : FbVarScreeninfo)
    : Except Stop Visual :=
  if fix.visual = fbVisualTruecolor then
    .mapped <$> dumped (dummyColormap var)
  else if fix.visual = fbVisualDirectcolor
      || fix.visual = fbVisualPseudocolor
      || fix.visual = fbVisualStaticPseudocolor then
    .mapped <$> answer device.cmap "FBIOGETCMAP failed"
  else if fix.visual = fbVisualMono01 then
    .ok (.mono false)
  else if fix.visual = fbVisualMono10 then
    .ok (.mono true)
  else
    .error (notSupported "unsupported visual")

/-- The tests on the depth that follow the switch. -/
def checkDepth (var : FbVarScreeninfo) : Visual → Except Stop Unit
  | .mapped _ => check (8 ≤ var.bitsPerPixel) (notSupported "< 8 bpp")
  | .mono _ =>
      check (var.bitsPerPixel = 1) (notSupported "monochrome framebuffer is not 1 bpp")

/-- The memory, and the screen information with the offset of its first line. -/
def videoMemory (device : Device) (lineLength : BitVec 32) (var : FbVarScreeninfo)
    : Except Stop (List UInt8 × FbVarScreeninfo) :=
  match device.mmap (lineLength * (var.yres + var.yoffset)).toNat with
  | some memory => .ok (memory, var)
  | none => do
      let bufferSize := (lineLength * var.yres).toNat
      let offset := (lineLength * var.yoffset).toNat
      check device.mallocBuffer (posixError "malloc failed")
      check (device.lseek offset) (posixError "lseek failed")
      let bytes ← answer (device.read offset bufferSize) "read failed"
      check (bytes.length = bufferSize) (posixError "read failed")
      return (bytes, { var with yoffset := 0 })

/-- The call of one of the two dumps. -/
def dumpVisual (memory : List UInt8) (var : FbVarScreeninfo) (lineLength : BitVec 32)
    (mallocRow : Option (Nat → UInt8))
    : Visual → Except DumpError Dump
  | .mono blackIsZero => dumpVideoMemoryMono memory var blackIsZero lineLength mallocRow
  | .mapped colormap => dumpVideoMemory memory var colormap lineLength mallocRow

/-- `main`: the bytes that are written to the standard output. -/
def main (env : Environment) : Except Stop (List UInt8) := do
  usage env
  let device ← answer (env.openDevice (fbdevName env)) ("could not open " ++ fbdevName env)
  let fix ← answer device.fixInfo "FBIOGET_FSCREENINFO failed"
  check (fix.type = fbTypePackedPixels) (notSupported "framebuffer type is not PACKED_PIXELS")
  let var ← answer device.varInfo "FBIOGET_VSCREENINFO failed"
  check (var.red.length ≤ 8 && var.green.length ≤ 8 && var.blue.length ≤ 8)
    (notSupported "color depth > 8 bits per component")
  let visual ← readVisual device fix var
  checkDepth var visual
  let (memory, var) ← videoMemory device fix.lineLength var
  let dump ← dumped (dumpVisual memory var fix.lineLength env.mallocRow visual)
  check env.fclose (posixError "write error")
  return dump.bytes

section Unpanned

variable {var : FbVarScreeninfo} {lineLength : BitVec 32} {memory : List UInt8}
  {colormap : FbCmap} {blackIsZero : Bool}

/-- The screen information that goes with a buffer which starts at the first visible line. -/
def unpanned (var : FbVarScreeninfo) : FbVarScreeninfo := { var with yoffset := 0 }

/-- Where the visible lines start in the memory. -/
def firstLine (var : FbVarScreeninfo) (lineLength : BitVec 32) : Nat :=
  var.yoffset.toNat * lineLength.toNat

/-- The offsets of all lines are computed without a loss. -/
def LinesReachable (var : FbVarScreeninfo) (lineLength : BitVec 32) : Prop :=
  (var.yoffset.toNat + var.yres.toNat) * lineLength.toNat < 2 ^ 32

theorem LinesReachable.lineStart (reachable : LinesReachable var lineLength) {y : Nat}
    (line : y < var.yres.toNat)
    : ((BitVec.ofNat 32 y + var.yoffset) * lineLength).toNat
      = firstLine var lineLength + ((BitVec.ofNat 32 y + 0) * lineLength).toNat := by
  have below : (0 + var.yres.toNat) * lineLength.toNat < 2 ^ 32 :=
    (Nat.mul_le_mul_right _ (by omega)).trans_lt reachable
  have unpanned := @lineStart_toNat 0 var.yres.toNat y lineLength 0 rfl line below
  rw [lineStart_toNat rfl line reachable, unpanned, Nat.zero_add, Nat.add_mul, firstLine]

/-- A pixel of the buffer is the pixel of the memory. -/
theorem dumpPixel_drop (base x : Nat) (state : Nat × List UInt8)
    : dumpPixel memory var colormap (base + state.1, state.2) x
      = (fun next => (base + next.1, next.2))
        <$> dumpPixel (memory.drop base) (unpanned var) colormap state x := by
  have loaded (bytes : Nat)
      : loadPixel memory (base + state.1) bytes = loadPixel (memory.drop base) state.1 bytes := by
    unfold loadPixel
    rw [List.drop_drop]
  have same : bytesPerPixel (unpanned var) = bytesPerPixel var := rfl
  simp only [dumpPixel, loaded, map_bind, map_pure, same, Nat.add_assoc]
  rfl

/-- A byte of the buffer is the byte of the memory. -/
theorem dumpMonoByte_drop (base x : Nat) (state : Nat × List UInt8)
    : dumpMonoByte memory blackIsZero (base + state.1, state.2) x
      = (fun next => (base + next.1, next.2))
        <$> dumpMonoByte (memory.drop base) blackIsZero state x := by
  simp only [dumpMonoByte, List.getElem?_drop]
  cases memory[base + state.1]? with
  | none => rfl
  | some byte =>
      simp only [map_bind, map_pure, Nat.add_assoc]

/-- A row of the buffer is dumped as the row of the memory. -/
theorem dumpRow_drop (reachable : LinesReachable var lineLength) {y : Nat}
    (line : y < var.yres.toNat) (state : List UInt8 × List UInt8)
    : dumpRow memory var colormap lineLength state y
      = dumpRow (memory.drop (firstLine var lineLength)) (unpanned var) colormap lineLength
          state y := by
  let base := firstLine var lineLength
  have start : rowStart var lineLength y = base + rowStart (unpanned var) lineLength y := by
    rw [rowStart, reachable.lineStart line, Nat.add_assoc]
    rfl
  have rounds := foldlM_simulates (fun next : Nat × List UInt8 => (base + next.1, next.2))
    (fun x (_ : x ∈ List.range var.xres.toNat) => @dumpPixel_drop var memory colormap base x)
    (rowStart (unpanned var) lineLength y, state.1)
  simp only [dumpRow, start]
  rw [rounds, bind_map_left]
  rfl

/-- A row of the buffer is dumped as the row of the memory. -/
theorem dumpMonoRow_drop (reachable : LinesReachable var lineLength) {y : Nat}
    (line : y < var.yres.toNat) (state : List UInt8 × List UInt8)
    : dumpMonoRow memory var blackIsZero lineLength state y
      = dumpMonoRow (memory.drop (firstLine var lineLength)) (unpanned var) blackIsZero lineLength
          state y := by
  let base := firstLine var lineLength
  have start : monoRowStart var lineLength y
      = base + monoRowStart (unpanned var) lineLength y := by
    rw [monoRowStart, reachable.lineStart line, Nat.add_assoc]
    rfl
  have rounds := foldlM_simulates (fun next : Nat × List UInt8 => (base + next.1, next.2))
    (fun x (_ : x ∈ List.range (bytesPerRow var).toNat) =>
      @dumpMonoByte_drop memory blackIsZero base x)
    (monoRowStart (unpanned var) lineLength y, state.1)
  simp only [dumpMonoRow, start]
  rw [rounds, bind_map_left]
  rfl

/-- The buffer is dumped as the memory that it was read from. -/
theorem dumpVisual_drop (reachable : LinesReachable var lineLength)
    (mallocRow : Option (Nat → UInt8)) (visual : Visual)
    : dumpVisual memory var lineLength mallocRow visual
      = dumpVisual (memory.drop (firstLine var lineLength)) (unpanned var) lineLength mallocRow
          visual := by
  have lines {State : Type} {round other : State → Nat → Except DumpError State}
      (same : ∀ y < var.yres.toNat, ∀ state, round state y = other state y) (state : State)
      : (List.range var.yres.toNat).foldlM round state
        = (List.range var.yres.toNat).foldlM other state := by
    have simulated := foldlM_simulates id (fun y (member : y ∈ List.range var.yres.toNat) state =>
      (same y (List.mem_range.mp member) state).trans (id_map _).symm) state
    exact simulated.trans (id_map _)
  cases mallocRow with
  | none => cases visual <;> rfl
  | some heap =>
      cases visual with
      | mono blackIsZero =>
          simp only [dumpVisual, dumpVideoMemoryMono]
          rw [lines fun y line state => dumpMonoRow_drop reachable line state]
          rfl
      | mapped colormap =>
          simp only [dumpVisual, dumpVideoMemory]
          rw [lines fun y line state => dumpRow_drop reachable line state]
          rfl

end Unpanned

/-- A device whose memory cannot be mapped but read. -/
def Device.unmapped (device : Device) (memory : List UInt8) : Device :=
  {
    device with
    mmap := fun _ => none
    mallocBuffer := true
    lseek := fun _ => true
    read := fun offset size => some ((memory.drop offset).take size)
  }

/-- A run without arguments on a device that can be mapped. -/
def defaultEnvironment (device : Device) : Environment :=
  {
    stdoutIsTerminal := false
    command := "fbcat"
    arguments := []
    framebuffer := none
    openDevice := fun name => if name = defaultFbdev then some device else none
    mallocRow := some fun _ => 0
    fclose := true
  }

/-- A device with packed pixels in a given memory. -/
def packedDevice (fix : FbFixScreeninfo) (var : FbVarScreeninfo) (memory : List UInt8) : Device :=
  {
    fixInfo := some fix
    varInfo := some var
    cmap := none
    mmap := fun _ => some memory
    mallocBuffer := true
    lseek := fun _ => true
    read := fun _ _ => none
  }

def packedFix (visual lineLength : BitVec 32) : FbFixScreeninfo :=
  {
    type := fbTypePackedPixels
    visual
    xpanstep := 0
    ypanstep := 0
    ywrapstep := 0
    lineLength
    accel := fbAccelNone
    smemLen := 0
  }

section Main

variable {env : Environment} {device : Device} {fix : FbFixScreeninfo} {var : FbVarScreeninfo}
  {memory : List UInt8}

theorem videoMemory_unmapped
    (whole : memory.length = (var.yoffset.toNat + var.yres.toNat) * fix.lineLength.toNat)
    (reachable : LinesReachable var fix.lineLength)
    : videoMemory (device.unmapped memory) fix.lineLength var
      = .ok (memory.drop (firstLine var fix.lineLength), unpanned var) := by
  have sum : (var.yoffset.toNat + var.yres.toNat) * fix.lineLength.toNat
      = firstLine var fix.lineLength + var.yres.toNat * fix.lineLength.toNat := Nat.add_mul _ _ _
  have reached : firstLine var fix.lineLength + var.yres.toNat * fix.lineLength.toNat < 2 ^ 32 :=
    sum ▸ reachable
  have size : (fix.lineLength * var.yres).toNat = var.yres.toNat * fix.lineLength.toNat := by
    rw [BitVec.toNat_mul, Nat.mul_comm, Nat.mod_eq_of_lt (by omega)]
  have offset : (fix.lineLength * var.yoffset).toNat = firstLine var fix.lineLength := by
    rw [BitVec.toNat_mul, Nat.mul_comm]
    exact Nat.mod_eq_of_lt (by rw [firstLine] at reached; omega)
  have length : (memory.drop (firstLine var fix.lineLength)).length
      = var.yres.toNat * fix.lineLength.toNat := by
    rw [List.length_drop, whole, sum, Nat.add_sub_cancel_left]
  have all : (memory.drop (firstLine var fix.lineLength)).take
        (var.yres.toNat * fix.lineLength.toNat)
      = memory.drop (firstLine var fix.lineLength) := List.take_of_length_le length.le
  simp only [videoMemory, Device.unmapped, size, offset, answer, all, length, check, ok_bind]
  rfl

/-- A framebuffer that can only be read is dumped exactly as if it were mapped: with the same
file, or the same error.
-/
theorem main_unmapped (opened : env.openDevice (fbdevName env) = some device)
    (fixInfo : device.fixInfo = some fix) (varInfo : device.varInfo = some var)
    (mapping : device.mmap (fix.lineLength * (var.yres + var.yoffset)).toNat = some memory)
    (whole : memory.length = (var.yoffset.toNat + var.yres.toNat) * fix.lineLength.toNat)
    (reachable : LinesReachable var fix.lineLength)
    : main { env with openDevice := fun _ => some (device.unmapped memory) } = main env := by
  have buffer := @videoMemory_unmapped device fix var memory whole reachable
  have mapped : videoMemory device fix.lineLength var = .ok (memory, var) := by
    rw [videoMemory, mapping]
  have visual : readVisual (device.unmapped memory) fix var = readVisual device fix var := rfl
  have used : usage { env with openDevice := fun _ => some (device.unmapped memory) }
      = usage env := rfl
  have fixUnmapped : (device.unmapped memory).fixInfo = some fix := fixInfo
  have varUnmapped : (device.unmapped memory).varInfo = some var := varInfo
  simp only [main, used, opened, answer, fixInfo, varInfo, fixUnmapped, varUnmapped, ok_bind,
    visual, mapped, buffer]
  simp only [← dumpVisual_drop reachable]

/-- Witness: a screen of 2x2 pixels whose second line is the first visible one. -/
theorem main_unmapped_panned
    : let var := { rgb565Screen 2 1 with yoffset := 1 }
      let memory := [0, 0, 0, 0, 0xFF, 0xFF, 0, 0]
      let device := packedDevice (packedFix fbVisualTruecolor 4) var memory
      let env := defaultEnvironment device
      main { env with openDevice := fun _ => some (device.unmapped memory) } = main env :=
  main_unmapped rfl rfl rfl rfl rfl (by unfold LinesReachable; decide)

/-- A run that opens a device and maps its memory, with channels of at most eight bits. -/
structure Readable (env : Environment) (device : Device) (fix : FbFixScreeninfo)
    (var : FbVarScreeninfo) (memory : List UInt8) : Prop where
  redirected : env.stdoutIsTerminal = false
  arguments : env.arguments.length ≤ 1
  opened : env.openDevice (fbdevName env) = some device
  fixInfo : device.fixInfo = some fix
  packed : fix.type = fbTypePackedPixels
  varInfo : device.varInfo = some var
  channels
    : var.red.length.toNat ≤ 8 ∧ var.green.length.toNat ≤ 8 ∧ var.blue.length.toNat ≤ 8
  mapping : device.mmap (fix.lineLength * (var.yres + var.yoffset)).toNat = some memory
  mallocRow : env.mallocRow.isSome
  fclose : env.fclose = true

theorem packedDevice_readable (fix : FbFixScreeninfo) (var : FbVarScreeninfo)
    (memory : List UInt8) (packed : fix.type = fbTypePackedPixels)
    (channels
      : var.red.length.toNat ≤ 8 ∧ var.green.length.toNat ≤ 8 ∧ var.blue.length.toNat ≤ 8)
    : Readable (defaultEnvironment (packedDevice fix var memory)) (packedDevice fix var memory)
        fix var memory :=
  ⟨rfl, Nat.zero_le 1, rfl, rfl, packed, rfl, channels, rfl, rfl, rfl⟩

/-- A readable run does what the dump of its visual does. -/
theorem Readable.main_eq_dumped (readable : Readable env device fix var memory)
    {visual : Visual} (chosen : readVisual device fix var = .ok visual)
    (deep : checkDepth var visual = .ok ())
    : main env
      = Dump.bytes <$> dumped (dumpVisual memory var fix.lineLength env.mallocRow visual) := by
  obtain ⟨red, green, blue⟩ := readable.channels
  have used : usage env = .ok () := by
    rw [usage, readable.redirected, decide_eq_true readable.arguments]
    rfl
  have short : (var.red.length ≤ 8 && var.green.length ≤ 8 && var.blue.length ≤ 8) = true := by
    rw [Bool.and_eq_true, Bool.and_eq_true, decide_eq_true_eq, decide_eq_true_eq,
      decide_eq_true_eq]
    exact ⟨⟨red, green⟩, blue⟩
  have mapped : videoMemory device fix.lineLength var = .ok (memory, var) := by
    rw [videoMemory, readable.mapping]
  simp only [main, used, readable.opened, answer, readable.fixInfo, readable.packed,
    readable.varInfo, short, check, chosen, deep, mapped, readable.fclose, ok_bind,
    decide_true, if_true]
  rfl

theorem Readable.main_eq (readable : Readable env device fix var memory) {visual : Visual}
    (chosen : readVisual device fix var = .ok visual) (deep : checkDepth var visual = .ok ())
    {dump : Dump} (ran : dumpVisual memory var fix.lineLength env.mallocRow visual = .ok dump)
    : main env = .ok dump.bytes := by
  rw [readable.main_eq_dumped chosen deep, ran]
  rfl

/-- The visuals that are dumped through a colormap. -/
inductive ThroughColormap (device : Device) (fix : FbFixScreeninfo) (var : FbVarScreeninfo)
    : FbCmap → Prop where
  | truecolor (visual : fix.visual = fbVisualTruecolor)
      (channels : Scalable var.red ∧ Scalable var.green ∧ Scalable var.blue)
      : ThroughColormap device fix var (levelColormap var)
  | palette {colormap : FbCmap}
      (visual
        : fix.visual = fbVisualDirectcolor
          ∨ fix.visual = fbVisualPseudocolor
          ∨ fix.visual = fbVisualStaticPseudocolor)
      (cmap : device.cmap = some colormap)
      : ThroughColormap device fix var colormap

theorem ThroughColormap.chosen {colormap : FbCmap}
    (through : ThroughColormap device fix var colormap)
    : readVisual device fix var = .ok (.mapped colormap) := by
  cases through with
  | truecolor visual channels =>
      obtain ⟨red, green, blue⟩ := channels
      have levels : dummyColormap var = .ok (levelColormap var) := by
        simp only [dummyColormap, truecolorChannel_ok red.1 red.2,
          truecolorChannel_ok green.1 green.2, truecolorChannel_ok blue.1 blue.2, ok_bind]
        rfl
      rw [readVisual, if_pos visual, levels]
      rfl
  | palette visual cmap =>
      have other : fix.visual ≠ fbVisualTruecolor := by
        rcases visual with same | same | same <;> rw [same] <;> decide
      have palette
          : (fix.visual = fbVisualDirectcolor
            || fix.visual = fbVisualPseudocolor
            || fix.visual = fbVisualStaticPseudocolor) = true := by
        rcases visual with same | same | same <;> rw [same] <;> decide
      rw [readVisual, if_neg other, if_pos palette, cmap]
      rfl

/-- A colour screen that is reachable in its memory is written as a pixmap of its visible
pixels, in the colours that its colormap has for them.
-/
theorem main_shows_pixmap (readable : Readable env device fix var memory) {colormap : FbCmap}
    (through : ThroughColormap device fix var colormap) (mapped : Mapped var colormap)
    (reachable : Reachable var fix.lineLength memory.length)
    : ∃ file,
        main env = .ok file
        ∧ readPixmap file
          = some (.ofPixels var.xres.toNat var.yres.toNat
              fun x y =>
                mappedColour var colormap
                  (pixelWord var memory
                    ((var.yoffset.toNat + y) * fix.lineLength.toNat
                    + (bytesPerPixel var).toNat * (var.xoffset.toNat + x)))) := by
  obtain ⟨heap, row⟩ := Option.isSome_iff_exists.mp readable.mallocRow
  obtain ⟨dump, ran, shown⟩ := dumpVideoMemory_shows mapped reachable heap
  have deep : checkDepth var (.mapped colormap) = .ok () := by
    have enough : (8 : BitVec 32) ≤ var.bitsPerPixel := mapped.depth.1
    simp only [checkDepth, check, decide_eq_true enough, if_true]
  rw [← row] at ran
  exact ⟨dump.bytes, readable.main_eq through.chosen deep ran, shown⟩

/-- Witness: a white pixel before a black one. -/
theorem main_shows_pixmap_white
    : let var := rgb565Screen 2 1
      let memory := [0xFF, 0xFF, 0, 0]
      ∃ file,
        main (defaultEnvironment (packedDevice (packedFix fbVisualTruecolor 4) var memory))
          = .ok file
        ∧ (readPixmap file).bind (·.at? 0 0) = some { red := 255, green := 255, blue := 255 } := by
  intro var memory
  have mapped : Mapped var (levelColormap var) :=
    ⟨by decide, ⟨by decide, by decide, by decide⟩, ⟨by decide, by decide, by decide⟩,
      ⟨by decide, by decide, by decide⟩⟩
  have reachable : Reachable var 4 memory.length := ⟨by decide, by decide, by decide, by decide⟩
  have scalable : Scalable var.red ∧ Scalable var.green ∧ Scalable var.blue :=
    ⟨⟨by decide, by decide⟩, ⟨by decide, by decide⟩, ⟨by decide, by decide⟩⟩
  obtain ⟨file, ran, shown⟩ := main_shows_pixmap
    (packedDevice_readable (packedFix fbVisualTruecolor 4) var memory rfl (by decide))
    (.truecolor rfl scalable) mapped reachable
  refine ⟨file, ran, ?_⟩
  rw [shown, Option.bind_some, Image.at?_ofPixels (by decide) (by decide)]
  decide

/-- The visuals that are dumped as a bitmap. -/
def monoVisual (blackIsZero : Bool) : BitVec 32 :=
  if blackIsZero then fbVisualMono10 else fbVisualMono01

/-- A monochrome screen that is reachable in its memory is written as a bitmap of its visible
pixels, if it starts with a whole byte, and else refused.
-/
theorem main_shows_bitmap (readable : Readable env device fix var memory) (blackIsZero : Bool)
    (visual : fix.visual = monoVisual blackIsZero) (depth : var.bitsPerPixel = 1)
    (reachable : MonoReachable var fix.lineLength memory.length)
    : if var.xoffset.toNat % 8 = 0 then
        ∃ file,
          main env = .ok file
          ∧ readBitmap file
            = some (.ofPixels var.xres.toNat var.yres.toNat
                fun x y => monoPixel var fix.lineLength memory x y ^^ blackIsZero)
      else
        main env = .error (notSupported "xoffset not divisible by 8 in 1 bpp mode") := by
  obtain ⟨heap, row⟩ := Option.isSome_iff_exists.mp readable.mallocRow
  have chosen : readVisual device fix var = .ok (.mono blackIsZero) := by
    cases blackIsZero <;> rw [readVisual, visual] <;> rfl
  have deep : checkDepth var (.mono blackIsZero) = .ok () := by
    simp only [checkDepth, check, depth, decide_true, if_true]
  split
  case isTrue aligned =>
    obtain ⟨dump, ran, shown⟩ :=
      @dumpVideoMemoryMono_shows var fix.lineLength blackIsZero memory reachable aligned heap
    rw [← row] at ran
    exact ⟨dump.bytes, readable.main_eq chosen deep ran, shown⟩
  case isFalse unaligned =>
    have refused : var.xoffset % 8 ≠ 0 := by
      intro same
      exact unaligned (congrArg BitVec.toNat same)
    rw [readable.main_eq_dumped chosen deep, row, dumpVisual, dumpVideoMemoryMono, if_pos refused]
    rfl

/-- Witness: where black is zero, a byte with its lowest bit set starts with a white pixel. -/
theorem main_shows_bitmap_white
    : let var : FbVarScreeninfo :=
        { FbVarScreeninfo.zero with xres := 8, yres := 1, bitsPerPixel := 1 }
      ∃ file,
        main (defaultEnvironment (packedDevice (packedFix fbVisualMono10 1) var [1])) = .ok file
        ∧ (readBitmap file).bind (·.at? 0 0) = some false
        ∧ (readBitmap file).bind (·.at? 1 0) = some true := by
  intro var
  have reachable : MonoReachable var 1 [(1 : UInt8)].length :=
    ⟨by decide, by decide, by decide, by decide⟩
  have shows := main_shows_bitmap
    (packedDevice_readable (packedFix fbVisualMono10 1) var [1] rfl (by decide)) true rfl rfl
    reachable
  rw [if_pos (by decide)] at shows
  obtain ⟨file, ran, shown⟩ := shows
  refine ⟨file, ran, ?_⟩
  rw [shown, Option.bind_some, Option.bind_some, Image.at?_ofPixels (by decide) (by decide),
    Image.at?_ofPixels (by decide) (by decide)]
  decide

end Main

end DummyDrivers.Fbcat
