import DummyDrivers.Fbview.Device
import DummyDrivers.Fbview.Once
import DummyDrivers.Fbview.Session

/-! The preview as a program: which framebuffer a run opens, and which of its outputs it
gives. Windows are never among them.
-/

namespace DummyDrivers.Fbview

open DummyDrivers.Blocks
open DummyDrivers.Fb
open DummyDrivers.Netpbm
open DummyDrivers.Python

/-- The choices of `--mode`. -/
inductive Mode where
  | auto
  | gui
  | ansi
  deriving DecidableEq, Repr

/-- The arguments of a run, as they are parsed. -/
structure Args where
  device : Option String
  fps : Float
  mode : Mode
  once : Bool
  maxw : Int
  maxh : Int
  fill : Bool

/-- What a run finds around it: the devices, the two variables, whether tkinter is there, the
size of the terminal, how many rounds of the loop the user lets pass at most, and where an
earlier interrupt comes.
-/
structure Environment where
  openDevice : String → Except String FbNode
  display : Option String
  waylandDisplay : Option String
  tk : Bool
  columns : Nat
  lines : Nat
  rounds : Nat
  interrupt : Option Nat
  str : PyError → String

/-- What a run leaves on its standard output, or how it ends without. -/
inductive Output where
  | pixmap (file : List UInt8)
  | terminal (text : String) (raised : Option PyError)
  | window
  | failed (failure : Failure)

/-- How `make_image` fails: in the conversion, or for want of a root window. -/
inductive ImageError where
  | raised (error : PyError)
  | noDefaultRoot

def ImageError.text (str : PyError → String) : ImageError → String
  | .raised error => str error
  | .noDefaultRoot => "Too early to create image: no default root window"

/-- `tk.PhotoImage`: tkinter has images in a root window only. -/
def photoImage (root : Bool) (_ppm : List UInt8) : Except ImageError Unit :=
  if root then .ok () else .error .noDefaultRoot

/-- `make_image` of `run_gui`, which wraps the same file as `run_once_ppm` in an image. -/
def makeImage (root : Bool) (fb : Framebuffer) (read : Nat) : Except ImageError Unit :=
  match runOncePpm fb.var (fb.device.memory read) with
  | .error error => .error (.raised error)
  | .ok ppm => photoImage root ppm

/-- `run_gui`: what it prints, and whether it has shown a window. -/
def runGui (env : Environment) (fb : Framebuffer) : List String × Bool :=
  if env.tk = false then
    (["GUI mode needs python3-tk: sudo apt install python3-tk"], false)
  else
    -- The source asks for the first image before its root window exists.
    match makeImage false fb 0 with
    | .error error =>
        (["GUI preview failed (" ++ error.text env.str ++ "), falling back to ANSI"], false)
    | .ok () => ([], true)

/-- The number of reads before `run_ansi` after `run_gui` has given up. -/
def guiReads (env : Environment) : Nat := if env.tk then 1 else 0

/-- `time.sleep(1.0 / fps)`, as long as no interrupt comes. -/
def pause (fps : Float) : Except PyError Unit := do
  sleep (← trueDiv 1.0 fps)

/-- `run_ansi` with the arguments of the run, from a read of the memory on. -/
def runAnsiFrom (env : Environment) (args : Args) (fb : Framebuffer) (once : Bool)
    (read rounds : Nat) : Output :=
  let session : Session :=
    {
      path := fb.path
      var := fb.var
      columns := env.columns
      lines := env.lines
      maxw := args.maxw
      maxh := args.maxh
      fill := args.fill
      once
      pause := pause args.fps
    }
  let memories := (List.range rounds).map fun round => fb.device.memory (read + round)
  let run := runAnsiSession session env.interrupt memories
  .terminal run.text run.raised

/-- The line about the framebuffer that a run starts with. -/
def statusLine (fb : Framebuffer) : String :=
  fb.path ++ ": " ++ toString fb.var.xres.toNat ++ "x" ++ toString fb.var.yres.toNat ++ " "
  ++ toString fb.var.bitsPerPixel.toNat ++ "bpp (virtual " ++ toString fb.var.xresVirtual.toNat
  ++ "x" ++ toString fb.var.yresVirtual.toNat ++ ")"

/-- What `auto` stands for, and what is printed about it. -/
def autoMode (env : Environment) : List String × Mode :=
  let hasDisplay := env.display.getD "" ≠ "" ∨ env.waylandDisplay.getD "" ≠ ""
  if ¬ hasDisplay then
    (["note: DISPLAY/WAYLAND_DISPLAY not set, using ANSI mode "
      ++ "(running under sudo? use `make preview`, or add your user "
      ++ "to the video group and run without sudo)"], .ansi)
  else if env.tk = false then
    (["note: python3-tk not available, using ANSI mode "
      ++ "(sudo apt install python3-tk)"], .ansi)
  else
    ([], .gui)

/-- `main`: the lines on the standard error, and the output. -/
def main (env : Environment) (args : Args) : List String × Output :=
  match selectFb env.openDevice (args.device.getD "") with
  | .error failure => ([], .failed failure)
  | .ok fb =>
      if args.once then
        if args.mode = .ansi then
          ([statusLine fb], runAnsiFrom env args fb true 0 1)
        else
          match runOncePpm fb.var (fb.device.memory 0) with
          | .error error => ([statusLine fb], .failed (.raised error))
          | .ok file => ([statusLine fb], .pixmap file)
      else
        let (notes, mode) := if args.mode = .auto then autoMode env else ([], args.mode)
        if mode = .gui then
          let (guiNotes, shown) := runGui env fb
          if shown then
            (statusLine fb :: notes ++ guiNotes, .window)
          else
            (statusLine fb :: notes ++ guiNotes,
              runAnsiFrom env args fb false (guiReads env) env.rounds)
        else
          (statusLine fb :: notes, runAnsiFrom env args fb false 0 env.rounds)

/-- The image is always too early. -/
theorem runGui_falls_back (env : Environment) (fb : Framebuffer) : (runGui env fb).2 = false := by
  rw [runGui]
  split
  · rfl
  · rw [makeImage]
    cases runOncePpm fb.var (fb.device.memory 0) <;> rfl

/-- The output of a run for a single pixmap. -/
def onceOutput (fb : Framebuffer) : Output :=
  match runOncePpm fb.var (fb.device.memory 0) with
  | .error error => .failed (.raised error)
  | .ok file => .pixmap file

/-- The mode of a run without `--once`. -/
def chosenMode (env : Environment) (args : Args) : Mode :=
  if args.mode = .auto then (autoMode env).2 else args.mode

/-- The output of a run for a session: the attempt at a window costs it the first read. -/
def sessionOutput (env : Environment) (args : Args) (fb : Framebuffer) : Output :=
  if args.once then
    runAnsiFrom env args fb true 0 1
  else if chosenMode env args = .gui then
    runAnsiFrom env args fb false (guiReads env) env.rounds
  else
    runAnsiFrom env args fb false 0 env.rounds

theorem main_eq {env : Environment} {args : Args} {fb : Framebuffer}
    (selects : Selects env.openDevice (args.device.getD "") fb)
    : (main env args).2
      = if args.once = true ∧ args.mode ≠ .ansi then
          onceOutput fb
        else
          sessionOutput env args fb := by
  rw [main, selects.selectFb_ok]
  dsimp only
  cases once : args.once with
  | true =>
      by_cases ansi : args.mode = .ansi
      · rw [if_pos rfl, if_pos ansi, if_neg (fun both => both.2 ansi), sessionOutput, once,
          if_pos rfl]
      · rw [if_pos rfl, if_neg ansi, if_pos ⟨rfl, ansi⟩, onceOutput]
        cases runOncePpm fb.var (fb.device.memory 0) <;> rfl
  | false =>
      have chosen : (if args.mode = .auto then autoMode env else ([], args.mode)).2
          = chosenMode env args := by
        rw [chosenMode]
        split <;> rfl
      have plain : ¬ (false = true ∧ args.mode ≠ .ansi) := fun both => Bool.false_ne_true both.1
      rw [if_neg Bool.false_ne_true, if_neg plain, sessionOutput, once,
        if_neg Bool.false_ne_true, chosen]
      by_cases gui : chosenMode env args = .gui
      · rw [if_pos gui, if_pos gui, runGui_falls_back]
        rfl
      · rw [if_neg gui, if_neg gui]

/-- A run for a pixmap on a screen that the kernel has a record of, and on the memory that its
first read finds.
-/
structure PreviewsOnce (env : Environment) (args : Args) (var : FbVarScreeninfo)
    (memory : List UInt8)
    : Prop where
  once : args.once = true
  pixmap : args.mode ≠ .ansi
  opened
    : ∃ fb others,
        Selects env.openDevice (args.device.getD "") fb
        ∧ fb.device.ioctl = .ok (kernelRecord var others)
        ∧ fb.device.memory 0 = memory

/-- Its output is the file for this memory. -/
theorem PreviewsOnce.main_eq {env : Environment} {args : Args} {var : FbVarScreeninfo}
    {memory file : List UInt8} (previews : PreviewsOnce env args var memory)
    (ran : runOncePpm var memory = .ok file)
    : (main env args).2 = .pixmap file := by
  obtain ⟨fb, others, selects, reported, rfl⟩ := previews.opened
  obtain rfl := selects.var_eq reported
  rw [Fbview.main_eq selects, if_pos ⟨previews.once, previews.pixmap⟩, onceOutput, ran]

/-- The file shows the picture of the frame. -/
theorem PreviewsOnce.main_shows {env : Environment} {args : Args} {var : FbVarScreeninfo}
    {memory : List UInt8} (previews : PreviewsOnce env args var memory) {format : Format}
    (supports : Supports var format)
    (enough : format.bytes * (var.xres.toNat * var.yres.toNat) ≤ (readFrame var memory).length)
    : ∃ file,
        (main env args).2 = .pixmap file
        ∧ readPixmap file = some (framePicture var format (readFrame var memory)) := by
  obtain ⟨file, ran, shown⟩ := supports.runOncePpm_shows enough
  exact ⟨file, previews.main_eq ran, shown⟩

/-- Without a device, a run for a pixmap writes the frame of the first of the numbered
framebuffers that opens, whatever the others are.
-/
theorem main_once_first {env : Environment} {args : Args} (unnamed : args.device.getD "" = "")
    (once : args.once = true) (pixmap : args.mode ≠ .ansi) {index : Nat} (inside : index < 32)
    (missing
      : ∀ earlier < index,
          ∃ text, Framebuffer.init env.openDevice (fbPath earlier) = .error (.osError text))
    {device : FbNode} (present : env.openDevice (fbPath index) = .ok device)
    {var : FbVarScreeninfo} {others : VarName → BitVec 32}
    (reported : device.ioctl = .ok (kernelRecord var others)) {format : Format}
    (supports : Supports var format)
    (enough
      : format.bytes * (var.xres.toNat * var.yres.toNat)
        ≤ (readFrame var (device.memory 0)).length)
    : ∃ file,
        (main env args).2 = .pixmap file
        ∧ readPixmap file = some (framePicture var format (readFrame var (device.memory 0))) := by
  have selects
      : Selects env.openDevice (args.device.getD "") { path := fbPath index, var, device } := by
    rw [unnamed]
    exact .found inside missing (Framebuffer.init_opened present reported)
  have previews : PreviewsOnce env args var (device.memory 0) :=
    ⟨once, pixmap, _, others, selects, reported, rfl⟩
  exact previews.main_shows supports enough

/-- Surroundings in which one path can be opened, in a terminal of the usual size. -/
def oneDevice (path : String) (device : FbNode) : Environment :=
  {
    openDevice := fun other =>
      if other = path then .ok device else .error "No such file or directory"
    display := none
    waylandDisplay := none
    tk := false
    columns := 80
    lines := 24
    rounds := 1
    interrupt := none
    str := fun _ => ""
  }

def onceArgs : Args :=
  {
    device := none
    fps := 10.0
    mode := .auto
    once := true
    maxw := 0
    maxh := 0
    fill := false
  }

/-- A device with a screen of the kernel's and a memory that stays as it is. -/
def recordedDevice (var : FbVarScreeninfo) (memory : List UInt8) : FbNode :=
  {
    ioctl := .ok (kernelRecord var fun _ => 0)
    memory := fun _ => memory
  }

theorem oneDevice_previews (var : FbVarScreeninfo) (memory : List UInt8)
    : PreviewsOnce (oneDevice "/dev/fb0" (recordedDevice var memory)) onceArgs var memory := by
  have present : (oneDevice "/dev/fb0" (recordedDevice var memory)).openDevice (fbPath 0)
      = .ok (recordedDevice var memory) := rfl
  have opened := @Framebuffer.init_opened _ _ _ present var (fun _ => 0) rfl
  refine ⟨rfl, by decide, _, _, .found (by decide) ?_ opened, rfl, rfl⟩
  exact fun _ before => absurd before (Nat.not_lt_zero _)

/-- Witness: the second number opens, on a screen of 2x1 pixels of which the first is white. -/
theorem main_once_first_second
    : let device := recordedDevice (rgb565Screen 2 1) [0xFF, 0xFF, 0, 0]
      ∃ file,
        (main (oneDevice "/dev/fb1" device) onceArgs).2 = .pixmap file
        ∧ (readPixmap file).bind (·.at? 0 0) = some { red := 255, green := 255, blue := 255 } := by
  intro device
  have missing (earlier : Nat) (before : earlier < 1)
      : ∃ text,
          Framebuffer.init (oneDevice "/dev/fb1" device).openDevice (fbPath earlier)
            = .error (.osError text) := by
    obtain rfl : earlier = 0 := by omega
    exact ⟨_, rfl⟩
  let frame := readFrame (rgb565Screen 2 1) [0xFF, 0xFF, 0, 0]
  have white : colourOf (Format.rgb565.colour (block 2 frame 0))
      = { red := 255, green := 255, blue := 255 } := by
    decide
  obtain ⟨file, ran, shown⟩ :=
    @main_once_first (oneDevice "/dev/fb1" device) onceArgs rfl rfl (by decide) 1 (by decide)
      missing device rfl (rgb565Screen 2 1) _ rfl _ (rgb565Screen_standard 2 1).supports (by decide)
  refine ⟨file, ran, ?_⟩
  rw [shown, Option.bind_some]
  exact (Image.at?_ofPixels (by decide) (by decide) _).trans (congrArg some white)

end DummyDrivers.Fbview
