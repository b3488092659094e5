import DummyDrivers.Fb.Screeninfo
import DummyDrivers.Library.KernelCall
import DummyDrivers.Library.Ledger

/-! The fbdev driver: the allocation of its framebuffer with the geometry it announces,
the registration and the unload path, and the deferred-IO callback.
-/

namespace DummyDrivers.Fbdev

open DummyDrivers.Fb
open DummyDrivers.Ledger

structure DummyDisplay where
  xres : BitVec 32
  yres : BitVec 32
  bpp : BitVec 32
  fps : BitVec 32
  rotate : BitVec 32

def display : DummyDisplay := { xres := 480, yres := 320, bpp := 16, fps := 24, rotate := 0 }

/-- What the driver sets and reads of a `struct fb_info`. -/
structure FbInfo where
  fix : FbFixScreeninfo
  var : FbVarScreeninfo

/-- `struct dummy_fb`, as far as its functions ask for it: `info` is set by the allocation
and tested by the unload path.
-/
structure DummyFb where
  info : Option FbInfo

/-- What the driver acquires. The deferred-IO state and the registered framebuffer are
acquired by `fb_deferred_io_init` and `register_framebuffer`.
-/
inductive Resource where
  | chrdevRegion
  | deviceClass
  | device
  | vmem
  | fbops
  | fbdefio
  | fbInfo
  | deferredIo
  | framebuffer
  deriving DecidableEq, Repr

/-- The static struct with the resources taken and returned so far. -/
structure World where
  dfb : DummyFb
  ledger : List (Entry Resource)

def World.zero : World := { dfb := { info := none }, ledger := [] }

def World.acquire (w : World) (resource : Resource) : World :=
  { w with ledger := w.ledger ++ [.acquire resource] }

def World.release (w : World) (resource : Resource) : World :=
  { w with ledger := w.ledger ++ [.release resource] }

/-- The results of the kernel calls of one load attempt, in the order they are made. -/
structure Calls where
  allocChrdevRegion : KernelCall
  classCreate : KernelCall
  deviceCreate : KernelCall
  vzalloc : KernelCall
  kzallocFbops : KernelCall
  kzallocFbdefio : KernelCall
  framebufferAlloc : KernelCall
  registerFramebuffer : KernelCall

def vmemSize : BitVec 32 := display.xres * display.yres * display.bpp / 8

/-- The information that the allocation fills in, on memory zeroed by `framebuffer_alloc`. -/
def dummyFbInfo : FbInfo :=
  {
    fix :=
      {
        type := fbTypePackedPixels
        visual := fbVisualTruecolor
        xpanstep := 0
        ypanstep := 0
        ywrapstep := 0
        lineLength := display.xres * display.bpp / 8
        accel := fbAccelNone
        smemLen := vmemSize
      }
    var :=
      { FbVarScreeninfo.zero with
        rotate := display.rotate
        xres := display.xres
        yres := display.yres
        xresVirtual := display.xres
        yresVirtual := display.yres
        bitsPerPixel := display.bpp
        nonstd := 1
        red := { offset := 11, length := 5 }
        green := { offset := 5, length := 6 }
        blue := { offset := 0, length := 5 } }
  }

/-- The labels `err_free_fbdefio`, `err_free_fbops` and `err_free_vmem`, each falling
through to the next.
-/
def errFreeVmem (w : World) : Int × World := (-enomem, w.release .vmem)

def errFreeFbops (w : World) : Int × World := errFreeVmem (w.release .fbops)

def errFreeFbdefio (w : World) : Int × World := errFreeFbops (w.release .fbdefio)

def dummyFbAlloc (calls : Calls) (w : World) : Int × World :=
  if calls.vzalloc.failed then
    (-enomem, w)
  else
    let w := w.acquire .vmem
    if calls.kzallocFbops.failed then
      errFreeVmem w
    else
      let w := w.acquire .fbops
      if calls.kzallocFbdefio.failed then
        errFreeFbops w
      else
        let w := w.acquire .fbdefio
        if calls.framebufferAlloc.failed then
          errFreeFbdefio w
        else
          let w := w.acquire .fbInfo
          let w := { w with dfb := { w.dfb with info := some dummyFbInfo } }
          let w := w.acquire .deferredIo
          if calls.registerFramebuffer.ret < 0 then
            -- The source returns here without going to a label.
            (-1, w)
          else
            (0, w.acquire .framebuffer)

/-- The labels `out_dev`, `out_class` and `out_dev_num`, each falling through to the next. -/
def outDevNum (w : World) : Int × World := (-enodev, w.release .chrdevRegion)

def outClass (w : World) : Int × World := outDevNum (w.release .deviceClass)

def outDev (w : World) : Int × World := outClass (w.release .device)

def dummyFbDrvRegister (calls : Calls) (w : World) : Int × World :=
  if calls.allocChrdevRegion.ret < 0 then
    (calls.allocChrdevRegion.ret, w)
  else
    let w := w.acquire .chrdevRegion
    if calls.classCreate.failed then
      outDevNum w
    else
      let w := w.acquire .deviceClass
      if calls.deviceCreate.failed then
        outClass w
      else
        let w := w.acquire .device
        let (rc, w) := dummyFbAlloc calls w
        if rc < 0 then outDev w else (0, w)

def dummyFbDrvUnregister (w : World) : World :=
  let w :=
    if w.dfb.info.isSome then
      ((w.release .deferredIo).release .framebuffer |>.release .vmem).release .fbInfo
    else
      w
  ((w.release .device).release .deviceClass).release .chrdevRegion

/-- `PAGE_SIZE`, an `unsigned long`. -/
def pageSize : BitVec 64 := 4096

structure DirtyArea where
  x1 : BitVec 32
  y1 : BitVec 32
  x2 : BitVec 32
  y2 : BitVec 32
  deriving DecidableEq, Repr

/-- `pageref->offset / line_length`, divided as `unsigned long` and stored as `uint`. -/
def yCur (info : FbInfo) (offset : BitVec 64) : BitVec 32 :=
  (offset / info.fix.lineLength.setWidth 64).setWidth 32

/-- The value of `y_end` after the body's first test. -/
def yEnd (info : FbInfo) (offset : BitVec 64) : BitVec 32 :=
  let yEnd := ((offset + pageSize) / info.fix.lineLength.setWidth 64).setWidth 32
  if info.var.yres - 1 < yEnd then info.var.yres - 1 else yEnd

/-- The body of the loop over the page list, on the area and the local `y_end`. -/
def scanPage (info : FbInfo) (scan : DirtyArea × BitVec 32) (offset : BitVec 64)
    : DirtyArea × BitVec 32 :=
  let area := scan.1
  let area := if yCur info offset < area.y1 then { area with y1 := yCur info offset } else area
  let area := if area.y2 < yEnd info offset then { area with y2 := yEnd info offset } else area
  (area, yEnd info offset)

/-- `dummy_fb_deferred_io` on the offsets of the page list. The local `y_end` starts as
whatever the stack holds, `uninit`.
-/
def dummyFbDeferredIo (uninit : BitVec 32) (info : FbInfo) (pagereflist : List (BitVec 64))
    : DirtyArea :=
  let area : DirtyArea := { x1 := 0, y1 := info.var.yres - 1, x2 := 0, y2 := 0 }
  let (area, yEnd) := pagereflist.foldl (scanPage info) (area, uninit)
  if 1 < yEnd then { area with x2 := info.var.xres - 1 } else area

end DummyDrivers.Fbdev
