import DummyDrivers.Library.KernelCall
import DummyDrivers.Library.Ledger

/-! The i2c driver: the device struct, the register writes, the interrupt handler's byte
loop, the transfer of a list of messages, and the registration of the adapter.
-/

namespace DummyDrivers.I2c

open DummyDrivers.Ledger

def i2cMRd : BitVec 16 := 0x0001

def i2cMTen : BitVec 16 := 0x0010

/-- A `struct i2c_msg`: its buffer has at least the bytes that `len` announces. -/
structure I2cMsg where
  addr : BitVec 16
  flags : BitVec 16
  len : BitVec 16
  buf : List UInt8
  fits : len.toNat ≤ buf.length

/-- `msg->buf[index] = byte`. -/
def I2cMsg.store (msg : I2cMsg) (index : Nat) (byte : UInt8) : I2cMsg :=
  { msg with buf := msg.buf.set index byte, fits := by simpa using msg.fits }

/-- The fields of `struct dummy_i2c_regs`, one for each register of the controller. -/
inductive DummyI2cReg where
  | addr
  | xaddr
  | data
  | cntr
  | stat
  | ccr
  | srst
  | efr
  | lcr
  deriving DecidableEq, Repr

/-- A `struct dummy_i2c_regs`: the offset of each register. -/
abbrev DummyI2cRegs := DummyI2cReg → BitVec 8

def dummyI2cRegsVariant0 : DummyI2cRegs
  | .addr => 0x00
  | .xaddr => 0x04
  | .data => 0x08
  | .cntr => 0x0c
  | .stat => 0x10
  | .ccr => 0x14
  | .srst => 0x18
  | .efr => 0x1c
  | .lcr => 0x20

/-- `struct dummy_i2c`. The message pointers are positions in `msgs`, and the completion
is its `done` counter.
-/
structure DummyI2c where
  dir : BitVec 32
  addr : BitVec 32
  xaddr : BitVec 32
  cntrBits : BitVec 32
  byteLeft : BitVec 32
  bytePos : BitVec 32
  busFreq : BitVec 32
  regOffsets : DummyI2cRegs
  adapterTimeout : Nat
  currMsg : Nat
  msgs : List I2cMsg
  mumMsgs : Int
  complete : Nat

/-- The static device of a freshly loaded module: every field is zero. -/
def DummyI2c.zero : DummyI2c :=
  {
    dir := 0
    addr := 0
    xaddr := 0
    cntrBits := 0
    byteLeft := 0
    bytePos := 0
    busFreq := 0
    regOffsets := fun _ => 0
    adapterTimeout := 0
    currMsg := 0
    msgs := []
    mumMsgs := 0
    complete := 0
  }

/-- What a call shows outside the driver, in order: register writes, accesses to message
buffers, and the log lines that mark a message, a byte or a hardware initialisation. A
byte's log line reads the buffer once more.
-/
inductive Event where
  | regWrite (reg : DummyI2cReg) (offset val : BitVec 32)
  | load (msg index : Nat)
  | store (msg index : Nat) (byte : UInt8)
  | logByte (msg index : Nat)
  | logStart (msg : Nat) (addr : BitVec 16)
  | logHwInit
  deriving DecidableEq

inductive Resource where
  | chrdevRegion
  | deviceClass
  | device
  | adapter
  deriving DecidableEq, Repr

/-- The device with the trace it has left, the number of random bytes it has drawn, and
the resources it has taken and returned.
-/
structure World where
  i2c : DummyI2c
  trace : List Event
  drawn : Nat
  ledger : List (Entry Resource)

def World.zero : World := { i2c := .zero, trace := [], drawn := 0, ledger := [] }

def World.emit (w : World) (events : List Event) : World :=
  { w with trace := w.trace ++ events }

def World.post (w : World) (entry : Entry Resource) : World :=
  { w with ledger := w.ledger ++ [entry] }

def dummyI2cRegControlBusEn : BitVec 32 := 1 <<< 6

def dummyI2cRegControlMSta : BitVec 32 := 1 <<< 5

def dummyI2cRegControlMStp : BitVec 32 := 1 <<< 4

def dummyI2cRegControlIntFlag : BitVec 32 := 1 <<< 3

def dummyI2cRegSrstSoftReset : BitVec 32 := 1 <<< 0

def dummyI2cBusClockNormal : BitVec 32 := 100000

def dummyI2cRegClockM (clkm : BitVec 32) : BitVec 32 := (0xf &&& clkm) <<< 3

def dummyI2cRegClockN (clkn : BitVec 32) : BitVec 32 := 0x7 &&& clkn

def dummyI2cSpeed100k : BitVec 32 := dummyI2cRegClockM 2 ||| dummyI2cRegClockN 11

/-- A call `dummy_i2c_write(i2c, i2c->reg_offsets.reg, val)`. -/
def dummyI2cWrite (w : World) (reg : DummyI2cReg) (val : BitVec 32) : World :=
  w.emit [.regWrite reg ((w.i2c.regOffsets reg).setWidth 32) val]

def dummyI2cSoftReset (w : World) : World := dummyI2cWrite w .srst dummyI2cRegSrstSoftReset

/-- Any frequency but the normal one is only warned about. -/
def dummyI2cSetBusFreq (w : World) (busFreq : BitVec 32) : World :=
  let w :=
    if busFreq = dummyI2cBusClockNormal then
      { w with i2c := { w.i2c with busFreq := dummyI2cSpeed100k } }
    else
      w
  dummyI2cWrite w .ccr w.i2c.busFreq

def dummyI2cHwInit (w : World) : World :=
  let w := dummyI2cSoftReset (w.emit [.logHwInit])
  let w := dummyI2cSetBusFreq w dummyI2cBusClockNormal
  let w := dummyI2cWrite w .addr 0
  let w := dummyI2cWrite w .xaddr 0
  let w := dummyI2cWrite w .cntr 0
  let w :=
    { w with i2c := { w.i2c with cntrBits := w.i2c.cntrBits ||| dummyI2cRegControlBusEn } }
  dummyI2cWrite w .cntr (w.i2c.cntrBits ||| dummyI2cRegControlMStp)

def dummyI2cSendStop (w : World) : World :=
  let w := dummyI2cWrite w .cntr (w.i2c.cntrBits ||| dummyI2cRegControlMStp)
  { w with i2c := { w.i2c with complete := w.i2c.complete + 1 } }

def dummyI2cClearIrq (w : World) : World :=
  let w :=
    { w with
      i2c := { w.i2c with cntrBits := w.i2c.cntrBits &&& ~~~dummyI2cRegControlIntFlag } }
  dummyI2cWrite w .cntr w.i2c.cntrBits

def dummyI2cBusDirWr : BitVec 32 := 0x00

def dummyI2cBusDirRd : BitVec 32 := 0x01

def dummyI2cAddr (addr : BitVec 16) : BitVec 32 := (0xff &&& addr.setWidth 32) <<< 1

section

/- The stream that `get_random_u8` draws from. -/
variable (random : Nat → UInt8)

/-- The body of the handler's loop at the current position, with its log line. A position
outside the buffer reads as zero and stores nothing; the events still show it.
-/
def transferByte (w : World) : World :=
  let msg := w.i2c.currMsg
  let pos := w.i2c.bytePos.toNat
  let w :=
    if w.i2c.dir = dummyI2cBusDirWr then
      let byte := ((w.i2c.msgs[msg]?.map I2cMsg.buf).getD []).getD pos 0
      dummyI2cWrite (w.emit [.load msg pos]) .data (byte.toBitVec.setWidth 32)
    else
      let byte := random w.drawn
      let w :=
        { w with
          drawn := w.drawn + 1
          i2c := { w.i2c with msgs := w.i2c.msgs.modify msg (·.store pos byte) } }
      w.emit [.store msg pos byte]
  w.emit [.logByte msg pos]

/-- `for (; i2c->byte_left--; i2c->byte_pos++)`, entered with that many bytes left: the
test decrements the counter in every case, also where it ends the loop.
-/
def isrLoop : Nat → World → World
  | 0, w => { w with i2c := { w.i2c with byteLeft := w.i2c.byteLeft - 1 } }
  | left + 1, w =>
      let w := { w with i2c := { w.i2c with byteLeft := w.i2c.byteLeft - 1 } }
      let w := transferByte random w
      isrLoop left { w with i2c := { w.i2c with bytePos := w.i2c.bytePos + 1 } }

def dummyI2cIsr (w : World) : World :=
  dummyI2cClearIrq (dummyI2cSendStop (isrLoop random w.i2c.byteLeft.toNat w))

/-- The device with a message latched: counters, direction and slave address. -/
def latchMsg (i2c : DummyI2c) (index : Nat) (msg : I2cMsg) : DummyI2c :=
  let dir := if msg.flags &&& i2cMRd ≠ 0 then dummyI2cBusDirRd else dummyI2cBusDirWr
  {
    i2c with
    byteLeft := msg.len.setWidth 32
    currMsg := index
    bytePos := 0
    dir
    addr := dummyI2cAddr msg.addr ||| dir
    xaddr := if msg.flags &&& i2cMTen ≠ 0 then msg.addr.setWidth 32 &&& 0xff else 0
  }

/-- `dummy_i2c_send_start(i2c, &msgs[index])`, which ends by running the handler. -/
def dummyI2cSendStart (w : World) (index : Nat) (msg : I2cMsg) : World :=
  let w := { w with i2c := latchMsg w.i2c index msg }
  let w := w.emit [.logStart index msg.addr]
  let w := dummyI2cWrite w .cntr (w.i2c.cntrBits ||| dummyI2cRegControlMSta)
  dummyI2cIsr random w

/-- A timed wait: a positive counter is decremented and the time left is returned, which
is then at least one jiffy; with a zero counter nobody else completes and time runs out.
-/
def waitForCompletionTimeout (complete timeout : Nat) : Nat × Nat :=
  if 0 < complete then (max timeout 1, complete - 1) else (0, complete)

/-- One round of the message loop. -/
def doMsg (w : World) (index : Nat) : World :=
  match w.i2c.msgs[index]? with
  | none => w
  | some msg =>
      let w := { w with i2c := { w.i2c with complete := 0 } }
      let w := dummyI2cSendStart random w index msg
      let (timeLeft, complete) := waitForCompletionTimeout w.i2c.complete w.i2c.adapterTimeout
      let w := { w with i2c := { w.i2c with complete } }
      if timeLeft = 0 then dummyI2cHwInit w else w

def dummyI2cDoMsgs (w : World) : World :=
  (List.range w.i2c.mumMsgs.toNat).foldl (doMsg random) w

def dummyI2cXfer (w : World) (msgs : List I2cMsg) (num : Int) : Int × World :=
  (num, dummyI2cDoMsgs random { w with i2c := { w.i2c with mumMsgs := num, msgs } })

end

/-- The results of the kernel calls of one registration, in the order they are made. -/
structure RegisterCalls where
  allocChrdevRegion : KernelCall
  classCreate : KernelCall
  deviceCreate : KernelCall
  i2cAddAdapter : KernelCall

/-- The labels `err_free_dev`, `err_free_class` and `err_free_dev_num`, each falling
through to the next.
-/
def errFreeDevNum (w : World) : Int × World := (-enodev, w.post (.release .chrdevRegion))

def errFreeClass (w : World) : Int × World := errFreeDevNum (w.post (.release .deviceClass))

def errFreeDev (w : World) : Int × World :=
  errFreeClass ((w.post (.release .adapter)).post (.release .device))

/-- `dummy_i2c_register`; `msecsToJiffies` is the kernel's conversion. -/
def dummyI2cRegister (msecsToJiffies : Nat → Nat) (calls : RegisterCalls) (w : World)
    : Int × World :=
  if calls.allocChrdevRegion.ret ≠ 0 then
    (calls.allocChrdevRegion.ret, w)
  else
    let w := w.post (.acquire .chrdevRegion)
    if calls.classCreate.failed then
      errFreeDevNum w
    else
      let w := w.post (.acquire .deviceClass)
      if calls.deviceCreate.failed then
        errFreeClass w
      else
        let w := w.post (.acquire .device)
        let w :=
          { w with
            i2c := { w.i2c with adapterTimeout := msecsToJiffies 50, complete := 0 } }
        let w := dummyI2cHwInit w
        if calls.i2cAddAdapter.ret ≠ 0 then
          errFreeDev w
        else
          (0, w.post (.acquire .adapter))

def dummyI2cUnregister (w : World) : Int × World :=
  let w := (w.post (.release .adapter)).post (.release .device)
  (0, (w.post (.release .deviceClass)).post (.release .chrdevRegion))

end DummyDrivers.I2c
