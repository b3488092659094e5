import DummyDrivers.I2c.Transfer

/-! What a transfer on a registered adapter promises for each message of its list. The
control bits of every registered device hold the bus enable bit alone, so that clearing
the interrupt flag changes nothing.
-/

namespace DummyDrivers.I2c

/-- A write to a register, at the offset that the device holds for it. -/
def DummyI2c.written (i2c : DummyI2c) (reg : DummyI2cReg) (val : BitVec 32)
    : DummyI2cReg × BitVec 32 × BitVec 32 :=
  (reg, (i2c.regOffsets reg).setWidth 32, val)

/-- What one message shows and becomes: its start, one access and one log line for each
index in ascending order, and by direction its bytes and the register writes.
-/
structure Served (random : Nat → UInt8) (i2c : DummyI2c) (drawn index : Nat)
    (before after : I2cMsg) (shown : List Event) : Prop where
  started : shown.filterMap Event.started? = [index]
  accessed
    : shown.filterMap Event.accessed? = (List.range before.len.toNat).map (fun i => (index, i))
  logged
    : shown.filterMap Event.logged? = (List.range before.len.toNat).map (fun i => (index, i))
  header : after.addr = before.addr ∧ after.flags = before.flags ∧ after.len = before.len
  write
    : before.isRead = false
      → after.buf = before.buf
        ∧ shown.filterMap Event.written?
          = [i2c.written .cntr (i2c.cntrBits ||| dummyI2cRegControlMSta)]
            ++ before.payload.map (fun byte => i2c.written .data (byte.toBitVec.setWidth 32))
            ++ [
              i2c.written .cntr (i2c.cntrBits ||| dummyI2cRegControlMStp),
              i2c.written .cntr i2c.cntrBits
            ]
  read
    : before.isRead = true
      → after.buf
        = (List.range before.len.toNat).map (fun i => random (drawn + i))
          ++ before.buf.drop before.len.toNat
        ∧ shown.filterMap Event.written?
          = [
            i2c.written .cntr (i2c.cntrBits ||| dummyI2cRegControlMSta),
            i2c.written .cntr (i2c.cntrBits ||| dummyI2cRegControlMStp),
            i2c.written .cntr i2c.cntrBits
          ]
  inTime : .logHwInit ∉ shown

/-- The payload by index. -/
theorem I2cMsg.payload_eq (msg : I2cMsg)
    : msg.payload = (List.range msg.len.toNat).map (fun i => msg.buf.getD i 0) := by
  have fits := msg.fits
  apply List.ext_getElem
  · simp [I2cMsg.payload, fits]
  · intro index short long
    simp only [List.length_map, List.length_range] at long
    simp [I2cMsg.payload, List.getElem?_eq_getElem (show index < msg.buf.length by omega)]

section

variable (random : Nat → UInt8)

/-- A view of a segment, part by part. -/
theorem segment_filterMap {Item : Type*} (view : Event → Option Item) (i2c : DummyI2c)
    (drawn index : Nat) (msg : I2cMsg)
    : (segment random i2c drawn index msg).filterMap view
      = [
          .logStart index msg.addr,
          i2c.regWrite .cntr (i2c.cntrBits ||| dummyI2cRegControlMSta)
        ].filterMap view
        ++ (List.range msg.len.toNat).flatMap
            (fun i => (byteEvents random i2c drawn index msg i).filterMap view)
        ++ [
          i2c.regWrite .cntr (i2c.cntrBits ||| dummyI2cRegControlMStp),
          i2c.regWrite .cntr i2c.cntrBits
        ].filterMap view := by
  simp only [segment, List.filterMap_append, List.filterMap_flatMap]

/-- A segment serves its message. -/
theorem segment_served (i2c : DummyI2c) (drawn index : Nat) (msg : I2cMsg)
    : Served random i2c drawn index msg (msg.transferred random drawn)
        (segment random i2c drawn index msg) := by
  constructor
  case started =>
    rw [segment_filterMap]
    cases read : msg.isRead <;>
      simp [byteEvents, read, List.filterMap_cons, Event.started?, DummyI2c.regWrite]
  case accessed =>
    rw [segment_filterMap]
    cases read : msg.isRead <;>
      simp [byteEvents, read, List.filterMap_cons, Event.accessed?, DummyI2c.regWrite,
        List.map_eq_flatMap]
  case logged =>
    rw [segment_filterMap]
    cases read : msg.isRead <;>
      simp [byteEvents, read, List.filterMap_cons, Event.logged?, DummyI2c.regWrite,
        List.map_eq_flatMap]
  case header =>
    unfold I2cMsg.transferred
    split <;> simp
  case write =>
    intro write
    refine ⟨by simp [I2cMsg.transferred, write], ?_⟩
    rw [segment_filterMap, I2cMsg.payload_eq]
    simp [byteEvents, write, List.filterMap_cons, Event.written?, DummyI2c.regWrite,
      DummyI2c.written, List.map_eq_flatMap, List.flatMap_assoc]
  case read =>
    intro read
    constructor
    · rw [I2cMsg.transferred, if_pos read, I2cMsg.fill_buf random _ _ _ _ (by simpa using msg.fits)]
      simp
    · rw [segment_filterMap]
      simp [byteEvents, read, List.filterMap_cons, Event.written?, DummyI2c.regWrite,
        DummyI2c.written]
  case inTime =>
    cases read : msg.isRead <;> simp [segment, byteEvents, read, DummyI2c.regWrite]

/-- The states of a device between a successful registration and any transfers after it. -/
inductive Registered : World → Prop where
  | register (msecsToJiffies : Nat → Nat) (calls : RegisterCalls)
    (ok : (dummyI2cRegister msecsToJiffies calls .zero).1 = 0)
    : Registered (dummyI2cRegister msecsToJiffies calls .zero).2
  | xfer {w} (registered : Registered w) (msgs : List I2cMsg)
    : Registered (dummyI2cXfer random w msgs msgs.length).2

/-- The control bits and the register offsets of every registered device. -/
structure Ready (w : World) : Prop where
  cntrBits : w.i2c.cntrBits = dummyI2cRegControlBusEn
  regOffsets : w.i2c.regOffsets = fun _ => 0

theorem Ready.enabled {w : World} (ready : Ready w)
    : w.i2c.cntrBits &&& ~~~dummyI2cRegControlIntFlag = w.i2c.cntrBits := by
  rw [ready.cntrBits]
  rfl

theorem dummyI2cHwInit_i2c (w : World)
    : (dummyI2cHwInit w).i2c
      = { w.i2c with
          busFreq := dummyI2cSpeed100k
          cntrBits := w.i2c.cntrBits ||| dummyI2cRegControlBusEn } := by
  simp [dummyI2cHwInit, dummyI2cSoftReset, dummyI2cSetBusFreq, dummyI2cWrite, World.emit]

/-- Nothing that registration calls assigns an offset. -/
theorem dummyI2cRegister_ready {msecsToJiffies : Nat → Nat} {calls : RegisterCalls}
    (ok : (dummyI2cRegister msecsToJiffies calls .zero).1 = 0)
    : Ready (dummyI2cRegister msecsToJiffies calls .zero).2 := by
  revert ok
  unfold dummyI2cRegister
  dsimp only
  split
  · intro ok
    contradiction
  · split
    · simp [errFreeDevNum, enodev]
    · split
      · simp [errFreeClass, errFreeDevNum, enodev]
      · split
        · simp [errFreeDev, errFreeClass, errFreeDevNum, enodev]
        · intro _
          constructor <;> simp [dummyI2cHwInit_i2c, World.post, World.zero, DummyI2c.zero]

/-- The state in which the message loop of a transfer starts. -/
def World.given (w : World) (msgs : List I2cMsg) : World :=
  { w with i2c := { w.i2c with mumMsgs := msgs.length, msgs } }

/-- What a transfer does from a state whose interrupt flag is clear. -/
theorem dummyI2cXfer_transferred {w : World}
    (enabled : w.i2c.cntrBits &&& ~~~dummyI2cRegControlIntFlag = w.i2c.cntrBits)
    (msgs : List I2cMsg)
    : Transferred random msgs msgs.length (w.given msgs)
        (dummyI2cXfer random w msgs msgs.length).2 := by
  exact foldl_transferred random (w.given msgs) enabled rfl le_rfl

theorem Registered.ready {w : World} (registered : Registered random w) : Ready w := by
  induction registered with
  | register msecsToJiffies calls ok => exact dummyI2cRegister_ready ok
  | xfer registered msgs ready =>
      have done := dummyI2cXfer_transferred random ready.enabled msgs
      exact ⟨done.cntrBits.trans ready.cntrBits, done.regOffsets.trans ready.regOffsets⟩

/-- After the last round every message is the transferred one. -/
theorem Transferred.final {msgs : List I2cMsg} {before after : World}
    (done : Transferred random msgs msgs.length before after)
    : after.i2c.msgs = transferredMsgs random before.drawn msgs := by
  apply List.ext_getElem?
  intro index
  rw [done.contents]
  split
  · rfl
  · next beyond =>
      rw [List.getElem?_eq_none (by omega), List.getElem?_eq_none]
      simpa [transferredMsgs] using beyond

/-- A transfer shows one segment for each message, in list order, and every message is
served by its own segment with the random bytes that follow those of earlier messages.
-/
structure TransferServes (before : World) (msgs : List I2cMsg) (ret : Int) (after : World)
    (shown : List (List Event)) : Prop where
  ret_eq : ret = msgs.length
  trace : after.trace = before.trace ++ shown.flatten
  shownLength : shown.length = msgs.length
  msgsLength : after.i2c.msgs.length = msgs.length
  served
    : ∀ index msg msg' segment,
        msgs[index]? = some msg
        → after.i2c.msgs[index]? = some msg'
        → shown[index]? = some segment
        → Served random before.i2c (before.drawn + drawnBefore msgs index) index msg msg'
            segment
  cntrBits : after.i2c.cntrBits = before.i2c.cntrBits
  drawn : after.drawn = before.drawn + drawnBefore msgs msgs.length

/-- Every transfer on a registered adapter serves all its messages. Witness: the segments
of the messages, each of which the byte loop and the wait leave as described.
-/
theorem dummyI2cXfer_serves {w : World} (registered : Registered random w)
    (msgs : List I2cMsg)
    : ∃ shown,
        TransferServes random w msgs (dummyI2cXfer random w msgs msgs.length).1
          (dummyI2cXfer random w msgs msgs.length).2 shown := by
  have done := dummyI2cXfer_transferred random registered.ready.enabled msgs
  have shownLength : (segments random w.i2c w.drawn msgs).length = msgs.length := by
    simp [segments]
  refine ⟨segments random w.i2c w.drawn msgs, ?_⟩
  constructor
  case ret_eq => rfl
  case trace =>
    rw [done.trace, List.take_of_length_le]
    · rfl
    · exact shownLength.le
  case shownLength => exact shownLength
  case msgsLength => simp [done.final, transferredMsgs]
  case served =>
    intro index msg msg' segment given stored shown
    rw [done.final] at stored
    simp only [transferredMsgs, segments, List.getElem?_mapIdx, given, Option.map_some,
      Option.some.injEq] at stored shown
    subst stored shown
    exact segment_served random _ _ _ _
  case cntrBits => exact done.cntrBits
  case drawn => exact done.drawn

end

/-- A message for the slave 0x50 with exactly these bytes in its buffer. -/
def i2cMsg (flags : BitVec 16) (buf : List UInt8) : I2cMsg :=
  {
    addr := 0x50
    flags
    len := BitVec.ofNat 16 buf.length
    buf
    fits := by simpa using Nat.mod_le _ _
  }

/-- A registration in which every kernel call succeeds. -/
def registerCalls : RegisterCalls :=
  { allocChrdevRegion := none, classCreate := none, deviceCreate := none, i2cAddAdapter := none }

/-- Witness: a write, an empty write and a read on a freshly registered adapter. -/
theorem dummyI2cXfer_serves_mixed
    : let w := (dummyI2cRegister id registerCalls .zero).2
      let msgs := [i2cMsg 0 [1, 2, 3], i2cMsg 0 [], i2cMsg i2cMRd [9, 9]]
      let result := dummyI2cXfer UInt8.ofNat w msgs msgs.length
      result.2.i2c.msgs.map I2cMsg.buf = [[1, 2, 3], [], [0, 1]]
      ∧ ∃ shown, TransferServes UInt8.ofNat w msgs result.1 result.2 shown :=
  ⟨rfl, dummyI2cXfer_serves UInt8.ofNat (.register id registerCalls rfl) _⟩

end DummyDrivers.I2c
