import DummyDrivers.I2c.Device
import Mathlib.Algebra.Ring.Nat

/-! What a transfer does to the messages, the registers and the random source, message by
message and byte by byte. One lemma says all that a round of the message loop changes.
-/

namespace DummyDrivers.I2c

-----------------------------------------------------------------------------------------
-- Reading a trace
-----------------------------------------------------------------------------------------

/-- The message an event starts. -/
def Event.started? : Event → Option Nat
  | .logStart msg _ => some msg
  | _ => none

/-- The message and the index that a byte transfer touches. -/
def Event.accessed? : Event → Option (Nat × Nat)
  | .load msg index => some (msg, index)
  | .store msg index _ => some (msg, index)
  | _ => none

/-- The message and the index that a byte's log line reads again. -/
def Event.logged? : Event → Option (Nat × Nat)
  | .logByte msg index => some (msg, index)
  | _ => none

/-- The register, the offset and the value of a register write. -/
def Event.written? : Event → Option (DummyI2cReg × BitVec 32 × BitVec 32)
  | .regWrite reg offset val => some (reg, offset, val)
  | _ => none

def I2cMsg.isRead (msg : I2cMsg) : Bool := msg.flags &&& i2cMRd ≠ 0

/-- The bytes that `len` announces. -/
def I2cMsg.payload (msg : I2cMsg) : List UInt8 := msg.buf.take msg.len.toNat

/-- How many bytes of the random source a message takes. -/
def I2cMsg.draws (msg : I2cMsg) : Nat := if msg.isRead then msg.len.toNat else 0

/-- The event of a register write, at the offset the device holds for the register. -/
def DummyI2c.regWrite (i2c : DummyI2c) (reg : DummyI2cReg) (val : BitVec 32) : Event :=
  .regWrite reg ((i2c.regOffsets reg).setWidth 32) val

section

variable (random : Nat → UInt8)

-----------------------------------------------------------------------------------------
-- The byte loop
-----------------------------------------------------------------------------------------

/-- The message after `count` bytes from `pos` on are stored from the random source. -/
def I2cMsg.fill (msg : I2cMsg) (pos drawn : Nat) : Nat → I2cMsg
  | 0 => msg
  | count + 1 => (msg.store pos (random drawn)).fill (pos + 1) (drawn + 1) count

/-- The byte that the device reads at a position of its current message. -/
def DummyI2c.byteAt (i2c : DummyI2c) (pos : Nat) : UInt8 :=
  ((i2c.msgs[i2c.currMsg]?.map I2cMsg.buf).getD []).getD pos 0

/-- What the handler's loop shows at a position of a write message. -/
def sentByte (i2c : DummyI2c) (pos : Nat) : List Event :=
  [
    .load i2c.currMsg pos,
    i2c.regWrite .data ((i2c.byteAt pos).toBitVec.setWidth 32),
    .logByte i2c.currMsg pos
  ]

/-- What the handler's loop shows at a position of a read message. -/
def receivedByte (i2c : DummyI2c) (pos drawn : Nat) : List Event :=
  [.store i2c.currMsg pos (random drawn), .logByte i2c.currMsg pos]

@[simp] theorem I2cMsg.fill_addr (msg : I2cMsg) (pos drawn count : Nat)
    : (msg.fill random pos drawn count).addr = msg.addr := by
  induction count generalizing msg pos drawn with
  | zero => rfl
  | succ count ih => exact ih _ _ _

@[simp] theorem I2cMsg.fill_flags (msg : I2cMsg) (pos drawn count : Nat)
    : (msg.fill random pos drawn count).flags = msg.flags := by
  induction count generalizing msg pos drawn with
  | zero => rfl
  | succ count ih => exact ih _ _ _

@[simp] theorem I2cMsg.fill_len (msg : I2cMsg) (pos drawn count : Nat)
    : (msg.fill random pos drawn count).len = msg.len := by
  induction count generalizing msg pos drawn with
  | zero => rfl
  | succ count ih => exact ih _ _ _

/-- The filled positions hold the next bytes of the source, in order. -/
theorem I2cMsg.fill_buf (msg : I2cMsg) (pos drawn count : Nat)
    (inside : pos + count ≤ msg.buf.length)
    : (msg.fill random pos drawn count).buf
      = msg.buf.take pos ++ (List.range count).map (fun i => random (drawn + i))
        ++ msg.buf.drop (pos + count) := by
  induction count generalizing msg pos drawn with
  | zero => simp [I2cMsg.fill]
  | succ count ih =>
      have step := ih (msg.store pos (random drawn)) (pos + 1) (drawn + 1)
        (by simp only [I2cMsg.store, List.length_set]; omega)
      have taken : (msg.buf.set pos (random drawn)).take (pos + 1)
          = msg.buf.take pos ++ [random drawn] := by
        rw [List.set_eq_take_append_cons_drop, if_pos (by omega), List.take_append]
        simp [List.take_take, Nat.min_eq_left (show pos ≤ msg.buf.length by omega)]
      have dropped : (msg.buf.set pos (random drawn)).drop (pos + 1 + count)
          = msg.buf.drop (pos + (count + 1)) := by
        rw [List.drop_set_of_lt (by omega)]
        congr 1
        omega
      rw [I2cMsg.fill, step, I2cMsg.store, taken, dropped, List.range_succ_eq_map]
      simp [Function.comp_def, Nat.add_assoc, Nat.add_comm 1]

/-- The state after one round of the loop that leaves the messages alone. -/
def World.sent (w : World) : World :=
  { w with
    i2c := { w.i2c with byteLeft := w.i2c.byteLeft - 1#32, bytePos := w.i2c.bytePos + 1#32 }
    trace := w.trace ++ sentByte w.i2c w.i2c.bytePos.toNat }

/-- The state after one round of the loop that stores a random byte. -/
def World.received (w : World) : World :=
  {
    w with
    i2c :=
      { w.i2c with
        byteLeft := w.i2c.byteLeft - 1#32
        bytePos := w.i2c.bytePos + 1#32
        msgs :=
          w.i2c.msgs.modify w.i2c.currMsg (·.store w.i2c.bytePos.toNat (random w.drawn)) }
    trace := w.trace ++ receivedByte random w.i2c w.i2c.bytePos.toNat w.drawn
    drawn := w.drawn + 1
  }

theorem isrLoop_succ_write (left : Nat) {w : World} (dir : w.i2c.dir = dummyI2cBusDirWr)
    : isrLoop random (left + 1) w = isrLoop random left w.sent := by
  simp [isrLoop, transferByte, dir, World.sent, World.emit, dummyI2cWrite, sentByte,
    DummyI2c.byteAt, DummyI2c.regWrite]

theorem isrLoop_succ_read (left : Nat) {w : World} (dir : w.i2c.dir ≠ dummyI2cBusDirWr)
    : isrLoop random (left + 1) w = isrLoop random left (w.received random) := by
  simp [isrLoop, transferByte, dir, World.received, World.emit, receivedByte]

theorem bytePos_succ {i2c : DummyI2c} {left : Nat}
    (bound : i2c.bytePos.toNat + (left + 1) < 2 ^ 32)
    : (i2c.bytePos + 1#32).toNat = i2c.bytePos.toNat + 1 := by
  rw [BitVec.toNat_add]
  exact Nat.mod_eq_of_lt (by simp; omega)

/-- In write direction the loop sends the bytes from the position on and leaves the
messages alone. The counters it leaves behind are set anew for the next message.
-/
theorem isrLoop_write (left : Nat) (w : World) (dir : w.i2c.dir = dummyI2cBusDirWr)
    (bound : w.i2c.bytePos.toNat + left < 2 ^ 32)
    : ∃ byteLeft bytePos,
        isrLoop random left w
        = { w with
            i2c := { w.i2c with byteLeft, bytePos }
            trace :=
              w.trace
              ++ (List.range left).flatMap (fun i => sentByte w.i2c (w.i2c.bytePos.toNat + i)) }
    := by
  induction left generalizing w with
  | zero => exact ⟨w.i2c.byteLeft - 1, w.i2c.bytePos, by simp [isrLoop]⟩
  | succ left ih =>
      have moved := bytePos_succ bound
      obtain ⟨byteLeft, bytePos, same⟩ :=
        ih w.sent dir (by simp only [World.sent, moved]; omega)
      refine ⟨byteLeft, bytePos, ?_⟩
      rw [isrLoop_succ_write random left dir, same, List.range_succ_eq_map]
      simp [-BitVec.toNat_add, World.sent, moved, List.flatMap_map, Nat.add_assoc,
        Nat.add_comm 1, sentByte, DummyI2c.byteAt, DummyI2c.regWrite]

/-- In read direction the loop fills the message from the position on with the next bytes
of the source.
-/
theorem isrLoop_read (left : Nat) (w : World) (dir : w.i2c.dir ≠ dummyI2cBusDirWr)
    (bound : w.i2c.bytePos.toNat + left < 2 ^ 32)
    : ∃ byteLeft bytePos,
        isrLoop random left w
        = {
            w with
            i2c :=
              { w.i2c with
                byteLeft
                bytePos
                msgs :=
                  w.i2c.msgs.modify w.i2c.currMsg
                    (·.fill random w.i2c.bytePos.toNat w.drawn left) }
            trace :=
              w.trace
              ++ (List.range left).flatMap
                  (fun i => receivedByte random w.i2c (w.i2c.bytePos.toNat + i) (w.drawn + i))
            drawn := w.drawn + left
          }
    := by
  induction left generalizing w with
  | zero =>
      refine ⟨w.i2c.byteLeft - 1, w.i2c.bytePos, ?_⟩
      have still : (fun msg => I2cMsg.fill random msg w.i2c.bytePos.toNat w.drawn 0) = id := rfl
      simp [isrLoop, still]
  | succ left ih =>
      have moved := bytePos_succ bound
      obtain ⟨byteLeft, bytePos, same⟩ :=
        ih (w.received random) dir (by simp only [World.received, moved]; omega)
      refine ⟨byteLeft, bytePos, ?_⟩
      rw [isrLoop_succ_read random left dir, same, List.range_succ_eq_map]
      simp [-BitVec.toNat_add, World.received, moved, List.flatMap_map, Nat.add_assoc,
        Nat.add_comm 1, receivedByte, List.modify_modify_eq, Function.comp_def, I2cMsg.fill]

-----------------------------------------------------------------------------------------
-- One message
-----------------------------------------------------------------------------------------

/-- What a round of the message loop shows at one index of a message, by direction. -/
def byteEvents (i2c : DummyI2c) (drawn index : Nat) (msg : I2cMsg) : Nat → List Event :=
  if msg.isRead then
    fun pos => [.store index pos (random (drawn + pos)), .logByte index pos]
  else
    fun pos =>
      [
        .load index pos,
        i2c.regWrite .data ((msg.buf.getD pos 0).toBitVec.setWidth 32),
        .logByte index pos
      ]

/-- Everything that a round of the message loop shows. -/
def segment (i2c : DummyI2c) (drawn index : Nat) (msg : I2cMsg) : List Event :=
  [.logStart index msg.addr, i2c.regWrite .cntr (i2c.cntrBits ||| dummyI2cRegControlMSta)]
  ++ (List.range msg.len.toNat).flatMap (byteEvents random i2c drawn index msg)
  ++ [i2c.regWrite .cntr (i2c.cntrBits ||| dummyI2cRegControlMStp), i2c.regWrite .cntr i2c.cntrBits]

/-- The message as a round of the message loop leaves it. -/
def I2cMsg.transferred (msg : I2cMsg) (drawn : Nat) : I2cMsg :=
  if msg.isRead then msg.fill random 0 drawn msg.len.toNat else msg

/-- The device at the entry of the handler, with the start of the message shown. -/
def World.started (w : World) (index : Nat) (msg : I2cMsg) : World :=
  { w with
    i2c := latchMsg w.i2c index msg
    trace :=
      w.trace
      ++ [
        .logStart index msg.addr,
        w.i2c.regWrite .cntr (w.i2c.cntrBits ||| dummyI2cRegControlMSta)
      ] }

theorem dummyI2cSendStart_eq (w : World) (index : Nat) (msg : I2cMsg)
    : dummyI2cSendStart random w index msg = dummyI2cIsr random (w.started index msg) := by
  simp [dummyI2cSendStart, World.started, World.emit, dummyI2cWrite, latchMsg, DummyI2c.regWrite]

theorem latchMsg_dir (i2c : DummyI2c) (index : Nat) (msg : I2cMsg)
    : (latchMsg i2c index msg).dir
      = if msg.isRead then dummyI2cBusDirRd else dummyI2cBusDirWr := by
  simp [latchMsg, I2cMsg.isRead]

theorem modify_eq_set {Item : Type*} {items : List Item} {index : Nat} {item : Item}
    (f : Item → Item) (current : items[index]? = some item)
    : items.modify index f = items.set index (f item) := by
  apply List.ext_getElem?
  intro other
  by_cases same : index = other
  · subst same
    obtain ⟨inside, rfl⟩ := List.getElem?_eq_some_iff.mp current
    simp [inside]
  · simp [same]

/-- The handler's loop over a whole message. -/
theorem isrLoop_started {w : World} {index : Nat} {msg : I2cMsg}
    (current : w.i2c.msgs[index]? = some msg)
    : ∃ byteLeft bytePos,
        isrLoop random (w.started index msg).i2c.byteLeft.toNat (w.started index msg)
        = {
            w with
            i2c :=
              { latchMsg w.i2c index msg with
                byteLeft
                bytePos
                msgs := w.i2c.msgs.set index (msg.transferred random w.drawn) }
            trace :=
              (w.started index msg).trace
              ++ (List.range msg.len.toNat).flatMap (byteEvents random w.i2c w.drawn index msg)
            drawn := w.drawn + msg.draws
          }
    := by
  have count : (w.started index msg).i2c.byteLeft.toNat = msg.len.toNat := by
    simp only [World.started, latchMsg, BitVec.toNat_setWidth]
    exact Nat.mod_eq_of_lt (by omega)
  have bound : (w.started index msg).i2c.bytePos.toNat + msg.len.toNat < 2 ^ 32 := by
    have start : (w.started index msg).i2c.bytePos.toNat = 0 := rfl
    omega
  obtain ⟨inside, here⟩ := List.getElem?_eq_some_iff.mp current
  rw [count]
  by_cases read : msg.isRead
  · have dir : (w.started index msg).i2c.dir ≠ dummyI2cBusDirWr := by
      rw [World.started, latchMsg_dir, if_pos read]
      decide
    obtain ⟨byteLeft, bytePos, same⟩ := isrLoop_read random _ _ dir bound
    refine ⟨byteLeft, bytePos, ?_⟩
    have stored :=
      modify_eq_set (fun other => other.fill random 0 w.drawn msg.len.toNat) current
    rw [same]
    simp [World.started, latchMsg, I2cMsg.draws, I2cMsg.transferred, byteEvents,
      receivedByte, read]
    exact stored
  · have dir : (w.started index msg).i2c.dir = dummyI2cBusDirWr := by
      rw [World.started, latchMsg_dir, if_neg read]
    obtain ⟨byteLeft, bytePos, same⟩ := isrLoop_write random _ _ dir bound
    refine ⟨byteLeft, bytePos, ?_⟩
    have unchanged : w.i2c.msgs.set index msg = w.i2c.msgs := by
      subst here
      exact List.set_getElem_self inside
    rw [same]
    simp [World.started, latchMsg, I2cMsg.draws, I2cMsg.transferred, byteEvents, sentByte, read,
      DummyI2c.byteAt, DummyI2c.regWrite, current, unchanged]

/-- What a round of the message loop does with an enabled device: it shows the message's
segment, replaces the message by the transferred one, draws its bytes, and keeps the
control bits. It does not time out, as the handler completes once after the reset.
-/
theorem doMsg_eq {w : World} {index : Nat} {msg : I2cMsg}
    (enabled : w.i2c.cntrBits &&& ~~~dummyI2cRegControlIntFlag = w.i2c.cntrBits)
    (current : w.i2c.msgs[index]? = some msg)
    : ∃ i2c,
        doMsg random w index
        = {
            i2c
            trace := w.trace ++ segment random w.i2c w.drawn index msg
            drawn := w.drawn + msg.draws
            ledger := w.ledger
          }
        ∧ i2c.cntrBits = w.i2c.cntrBits
        ∧ i2c.regOffsets = w.i2c.regOffsets
        ∧ i2c.msgs = w.i2c.msgs.set index (msg.transferred random w.drawn) := by
  let reset : World := { w with i2c := { w.i2c with complete := 0 } }
  obtain ⟨byteLeft, bytePos, looped⟩ :=
    isrLoop_started random (show reset.i2c.msgs[index]? = some msg from current)
  have positive : max w.i2c.adapterTimeout 1 ≠ 0 := by omega
  refine ⟨
    {
      latchMsg w.i2c index msg with
      byteLeft
      bytePos
      msgs := w.i2c.msgs.set index (msg.transferred random w.drawn)
      complete := 0
    },
    ?_, rfl, rfl, rfl⟩
  have events : byteEvents random reset.i2c = byteEvents random w.i2c := rfl
  rw [doMsg, current]
  simp only [dummyI2cSendStart_eq, dummyI2cIsr, looped, events, reset]
  simp [dummyI2cClearIrq, dummyI2cSendStop, dummyI2cWrite, World.emit, World.started,
    latchMsg, waitForCompletionTimeout, positive, enabled, segment, DummyI2c.regWrite]

-----------------------------------------------------------------------------------------
-- The whole transfer
-----------------------------------------------------------------------------------------

/-- How many random bytes the messages before an index draw. -/
def drawnBefore (msgs : List I2cMsg) (index : Nat) : Nat :=
  ((msgs.take index).map I2cMsg.draws).sum

/-- The segments of a list of messages, one each. -/
def segments (i2c : DummyI2c) (drawn : Nat) (msgs : List I2cMsg) : List (List Event) :=
  msgs.mapIdx fun index msg => segment random i2c (drawn + drawnBefore msgs index) index msg

/-- The messages as a transfer leaves them. -/
def transferredMsgs (drawn : Nat) (msgs : List I2cMsg) : List I2cMsg :=
  msgs.mapIdx fun index msg => msg.transferred random (drawn + drawnBefore msgs index)

/-- What holds between two states when the first `count` messages are done in between. -/
structure Transferred (msgs : List I2cMsg) (count : Nat) (before after : World) : Prop where
  cntrBits : after.i2c.cntrBits = before.i2c.cntrBits
  regOffsets : after.i2c.regOffsets = before.i2c.regOffsets
  contents
    : ∀ index,
        after.i2c.msgs[index]?
        = if index < count then (transferredMsgs random before.drawn msgs)[index]?
          else msgs[index]?
  trace
    : after.trace
      = before.trace ++ ((segments random before.i2c before.drawn msgs).take count).flatten
  drawn : after.drawn = before.drawn + drawnBefore msgs count
  ledger : after.ledger = before.ledger

theorem drawnBefore_succ {msgs : List I2cMsg} {index : Nat} {msg : I2cMsg}
    (current : msgs[index]? = some msg)
    : drawnBefore msgs (index + 1) = drawnBefore msgs index + msg.draws := by
  simp [drawnBefore, List.take_add_one, current]

/-- A segment depends on the device through its control bits and offsets only. -/
theorem segment_congr {i2c other : DummyI2c} (cntrBits : other.cntrBits = i2c.cntrBits)
    (regOffsets : other.regOffsets = i2c.regOffsets) (drawn index : Nat) (msg : I2cMsg)
    : segment random other drawn index msg = segment random i2c drawn index msg := by
  simp [segment, byteEvents, DummyI2c.regWrite, cntrBits, regOffsets]

/-- One more round of the message loop transfers one more message. -/
theorem Transferred.next {msgs : List I2cMsg} {count : Nat} {before after : World}
    (done : Transferred random msgs count before after)
    (enabled : before.i2c.cntrBits &&& ~~~dummyI2cRegControlIntFlag = before.i2c.cntrBits)
    (inside : count < msgs.length)
    : Transferred random msgs (count + 1) before (doMsg random after count) := by
  have current : msgs[count]? = some msgs[count] := List.getElem?_eq_getElem inside
  have pending : after.i2c.msgs[count]? = some msgs[count] := by simp [done.contents, current]
  rw [← done.cntrBits] at enabled
  obtain ⟨i2c, round, cntrBits, regOffsets, stored⟩ := doMsg_eq random enabled pending
  rw [round]
  constructor
  case cntrBits => exact cntrBits.trans done.cntrBits
  case regOffsets => exact regOffsets.trans done.regOffsets
  case contents =>
    intro index
    simp only [stored]
    rcases Nat.lt_trichotomy index count with earlier | rfl | later
    · rw [List.getElem?_set_ne (by omega), done.contents, if_pos earlier, if_pos (by omega)]
    · have bound := (List.getElem?_eq_some_iff.mp pending).1
      simp [bound, transferredMsgs, current, done.drawn]
    · rw [List.getElem?_set_ne (by omega), done.contents, if_neg (by omega), if_neg (by omega)]
  case trace =>
    simp only [done.trace, done.drawn, segment_congr random done.cntrBits done.regOffsets]
    simp [List.take_add_one, segments, current]
  case drawn =>
    simp only [done.drawn, drawnBefore_succ current]
    omega
  case ledger => exact done.ledger

/-- All rounds of the message loop, by induction on their number. -/
theorem foldl_transferred {msgs : List I2cMsg} (before : World)
    (enabled : before.i2c.cntrBits &&& ~~~dummyI2cRegControlIntFlag = before.i2c.cntrBits)
    (given : before.i2c.msgs = msgs) {count : Nat} (inside : count ≤ msgs.length)
    : Transferred random msgs count before
        ((List.range count).foldl (doMsg random) before) := by
  induction count with
  | zero => exact ⟨rfl, rfl, by simp [given], by simp, by simp [drawnBefore], rfl⟩
  | succ count ih =>
      rw [List.range_succ, List.foldl_append]
      exact (ih (by omega)).next random enabled (by omega)

end

end DummyDrivers.I2c
