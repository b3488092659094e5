import DummyDrivers.I2c.Messages
import DummyDrivers.Library.Framing

/-! Which write messages the register writes of a transfer determine. The offsets of a
registered device are all zero, so control words and data bytes go to one place and the
writes are an encoding of the payloads with marker symbols.
-/

namespace DummyDrivers.I2c

open DummyDrivers.Framing

/-- The offset and the value that a register write passes to `dummy_i2c_write`. -/
def Event.pair? : Event → Option (BitVec 32 × BitVec 32)
  | .regWrite _ offset val => some (offset, val)
  | _ => none

def AllWrites (msgs : List I2cMsg) : Prop := ∀ msg ∈ msgs, msg.isRead = false

def payloads (msgs : List I2cMsg) : List (List UInt8) := msgs.map I2cMsg.payload

/-- The pairs that one transfer passes to `dummy_i2c_write`, in order. -/
def xferWrites (random : Nat → UInt8) (w : World) (msgs : List I2cMsg)
    : List (BitVec 32 × BitVec 32) :=
  ((dummyI2cXfer random w msgs msgs.length).2.trace.drop w.trace.length).filterMap Event.pair?

/-- No write messages with other payloads leave the writes that these messages leave. -/
def TraceDetermines (random : Nat → UInt8) (w : World) (msgs : List I2cMsg) : Prop :=
  ∀ random' w' msgs',
    Registered random' w'
    → AllWrites msgs'
    → xferWrites random' w' msgs' = xferWrites random w msgs
    → payloads msgs' = payloads msgs

/-- The largest `len` of a message. -/
def i2cMsgLenMax : Nat := 2 ^ 16 - 1

/-- The control words of a registered device, as the bytes they equal. -/
def controlWords : Markers UInt8 :=
  { start := 0x60, stop := 0x50, clear := 0x40, start_ne_stop := by decide,
    stop_ne_clear := by decide }

/-- The pair that a byte or a control word is written as. -/
def bytePair (byte : UInt8) : BitVec 32 × BitVec 32 := (0, byte.toBitVec.setWidth 32)

theorem bytePair_injective : Function.Injective bytePair := by
  intro byte other same
  simp only [bytePair, Prod.mk.injEq, true_and] at same
  have value := congrArg BitVec.toNat same
  simp only [BitVec.toNat_setWidth, UInt8.toNat_toBitVec] at value
  apply UInt8.toNat_inj.mp
  have small := byte.toNat_lt
  have otherSmall := other.toNat_lt
  omega

/-- A write message is written as the frame of its payload. -/
theorem Ready.segment_pairs {w : World} (ready : Ready w) (random : Nat → UInt8)
    (drawn index : Nat) {msg : I2cMsg} (write : msg.isRead = false)
    : (segment random w.i2c drawn index msg).filterMap Event.pair?
      = (controlWords.frame msg.payload).map bytePair := by
  have clear : dummyI2cRegControlBusEn = 0x40#32 := rfl
  have start : 0x40#32 ||| dummyI2cRegControlMSta = 0x60#32 := rfl
  have stop : 0x40#32 ||| dummyI2cRegControlMStp = 0x50#32 := rfl
  rw [segment_filterMap, I2cMsg.payload_eq]
  simp [byteEvents, write, List.filterMap_cons, Event.pair?, DummyI2c.regWrite, Markers.frame,
    bytePair, controlWords, ready.cntrBits, ready.regOffsets, start, stop, clear,
    List.map_eq_flatMap, List.flatMap_assoc]

theorem segments_pairs {w : World} (ready : Ready w) (random : Nat → UInt8) (drawn : Nat)
    {msgs : List I2cMsg} (writes : AllWrites msgs)
    : (segments random w.i2c drawn msgs).map (List.filterMap Event.pair?)
      = (payloads msgs).map (fun payload => (controlWords.frame payload).map bytePair) := by
  apply List.ext_getElem
  · simp [segments, payloads]
  · intro index short long
    simp only [List.length_map, payloads] at long
    simp only [segments, payloads, List.map_map, List.getElem_map, List.getElem_mapIdx,
      Function.comp_apply]
    exact ready.segment_pairs random _ _ (writes _ (List.getElem_mem _))

/-- A transfer of write messages is written as the encoding of their payloads. -/
theorem Registered.xferWrites_eq {random : Nat → UInt8} {w : World}
    (registered : Registered random w) {msgs : List I2cMsg} (writes : AllWrites msgs)
    : xferWrites random w msgs = (controlWords.encode (payloads msgs)).map bytePair := by
  have done := dummyI2cXfer_transferred random registered.ready.enabled msgs
  have shown : (segments random w.i2c w.drawn msgs).length ≤ msgs.length := by simp [segments]
  have trace : (dummyI2cXfer random w msgs msgs.length).2.trace
      = w.trace ++ (segments random w.i2c w.drawn msgs).flatten := by
    rw [done.trace]
    exact congrArg (fun shown => w.trace ++ shown.flatten) (List.take_of_length_le shown)
  rw [xferWrites, trace, List.drop_left, List.filterMap_flatten,
    segments_pairs registered.ready random _ writes, Markers.encode, List.map_flatMap,
    List.flatMap_def]

theorem i2cMsg_payload {body : List UInt8} (fits : body.length ≤ i2cMsgLenMax)
    : (i2cMsg 0 body).payload = body := by
  have len : (BitVec.ofNat 16 body.length).toNat = body.length := by
    rw [BitVec.toNat_ofNat]
    exact Nat.mod_eq_of_lt (by simp only [i2cMsgLenMax] at fits; omega)
  change body.take (BitVec.ofNat 16 body.length).toNat = body
  rw [len, List.take_length]

theorem payloads_fits (msgs : List I2cMsg) : Fits i2cMsgLenMax (payloads msgs) := by
  intro body member
  obtain ⟨msg, _, rfl⟩ := List.mem_map.mp member
  simp only [I2cMsg.payload, List.length_take, i2cMsgLenMax]
  omega

/-- Every list of fitting bodies is the payloads of some write messages. -/
theorem exists_writes {bodies : List (List UInt8)} (fits : Fits i2cMsgLenMax bodies)
    : ∃ msgs, AllWrites msgs ∧ payloads msgs = bodies := by
  refine ⟨bodies.map (i2cMsg 0), ?_, ?_⟩
  · intro msg member
    obtain ⟨body, _, rfl⟩ := List.mem_map.mp member
    simp [i2cMsg, I2cMsg.isRead]
  · rw [payloads, List.map_map]
    exact (List.map_congr_left fun body member => i2cMsg_payload (fits body member)).trans
      (List.map_id _)

/-- The register writes of a transfer determine the payloads of its write messages exactly
when none of these contains the stop, clear and start words in a row and no two neighbours
fit into one message together. Witness: the writes are the framed payloads, byte by byte.
-/
theorem dummyI2cXfer_trace_determines_iff {random : Nat → UInt8} {w : World}
    (registered : Registered random w) {msgs : List I2cMsg} (writes : AllWrites msgs)
    : TraceDetermines random w msgs
      ↔ controlWords.Unambiguous i2cMsgLenMax (payloads msgs) := by
  rw [← controlWords.determined_iff (payloads_fits msgs)]
  constructor
  · intro determines others fits same
    obtain ⟨msgs', writes', rfl⟩ := exists_writes fits
    apply determines random w msgs' registered writes'
    rw [registered.xferWrites_eq writes', registered.xferWrites_eq writes, same]
  · intro determined random' w' msgs' registered' writes' same
    rw [registered'.xferWrites_eq writes', registered.xferWrites_eq writes] at same
    exact determined _ (payloads_fits msgs') (List.map_injective_iff.mpr bytePair_injective same)

/-- Witness: a single message without control words is determined by its writes. -/
theorem dummyI2cXfer_trace_determines_single
    : controlWords.Unambiguous i2cMsgLenMax [[1, 2]]
      ∧ TraceDetermines UInt8.ofNat (dummyI2cRegister id registerCalls .zero).2
          [i2cMsg 0 [1, 2]] := by
  have clear : controlWords.Unambiguous i2cMsgLenMax [[1, 2]] := ⟨by decide, .singleton _⟩
  have writes : AllWrites [i2cMsg 0 [1, 2]] := by simp [AllWrites, I2cMsg.isRead, i2cMsg]
  exact ⟨clear,
    (dummyI2cXfer_trace_determines_iff (.register id registerCalls rfl) writes).mpr clear⟩

/-- One message with the three control words inside is written like two empty messages. -/
theorem dummyI2cXfer_trace_ambiguous
    : ¬ ∀ random w msgs,
          Registered random w → AllWrites msgs → TraceDetermines random w msgs := by
  intro determines
  have registered : Registered UInt8.ofNat (dummyI2cRegister id registerCalls .zero).2 :=
    .register id registerCalls rfl
  have same :=
    determines _ _ [i2cMsg 0 [0x50, 0x40, 0x60]] registered
      (by simp [AllWrites, I2cMsg.isRead, i2cMsg]) _ _ [i2cMsg 0 [], i2cMsg 0 []] registered
      (by simp [AllWrites, I2cMsg.isRead, i2cMsg]) rfl
  simpa [payloads] using congrArg List.length same

end DummyDrivers.I2c
