import DummyDrivers.I2c.Transfer

/-! What the handler does when it is invoked again for the same message. Its loop leaves the
counter of the bytes left at its largest value, so that every further invocation runs on
behind the message.
-/

namespace DummyDrivers.I2c

section

variable (random : Nat → UInt8)

/-- The device after the start of a message and some further invocations of the handler. -/
def invoked (w : World) (index : Nat) (msg : I2cMsg) : Nat → World
  | 0 => dummyI2cSendStart random w index msg
  | further + 1 => dummyI2cIsr random (invoked w index msg further)

/-- The events between two states of a run. -/
def shown (before after : World) : List Event := after.trace.drop before.trace.length

/-- The counters agree at the end of each invocation, no invocation reaches behind the
message, and after the first one, which transfers the whole message, none transfers anything.
-/
structure InvocationsRight (w : World) (index : Nat) (msg : I2cMsg) (further : Nat) : Prop where
  counters
    : ∀ k ≤ further,
        (invoked random w index msg k).i2c.byteLeft + (invoked random w index msg k).i2c.bytePos
        = msg.len.setWidth 32
  bounded
    : ∀ event ∈ shown w (invoked random w index msg further), ∀ at_msg pos,
        event.accessed? = some (at_msg, pos) ∨ event.logged? = some (at_msg, pos)
        → pos < msg.len.toNat
  idle
    : ∀ k < further,
        (invoked random w index msg (k + 1)).i2c.msgs = (invoked random w index msg k).i2c.msgs
        ∧ ∀ event ∈ shown (invoked random w index msg k) (invoked random w index msg (k + 1)),
            event.accessed? = none

/-- What a round of the loop does, in either direction. -/
structure Round (before after : World) : Prop where
  byteLeft : after.i2c.byteLeft = before.i2c.byteLeft - 1#32
  bytePos : after.i2c.bytePos = before.i2c.bytePos + 1#32
  currMsg : after.i2c.currMsg = before.i2c.currMsg
  trace
    : ∃ event events,
        after.trace = before.trace ++ event :: events
        ∧ event.accessed? = some (before.i2c.currMsg, before.i2c.bytePos.toNat)

theorem isrLoop_succ (left : Nat) (w : World)
    : ∃ after, isrLoop random (left + 1) w = isrLoop random left after ∧ Round w after := by
  by_cases dir : w.i2c.dir = dummyI2cBusDirWr
  · exact ⟨w.sent, isrLoop_succ_write random left dir, rfl, rfl, rfl, _, _, rfl, rfl⟩
  · exact ⟨w.received random, isrLoop_succ_read random left dir, rfl, rfl, rfl, _, _, rfl, rfl⟩

/-- The loop takes one more from the bytes left than it transfers. -/
theorem isrLoop_counters (left : Nat) (w : World)
    : (isrLoop random left w).i2c.byteLeft = w.i2c.byteLeft - BitVec.ofNat 32 left - 1#32
      ∧ (isrLoop random left w).i2c.bytePos = w.i2c.bytePos + BitVec.ofNat 32 left := by
  induction left generalizing w with
  | zero => simp [isrLoop]
  | succ left ih =>
      obtain ⟨after, same, round⟩ := isrLoop_succ random left w
      obtain ⟨byteLeft, bytePos⟩ := ih after
      rw [same, byteLeft, bytePos, round.byteLeft, round.bytePos, BitVec.ofNat_add]
      constructor <;> grind

theorem isrLoop_currMsg (left : Nat) (w : World)
    : (isrLoop random left w).i2c.currMsg = w.i2c.currMsg := by
  induction left generalizing w with
  | zero => rfl
  | succ left ih =>
      obtain ⟨after, same, round⟩ := isrLoop_succ random left w
      rw [same, ih after, round.currMsg]

/-- The loop only adds to the trace. -/
theorem isrLoop_trace (left : Nat) (w : World)
    : w.trace <+: (isrLoop random left w).trace := by
  induction left generalizing w with
  | zero => exact List.prefix_refl _
  | succ left ih =>
      obtain ⟨after, same, round⟩ := isrLoop_succ random left w
      obtain ⟨event, events, trace, _⟩ := round.trace
      rw [same]
      exact List.IsPrefix.trans ⟨_, trace.symm⟩ (ih after)

/-- The last steps of the handler leave the counters alone and add to the trace. -/
theorem dummyI2cIsr_counters (w : World)
    : (dummyI2cIsr random w).i2c.byteLeft = -1#32
      ∧ (dummyI2cIsr random w).i2c.bytePos = w.i2c.bytePos + w.i2c.byteLeft := by
  obtain ⟨byteLeft, bytePos⟩ := isrLoop_counters random w.i2c.byteLeft.toNat w
  rw [BitVec.ofNat_toNat, BitVec.setWidth_eq] at byteLeft bytePos
  refine ⟨?_, bytePos⟩
  change (isrLoop random w.i2c.byteLeft.toNat w).i2c.byteLeft = -1#32
  rw [byteLeft]
  grind

theorem dummyI2cIsr_trace (w : World)
    : (isrLoop random w.i2c.byteLeft.toNat w).trace <+: (dummyI2cIsr random w).trace := by
  simp only [dummyI2cIsr, dummyI2cClearIrq, dummyI2cSendStop, dummyI2cWrite, World.emit,
    List.append_assoc]
  exact List.prefix_append _ _

/-- Each invocation takes one from the sum of the counters, the first one included. -/
theorem invoked_counters (w : World) (index : Nat) (msg : I2cMsg) (further : Nat)
    : (invoked random w index msg further).i2c.byteLeft = -1#32
      ∧ (invoked random w index msg further).i2c.bytePos
        = msg.len.setWidth 32 - BitVec.ofNat 32 further := by
  induction further with
  | zero =>
      obtain ⟨byteLeft, bytePos⟩ := dummyI2cIsr_counters random (w.started index msg)
      rw [invoked, dummyI2cSendStart_eq, byteLeft, bytePos]
      simp [World.started, latchMsg]
  | succ further ih =>
      obtain ⟨byteLeft, bytePos⟩ :=
        dummyI2cIsr_counters random (invoked random w index msg further)
      rw [invoked, byteLeft, bytePos, ih.1, ih.2, BitVec.ofNat_add]
      exact ⟨rfl, by grind⟩

/-- An invocation with bytes left begins at the current position. -/
theorem dummyI2cIsr_accesses {w : World} (some_left : w.i2c.byteLeft ≠ 0)
    : ∃ event ∈ shown w (dummyI2cIsr random w),
        event.accessed? = some (w.i2c.currMsg, w.i2c.bytePos.toNat) := by
  have positive : w.i2c.byteLeft.toNat ≠ 0 := fun zero => some_left (BitVec.eq_of_toNat_eq zero)
  obtain ⟨left, count⟩ := Nat.exists_eq_succ_of_ne_zero positive
  obtain ⟨after, same, round⟩ := isrLoop_succ random left w
  obtain ⟨event, events, trace, accessed⟩ := round.trace
  obtain ⟨rest, looped⟩ := isrLoop_trace random left after
  obtain ⟨last, whole⟩ := dummyI2cIsr_trace random w
  refine ⟨event, ?_, accessed⟩
  rw [count, Nat.succ_eq_add_one, same, ← looped, trace] at whole
  rw [shown, ← whole]
  simp

/-- What an invocation shows stays among the events of every later state. -/
theorem shown_mono {start before after later : World} {event : Event}
    (started : start.trace <+: before.trace) (kept : after.trace <+: later.trace)
    (member : event ∈ shown before after)
    : event ∈ shown start later := by
  obtain ⟨early, whole⟩ := started
  obtain ⟨late, rest⟩ := kept
  rw [shown, ← whole, List.length_append, ← List.drop_drop] at member
  have inside := List.mem_of_mem_drop member
  rw [shown, ← rest, List.drop_append]
  exact List.mem_append_left _ inside

theorem invoked_trace (w : World) (index : Nat) (msg : I2cMsg) (further : Nat)
    : w.trace <+: (invoked random w index msg further).trace := by
  induction further with
  | zero =>
      have start : w.trace <+: (w.started index msg).trace := List.prefix_append _ _
      rw [invoked, dummyI2cSendStart_eq]
      exact start.trans ((isrLoop_trace random _ _).trans (dummyI2cIsr_trace random _))
  | succ further ih =>
      exact ih.trans ((isrLoop_trace random _ _).trans (dummyI2cIsr_trace random _))

theorem invoked_mono (w : World) (index : Nat) (msg : I2cMsg) (further more : Nat)
    : (invoked random w index msg further).trace
      <+: (invoked random w index msg (further + more)).trace := by
  induction more with
  | zero => exact List.prefix_refl _
  | succ more ih =>
      exact ih.trans ((isrLoop_trace random _ _).trans (dummyI2cIsr_trace random _))

/-- After the first invocation the position is behind the message. -/
theorem invoked_bytePos_toNat (w : World) (index : Nat) (msg : I2cMsg)
    : (invoked random w index msg 0).i2c.bytePos.toNat = msg.len.toNat := by
  rw [(invoked_counters random w index msg 0).2, BitVec.sub_zero,
    BitVec.toNat_setWidth_of_le (by decide)]

/-- No run of invocations is right: the counters are off by one at the end of the first, and
a further invocation reaches the index behind the message.
-/
theorem dummyI2cIsr_reentry_never (w : World) (index : Nat) (msg : I2cMsg) (further : Nat)
    : ¬ InvocationsRight random w index msg further
      ∧ ∃ event ∈ shown w (invoked random w index msg (further + 1)),
          event.accessed? = some (index, msg.len.toNat) := by
  constructor
  · intro right
    obtain ⟨byteLeft, bytePos⟩ := invoked_counters random w index msg 0
    have sum := right.counters 0 (Nat.zero_le further)
    rw [byteLeft, bytePos] at sum
    grind
  · have byteLeft := (invoked_counters random w index msg 0).1
    have some_left : (invoked random w index msg 0).i2c.byteLeft ≠ 0 := by
      rw [byteLeft]
      decide
    have current : (invoked random w index msg 0).i2c.currMsg = index := by
      rw [invoked, dummyI2cSendStart_eq]
      exact isrLoop_currMsg random _ (w.started index msg)
    obtain ⟨event, member, accessed⟩ := dummyI2cIsr_accesses random some_left
    rw [current, invoked_bytePos_toNat] at accessed
    refine ⟨event, ?_, accessed⟩
    have later := invoked_mono random w index msg 1 further
    rw [Nat.add_comm 1] at later
    exact shown_mono (invoked_trace random w index msg 0) later member

end

/-- A write of one byte to address 0x50. -/
def oneByte : I2cMsg := { addr := 0x50, flags := 0, len := 1, buf := [7], fits := by decide }

/-- After one byte no byte is left, but the counter says 2^32 - 1. -/
theorem dummyI2cIsr_counter_wraps
    : ¬ ∀ random w index msg further, InvocationsRight random w index msg further := by
  intro right
  have sum := (right (fun _ => 0) .zero 0 oneByte 0).counters 0 (Nat.le_refl 0)
  exact absurd sum (by decide)

end DummyDrivers.I2c
