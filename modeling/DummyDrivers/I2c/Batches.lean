import DummyDrivers.I2c.Messages

/-! A list of messages may be given to the adapter in one transfer or in several. Every
transfer logs its number of messages; up to these lines and the numbers of the messages in
their transfers, nothing that the driver shows depends on the cuts.
-/

namespace DummyDrivers.I2c

/-- An event without the number of its message. -/
def Event.unnumbered : Event → Event
  | .load _ index => .load 0 index
  | .store _ index byte => .store 0 index byte
  | .logByte _ index => .logByte 0 index
  | .logStart _ addr => .logStart 0 addr
  | .regWrite reg offset val => .regWrite reg offset val
  | .logHwInit => .logHwInit

/-- What a transfer shows: the line `msg len` that `dummy_i2c_xfer` logs at its start, and the
events of its messages.
-/
inductive Line where
  | msgLen (num : Nat)
  | shown (event : Event)
  deriving DecidableEq

/-- The event of a line, without the number of its message. -/
def Line.event? : Line → Option Event
  | .msgLen _ => none
  | .shown event => some event.unnumbered

/-- Some transfers: the world after them, the messages as each of them left them, and what
they showed.
-/
structure Transfers where
  world : World
  done : List I2cMsg
  lines : List Line

def Transfers.start (w : World) : Transfers := { world := w, done := [], lines := [] }

section

variable (random : Nat → UInt8)

/-- One more transfer. -/
def Transfers.xfer (before : Transfers) (msgs : List I2cMsg) : Transfers :=
  let after := (dummyI2cXfer random before.world msgs msgs.length).2
  let events := after.trace.drop before.world.trace.length
  {
    world := after
    done := before.done ++ after.i2c.msgs
    lines := before.lines ++ .msgLen msgs.length :: events.map .shown
  }

variable {random}

theorem segment_unnumbered (i2c : DummyI2c) (drawn index : Nat) (msg : I2cMsg)
    : (segment random i2c drawn index msg).map Event.unnumbered
      = segment random i2c drawn 0 msg := by
  cases read : msg.isRead <;>
    simp [segment, byteEvents, read, Event.unnumbered, DummyI2c.regWrite, List.map_flatMap]

theorem drawnBefore_append_left (msgs more : List I2cMsg) {index : Nat}
    (inside : index ≤ msgs.length)
    : drawnBefore (msgs ++ more) index = drawnBefore msgs index := by
  rw [drawnBefore, List.take_append_of_le_length inside, drawnBefore]

theorem drawnBefore_append (msgs more : List I2cMsg) (index : Nat)
    : drawnBefore (msgs ++ more) (index + msgs.length)
      = drawnBefore msgs msgs.length + drawnBefore more index := by
  rw [drawnBefore, Nat.add_comm index, List.take_length_add_append, List.map_append,
    List.sum_append, drawnBefore, List.take_length, drawnBefore]

/-- What is computed from each message and from the random bytes drawn before it can be
computed batch by batch.
-/
theorem mapIdx_drawn_append {Item : Type*} (each : Nat → I2cMsg → Item) (drawn : Nat)
    (msgs more : List I2cMsg)
    : (msgs ++ more).mapIdx
        (fun index msg => each (drawn + drawnBefore (msgs ++ more) index) msg)
      = msgs.mapIdx (fun index msg => each (drawn + drawnBefore msgs index) msg)
        ++ more.mapIdx
          (fun index msg =>
            each (drawn + drawnBefore msgs msgs.length + drawnBefore more index) msg) := by
  rw [List.mapIdx_append]
  congr 1
  · apply List.ext_getElem?
    intro index
    rw [List.getElem?_mapIdx, List.getElem?_mapIdx]
    by_cases inside : index < msgs.length
    · rw [drawnBefore_append_left msgs more inside.le]
    · rw [List.getElem?_eq_none (by omega)]
      rfl
  · simp only [drawnBefore_append, Nat.add_assoc]

theorem transferredMsgs_append (drawn : Nat) (msgs more : List I2cMsg)
    : transferredMsgs random drawn (msgs ++ more)
      = transferredMsgs random drawn msgs
        ++ transferredMsgs random (drawn + drawnBefore msgs msgs.length) more := by
  exact mapIdx_drawn_append (fun drawn msg => msg.transferred random drawn) drawn msgs more

/-- What the segments of a list of messages show without the messages' numbers. -/
theorem segments_unnumbered (i2c : DummyI2c) (drawn : Nat) (msgs : List I2cMsg)
    : (segments random i2c drawn msgs).map (List.map Event.unnumbered)
      = msgs.mapIdx
        (fun index msg => segment random i2c (drawn + drawnBefore msgs index) 0 msg) := by
  apply List.ext_getElem?
  intro index
  simp only [segments, List.getElem?_map, List.getElem?_mapIdx, Option.map_map,
    Function.comp_def, segment_unnumbered]

theorem segments_unnumbered_append (i2c : DummyI2c) (drawn : Nat) (msgs more : List I2cMsg)
    : (segments random i2c drawn (msgs ++ more)).map (List.map Event.unnumbered)
      = (segments random i2c drawn msgs).map (List.map Event.unnumbered)
        ++ (segments random i2c (drawn + drawnBefore msgs msgs.length) more).map
          (List.map Event.unnumbered) := by
  simp only [segments_unnumbered]
  exact mapIdx_drawn_append (fun drawn msg => segment random i2c drawn 0 msg) drawn msgs more

theorem segments_congr {i2c other : DummyI2c} (cntrBits : other.cntrBits = i2c.cntrBits)
    (regOffsets : other.regOffsets = i2c.regOffsets) (drawn : Nat) (msgs : List I2cMsg)
    : segments random other drawn msgs = segments random i2c drawn msgs := by
  simp only [segments, segment_congr random cntrBits regOffsets]

-----------------------------------------------------------------------------------------
-- Batches
-----------------------------------------------------------------------------------------

/-- What transfers of some messages show, wherever these are cut: the messages, the events and
the draws.
-/
structure Shows (random : Nat → UInt8) (before : World) (msgs : List I2cMsg)
    (transfers : Transfers)
    : Prop where
  done : transfers.done = transferredMsgs random before.drawn msgs
  events
    : transfers.lines.filterMap Line.event?
      = ((segments random before.i2c before.drawn msgs).map (List.map Event.unnumbered)).flatten
  drawn : transfers.world.drawn = before.drawn + drawnBefore msgs msgs.length

theorem Shows.start (w : World) : Shows random w [] (.start w) :=
  ⟨rfl, rfl, rfl⟩

theorem filterMap_event (events : List Event)
    : (events.map Line.shown).filterMap Line.event? = events.map Event.unnumbered := by
  rw [List.filterMap_map, ← List.filterMap_eq_map]
  rfl

/-- One more transfer shows its messages after those before. -/
theorem Shows.xfer {before : World} {msgs : List I2cMsg} {transfers : Transfers}
    (soFar : Shows random before msgs transfers)
    (registered : Registered random transfers.world)
    (cntrBits : transfers.world.i2c.cntrBits = before.i2c.cntrBits)
    (regOffsets : transfers.world.i2c.regOffsets = before.i2c.regOffsets) (more : List I2cMsg)
    : Shows random before (msgs ++ more) (transfers.xfer random more) := by
  have done := dummyI2cXfer_transferred random registered.ready.enabled more
  have trace : (dummyI2cXfer random transfers.world more more.length).2.trace
      = transfers.world.trace
        ++ (segments random transfers.world.i2c transfers.world.drawn more).flatten := by
    rw [done.trace, List.take_of_length_le (by simp [segments])]
    rfl
  constructor
  case done =>
    rw [transferredMsgs_append, ← soFar.done, ← soFar.drawn]
    exact congrArg (transfers.done ++ ·) done.final
  case events =>
    rw [Transfers.xfer]
    dsimp only
    rw [trace, List.drop_left, List.filterMap_append, soFar.events,
      List.filterMap_cons_none (show Line.event? (.msgLen more.length) = none from rfl),
      filterMap_event, List.map_flatten, segments_unnumbered_append, List.flatten_append,
      soFar.drawn, segments_congr cntrBits regOffsets]
  case drawn =>
    change (dummyI2cXfer random transfers.world more more.length).2.drawn = _
    rw [done.drawn, List.length_append, Nat.add_comm msgs.length, drawnBefore_append,
      ← Nat.add_assoc, ← soFar.drawn]
    rfl

end

end DummyDrivers.I2c
