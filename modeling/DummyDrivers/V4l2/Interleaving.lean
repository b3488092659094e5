import DummyDrivers.Library.Transition
import DummyDrivers.V4l2.Driver

/-! The v4l2 driver between videobuf2, the timer softirq and the streaming calls. A step
is one lock section, one kernel call or one stretch of code that no other thread sees.
-/

namespace DummyDrivers.V4l2

open DummyDrivers.Transition

/-- Where the timer handler stands; from `popped` to `filled` it holds a buffer that is
on no list. The kernel runs the handler of one timer on one CPU at a time.
-/
inductive TimerPc where
  | idle
  | entered
  | popped (buf : BufRef)
  | filled (buf : BufRef)
  | resched

/-- Where the streaming calls stand. videobuf2 serialises them, so one position is enough. -/
inductive StreamPc where
  | stopped
  | streaming
  | stopping
  | draining
  | drained
  deriving DecidableEq

structure State where
  dv : DummyVideo
  bufs : BufRef → FrameBuf
  timer : TimerPc
  stream : StreamPc

/-- The state after the module is loaded: no buffer is allocated, nothing runs. -/
def State.initial : State :=
  {
    dv := .initial
    bufs := fun _ =>
      { plane := [], mapped := false, bytesused := 0, sequence := 0, timestamp := 0,
        state := .dequeued }
    timer := .idle
    stream := .stopped
  }

def State.setBuf (s : State) (buf : BufRef) (content : FrameBuf) : State :=
  { s with bufs := Function.update s.bufs buf content }

/-- What a step shows: the call made, with the buffer and the values it passes on. The
two `vb2_buffer_done` calls of the driver share one label, which carries the buffer's
fields at that moment and the state it is completed in.
-/
inductive Label where
  | allocate (buf : BufRef) (nplanes size : BitVec 32)
  | userptr (buf : BufRef)
  | bufPrepare (buf : BufRef) (ret : Int)
  | bufQueue (buf : BufRef)
  | startStreaming (ret : Int)
  | timerExpires
  | timerPop (buf : Option BufRef)
  | timerFill (buf : BufRef) (copy : Option FrameCopy)
  | bufferDone (buf : BufRef) (content : FrameBuf) (state : Vb2State)
  | timerRearm
  | stopStreaming
  | timerDeleteSync
  | stopUnlock
  | stopReturn

/-- The handler's position after the lock section. -/
def TimerPc.afterPop : Option BufRef → TimerPc
  | none => .resched
  | some buf => .popped buf

/-- The steps of videobuf2, the timer and the driver. videobuf2 gives planes only to
buffers the driver does not own, prepares a buffer before it queues it, and queues none
while a stop is under way; `timer_delete_sync` waits for the handler to finish.
-/
inductive Step (frames : Frames) : State → Label → State → Prop where
  | allocate {s} (buf nplanes size content) (outside : (s.bufs buf).state ≠ .active)
    (accepted : (dummyVideoQueueSetup nplanes size).ret = 0)
    (sized : content.planeSize = (dummyVideoQueueSetup nplanes size).size.toNat)
    (fresh : content.state = .dequeued)
    : Step frames s (.allocate buf nplanes size) (s.setBuf buf content)
  | userptr {s} (buf content) (outside : (s.bufs buf).state ≠ .active)
    (fresh : content.state = .dequeued)
    : Step frames s (.userptr buf) (s.setBuf buf content)
  | bufPrepare {s} (buf) (outside : (s.bufs buf).state ≠ .active)
    : Step frames s (.bufPrepare buf (dummyVideoBufPrepare (s.bufs buf)))
        (s.setBuf buf
          { s.bufs buf with
            state :=
              if dummyVideoBufPrepare (s.bufs buf) = 0 then .prepared else .dequeued })
  | bufQueue {s} (buf) (prepared : (s.bufs buf).state = .prepared)
    (noStop : s.stream = .stopped ∨ s.stream = .streaming)
    : Step frames s (.bufQueue buf)
        { s.setBuf buf { s.bufs buf with state := .active } with
          dv := dummyVideoBufQueue s.dv buf }
  | startStreaming {s} (stopped : s.stream = .stopped)
    : Step frames s (.startStreaming (dummyVideoStartStreaming s.dv).1)
        { s with dv := (dummyVideoStartStreaming s.dv).2, stream := .streaming }
  | timerExpires {s} (pending : s.dv.timerPending = true) (idle : s.timer = .idle)
    : Step frames s .timerExpires
        { s with dv := { s.dv with timerPending := false }, timer := .entered }
  | timerPop {s} (entered : s.timer = .entered)
    : Step frames s (.timerPop (timerPop s.dv).1)
        { s with dv := (timerPop s.dv).2, timer := .afterPop (timerPop s.dv).1 }
  | timerFill {s buf} (now) (popped : s.timer = .popped buf)
    : Step frames s (.timerFill buf (timerFill frames now s.dv (s.bufs buf)).2.2)
        { s.setBuf buf (timerFill frames now s.dv (s.bufs buf)).2.1 with
          dv := (timerFill frames now s.dv (s.bufs buf)).1
          timer := .filled buf }
  | timerDone {s buf} (filled : s.timer = .filled buf)
    : Step frames s (.bufferDone buf (s.bufs buf) .done)
        { s.setBuf buf { s.bufs buf with state := .done } with timer := .resched }
  | timerRearm {s} (resched : s.timer = .resched)
    : Step frames s .timerRearm { s with dv := modTimer s.dv, timer := .idle }
  | stopStreaming {s} (streaming : s.stream = .streaming)
    : Step frames s .stopStreaming { s with stream := .stopping }
  | timerDeleteSync {s} (stopping : s.stream = .stopping) (idle : s.timer = .idle)
    : Step frames s .timerDeleteSync
        { s with dv := timerDeleteSync s.dv, stream := .draining }
  | stopDrain {s buf rest} (draining : s.stream = .draining)
    (first : s.dv.queuedBufs = buf :: rest)
    : Step frames s (.bufferDone buf (s.bufs buf) .error)
        { s.setBuf buf { s.bufs buf with state := .error } with
          dv := { s.dv with queuedBufs := rest } }
  | stopUnlock {s} (draining : s.stream = .draining) (empty : s.dv.queuedBufs = [])
    : Step frames s .stopUnlock { s with stream := .drained }
  | stopReturn {s} (drained : s.stream = .drained)
    : Step frames s .stopReturn { s with stream := .stopped }

/-- The runs of the driver under one table of frames. -/
abbrev DriverRun (frames : Frames) : List Label → State → Prop :=
  Run (Step frames) .initial

/-- The buffers handed over by `buf_queue`, in order. -/
def handedOver (history : List Label) : List BufRef :=
  history.filterMap fun
    | .bufQueue buf => some buf
    | _ => none

/-- The buffers given back by `vb2_buffer_done`, in either state, in order. -/
def completed (history : List Label) : List BufRef :=
  history.filterMap fun
    | .bufferDone buf _ _ => some buf
    | _ => none

theorem handedOver_append (first second : List Label)
    : handedOver (first ++ second) = handedOver first ++ handedOver second :=
  List.filterMap_append

theorem completed_append (first second : List Label)
    : completed (first ++ second) = completed first ++ completed second :=
  List.filterMap_append

/-- A `start_streaming` was called and no later `stop_streaming` has returned. -/
def SessionOpen (history : List Label) : Prop :=
  ∃ before ret after, history = before ++ .startStreaming ret :: after ∧ .stopReturn ∉ after

/-- A session stays open over every step except the return of `stop_streaming`. -/
theorem SessionOpen.append {history : List Label} (opened : SessionOpen history)
    {label : Label} (other : label ≠ .stopReturn)
    : SessionOpen (history ++ [label]) := by
  obtain ⟨before, ret, after, rfl, absent⟩ := opened
  refine ⟨before, ret, after ++ [label], by simp, ?_⟩
  simp [absent, Ne.symm other]

/-- `start_streaming` opens a session. -/
theorem SessionOpen.start (history : List Label) (ret : Int)
    : SessionOpen (history ++ [.startStreaming ret]) :=
  ⟨history, ret, [], rfl, by simp⟩

end DummyDrivers.V4l2
