import DummyDrivers.V4l2.Ownership

/-! Streaming sessions of any length: what a session has completed so far, and runs that
complete any given number of buffers under any table of frames.
-/

namespace DummyDrivers.V4l2

open DummyDrivers.Transition

/-- A `start_streaming` begins a new count; a DONE completion adds its buffer's fields. -/
def doneStep (contents : List FrameBuf) : Label → List FrameBuf
  | .startStreaming _ => []
  | .bufferDone _ content .done => contents ++ [content]
  | _ => contents

/-- The buffers completed as DONE since the last `start_streaming`, in order, each with
the fields it was given back with.
-/
def doneContents (history : List Label) : List FrameBuf := history.foldl doneStep []

@[simp] theorem doneContents_append (history more : List Label)
    : doneContents (history ++ more) = more.foldl doneStep (doneContents history) := by
  simp [doneContents]

/-- A mapped buffer of exactly the size that `queue_setup` chooses. -/
def freshBuf : FrameBuf :=
  {
    plane := List.replicate dummyVideoPlaneSize 0
    mapped := true
    bytesused := 0
    sequence := 0
    timestamp := 0
    state := .dequeued
  }

theorem freshBuf_planeSize : freshBuf.planeSize = dummyVideoPlaneSize := by
  simp [freshBuf, FrameBuf.planeSize]

/-- A streaming driver with an empty list that has completed `n` mapped buffers. -/
structure Ready (n : Nat) (history : List Label) (s : State) : Prop where
  stream : s.stream = .streaming
  timer : s.timer = .idle
  pending : s.dv.timerPending = true
  empty : s.dv.queuedBufs = []
  counter : s.dv.sequence = BitVec.ofNat 32 n
  outside : (s.bufs 0).state ≠ .active
  count : (doneContents history).length = n
  mapped : ∀ content ∈ doneContents history, content.mapped = true

/-- The same driver with a fresh buffer in the handler's hands, before it is filled. -/
structure Loaded (n : Nat) (history : List Label) (s : State) : Prop where
  stream : s.stream = .streaming
  timer : s.timer = .popped 0
  empty : s.dv.queuedBufs = []
  counter : s.dv.sequence = BitVec.ofNat 32 n
  content : s.bufs 0 = { freshBuf with state := .active }
  count : (doneContents history).length = n
  mapped : ∀ content ∈ doneContents history, content.mapped = true

section

variable {frames : Frames} {n : Nat} {history : List Label} {s : State}

/-- Starting a stream right after loading the module completes nothing yet. -/
theorem exists_ready_zero (frames : Frames)
    : ∃ history s, DriverRun frames history s ∧ Ready 0 history s := by
  refine ⟨_, _, Run.nil.snoc (.startStreaming rfl), ?_⟩
  exact {
    stream := rfl
    timer := rfl
    pending := rfl
    empty := rfl
    counter := rfl
    outside := by simp [State.initial]
    count := rfl
    mapped := by simp [doneContents, doneStep]
  }

/-- A ready driver is given a freshly allocated buffer and its timer pops it.
Witness: allocate, prepare and queue buffer 0, let the timer expire, take the lock.
-/
theorem Ready.exists_loaded (run : DriverRun frames history s) (ready : Ready n history s)
    : ∃ history s, DriverRun frames history s ∧ Loaded n history s := by
  have accepted : dummyVideoBufPrepare freshBuf = 0 :=
    dummyVideoBufPrepare_eq_zero.mpr (Nat.le_of_eq freshBuf_planeSize.symm)
  have allocated := run.snoc
    (.allocate 0 0 0 freshBuf ready.outside
      (by simp [dummyVideoQueueSetup])
      (by simp [freshBuf_planeSize, dummyVideoQueueSetup, dummyVideoPlaneSize,
        dummyVideoWidth, dummyVideoHeight]) rfl)
  have prepared := allocated.snoc (.bufPrepare 0 (by simp [freshBuf]))
  have queued := prepared.snoc (.bufQueue 0 (by simp [accepted]) (.inr ready.stream))
  have expired := queued.snoc (.timerExpires ready.pending ready.timer)
  have popped := expired.snoc (.timerPop rfl)
  refine ⟨_, _, popped, ?_⟩
  exact {
    stream := ready.stream
    timer := by simp [timerPop, dummyVideoBufQueue, TimerPc.afterPop, ready.empty]
    empty := by simp [timerPop, dummyVideoBufQueue, ready.empty]
    counter := by simp [timerPop, dummyVideoBufQueue, ready.empty, ready.counter]
    content := by simp [accepted]
    count := by simp [doneStep, ready.count]
    mapped := by simpa [doneStep] using ready.mapped
  }

/-- Filling and completing the loaded buffer makes the driver ready again, one further. -/
theorem Loaded.exists_ready (run : DriverRun frames history s) (loaded : Loaded n history s)
    : ∃ history s, DriverRun frames history s ∧ Ready (n + 1) history s := by
  have filled := run.snoc (.timerFill 0 loaded.timer)
  have done := filled.snoc (.timerDone rfl)
  have rearmed := done.snoc (.timerRearm rfl)
  refine ⟨_, _, rearmed, ?_⟩
  exact {
    stream := loaded.stream
    timer := rfl
    pending := rfl
    empty := by simp [loaded.empty]
    counter := by simp [modTimer, loaded.counter, BitVec.ofNat_add]
    outside := by simp
    count := by simp [doneStep, loaded.count]
    mapped := by
      intro content member
      simp [doneStep] at member
      rcases member with old | rfl
      · exact loaded.mapped content old
      · simp [loaded.content, freshBuf]
  }

/-- Every number of completions is reached, by induction on it. -/
theorem exists_ready (frames : Frames) (n : Nat)
    : ∃ history s, DriverRun frames history s ∧ Ready n history s := by
  induction n with
  | zero => exact exists_ready_zero frames
  | succ n ih =>
      obtain ⟨history, s, run, ready⟩ := ih
      obtain ⟨history, s, run, loaded⟩ := ready.exists_loaded run
      exact loaded.exists_ready run

/-- For every number there is a run about to fill the buffer after that many. -/
theorem exists_loaded (frames : Frames) (n : Nat)
    : ∃ history s, DriverRun frames history s ∧ Loaded n history s := by
  obtain ⟨history, s, run, ready⟩ := exists_ready frames n
  exact ready.exists_loaded run

end

end DummyDrivers.V4l2
