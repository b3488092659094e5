import DummyDrivers.Library.Handover
import DummyDrivers.V4l2.Interleaving

/-! Who owns a buffer: the driver's list and the handler's local buffer together behave as
one first-in first-out hand-over queue, over every interleaving and every session.
-/

namespace DummyDrivers.V4l2

open DummyDrivers.Transition

-----------------------------------------------------------------------------------------
-- The buffers the driver holds
-----------------------------------------------------------------------------------------

/-- The buffer the handler took off the list and has not completed yet. -/
def TimerPc.inFlight : TimerPc → List BufRef
  | .popped buf | .filled buf => [buf]
  | .idle | .entered | .resched => []

/-- All buffers the driver holds, oldest first: the one in flight, then the list. -/
def State.held (s : State) : List BufRef := s.timer.inFlight ++ s.dv.queuedBufs

/-- The hand-over a driver step amounts to. -/
def Label.handover : Label → List (Handover.Action BufRef)
  | .bufQueue buf => [.take buf]
  | .bufferDone buf _ _ => [.giveBack buf]
  | _ => []

/-- A completion without a stop under way needs the handler, so the handler runs or the
timer is pending exactly while a session is open; a stop past `timer_delete_sync` has
neither, and one past its lock section has no queued buffer either.
-/
def TimerFollowsStream (s : State) : Prop :=
  match s.stream with
  | .streaming | .stopping => s.dv.timerPending = true ↔ s.timer = .idle
  | .stopped | .draining => s.timer = .idle ∧ s.dv.timerPending = false
  | .drained => s.timer = .idle ∧ s.dv.timerPending = false ∧ s.dv.queuedBufs = []

/-- videobuf2 records exactly the buffers of `held` as the driver's. -/
def ActiveExactly (bufs : BufRef → FrameBuf) (held : List BufRef) : Prop :=
  ∀ buf, (bufs buf).state = .active ↔ buf ∈ held

/-- What holds in every reachable state: videobuf2 counts exactly the held buffers as the
driver's, each is held once, and the timer follows the streaming calls.
-/
structure Owned (s : State) : Prop where
  active : ActiveExactly s.bufs s.held
  unique : s.held.Nodup
  timer : TimerFollowsStream s

theorem Owned.initial : Owned .initial := by
  refine ⟨?_, ?_, ⟨rfl, rfl⟩⟩
  · simp [ActiveExactly, State.initial, State.held, TimerPc.inFlight, DummyVideo.initial]
  · simp [State.initial, State.held, TimerPc.inFlight, DummyVideo.initial]

-----------------------------------------------------------------------------------------
-- Single fields over single steps
-----------------------------------------------------------------------------------------

@[simp] theorem State.setBuf_dv (s : State) (buf : BufRef) (content : FrameBuf)
    : (s.setBuf buf content).dv = s.dv := rfl

@[simp] theorem State.setBuf_timer (s : State) (buf : BufRef) (content : FrameBuf)
    : (s.setBuf buf content).timer = s.timer := rfl

@[simp] theorem State.setBuf_stream (s : State) (buf : BufRef) (content : FrameBuf)
    : (s.setBuf buf content).stream = s.stream := rfl

@[simp] theorem State.setBuf_bufs (s : State) (buf : BufRef) (content : FrameBuf)
    : (s.setBuf buf content).bufs = Function.update s.bufs buf content := rfl

@[simp] theorem modTimer_queuedBufs (dv : DummyVideo)
    : (modTimer dv).queuedBufs = dv.queuedBufs := rfl

theorem timerFill_queuedBufs (frames : Frames) (now : BitVec 64) (dv : DummyVideo)
    (buf : FrameBuf)
    : (timerFill frames now dv buf).1.queuedBufs = dv.queuedBufs := by
  unfold timerFill
  split <;> rfl

/-- Filling a buffer leaves it with videobuf2's record unchanged. -/
@[simp] theorem timerFill_state (frames : Frames) (now : BitVec 64) (dv : DummyVideo)
    (buf : FrameBuf)
    : (timerFill frames now dv buf).2.1.state = buf.state := by
  unfold timerFill
  dsimp only
  split <;> rfl

@[simp] theorem timerFill_mapped (frames : Frames) (now : BitVec 64) (dv : DummyVideo)
    (buf : FrameBuf)
    : (timerFill frames now dv buf).2.1.mapped = buf.mapped := by
  unfold timerFill
  dsimp only
  split <;> rfl

/-- Filling a buffer advances the counter and touches nothing else of the device. -/
@[simp] theorem timerFill_dv (frames : Frames) (now : BitVec 64) (dv : DummyVideo)
    (buf : FrameBuf)
    : (timerFill frames now dv buf).1 = { dv with sequence := dv.sequence + 1 } := by
  unfold timerFill
  dsimp only
  split <;> rfl

/-- The lock section moves the first queued buffer into the handler's hands. -/
theorem timerPop_held (dv : DummyVideo)
    : (TimerPc.afterPop (timerPop dv).1).inFlight ++ (timerPop dv).2.queuedBufs
      = dv.queuedBufs := by
  cases queued : dv.queuedBufs with
  | nil => simp [timerPop, queued, TimerPc.afterPop, TimerPc.inFlight]
  | cons buf rest => simp [timerPop, queued, TimerPc.afterPop, TimerPc.inFlight]

/-- Every step changes the held buffers as its hand-over says, given who owns what. -/
theorem Step.held {frames : Frames} {s t : State} {label : Label}
    (next : Step frames s label t) (owned : Owned s)
    : Run Handover.Step s.held label.handover t.held := by
  cases next with
  | allocate | userptr | bufPrepare | startStreaming | stopStreaming | stopUnlock
  | stopReturn => exact .nil
  | bufQueue buf prepared noStop =>
      have fresh : buf ∉ s.held := by
        rw [← owned.active buf, prepared]
        decide
      simpa only [State.held, Label.handover, dummyVideoBufQueue, State.setBuf_timer,
        List.append_assoc] using Run.single (Handover.Step.take fresh)
  | timerExpires pending idle =>
      simpa [State.held, Label.handover, idle, TimerPc.inFlight] using Run.nil
  | timerPop entered =>
      have same := timerPop_held s.dv
      simp only [State.held, Label.handover, entered, same]
      exact .nil
  | timerFill now popped =>
      simpa [State.held, Label.handover, popped, TimerPc.inFlight] using Run.nil
  | timerDone filled =>
      simpa [State.held, Label.handover, filled, TimerPc.inFlight]
        using Run.single Handover.Step.giveBack
  | timerRearm resched =>
      simpa [State.held, Label.handover, resched, TimerPc.inFlight, modTimer] using Run.nil
  | timerDeleteSync stopping idle =>
      simpa [State.held, Label.handover, idle, TimerPc.inFlight, V4l2.timerDeleteSync]
        using Run.nil
  | @stopDrain buf rest draining first =>
      have idle : s.timer = .idle := by
        have timer := owned.timer
        simp only [TimerFollowsStream, draining] at timer
        exact timer.1
      simpa [State.held, Label.handover, idle, first, TimerPc.inFlight]
        using Run.single Handover.Step.giveBack

/-- Every step keeps the timer in step with the streaming calls. -/
theorem Step.timerFollowsStream {frames : Frames} {s t : State} {label : Label}
    (next : Step frames s label t) (timer : TimerFollowsStream s)
    : TimerFollowsStream t := by
  cases next with
  | allocate | userptr | bufPrepare => exact timer
  | bufQueue buf prepared noStop =>
      rcases noStop with stopped | streaming
      · simpa [TimerFollowsStream, stopped, dummyVideoBufQueue] using timer
      · simpa [TimerFollowsStream, streaming, dummyVideoBufQueue] using timer
  | startStreaming stopped =>
      simp only [TimerFollowsStream, stopped] at timer
      simp [TimerFollowsStream, dummyVideoStartStreaming, modTimer, timer.1]
  | timerExpires pending idle =>
      cases stream : s.stream <;> simp_all [TimerFollowsStream]
  | timerPop entered =>
      have left : (TimerPc.afterPop (V4l2.timerPop s.dv).1) ≠ .idle := by
        cases (V4l2.timerPop s.dv).1 <;> simp [TimerPc.afterPop]
      have pending : (V4l2.timerPop s.dv).2.timerPending = s.dv.timerPending := by
        unfold V4l2.timerPop
        split <;> rfl
      cases stream : s.stream <;> simp_all [TimerFollowsStream]
  | timerFill now popped => cases stream : s.stream <;> simp_all [TimerFollowsStream]
  | timerDone filled => cases stream : s.stream <;> simp_all [TimerFollowsStream]
  | timerRearm resched =>
      cases stream : s.stream <;> simp_all [TimerFollowsStream, modTimer]
  | stopStreaming streaming => simpa [TimerFollowsStream, streaming] using timer
  | timerDeleteSync stopping idle =>
      simp [TimerFollowsStream, V4l2.timerDeleteSync, idle]
  | stopDrain draining first => simpa [TimerFollowsStream, draining] using timer
  | stopUnlock draining empty =>
      simp only [TimerFollowsStream, draining] at timer
      exact ⟨timer.1, timer.2, empty⟩
  | stopReturn drained =>
      simp only [TimerFollowsStream, drained] at timer
      exact ⟨timer.1, timer.2.1⟩

/-- A buffer outside the driver may be given any fields that do not make it active. -/
theorem ActiveExactly.outside {bufs : BufRef → FrameBuf} {held : List BufRef}
    (exact : ActiveExactly bufs held) {buf : BufRef} {content : FrameBuf}
    (absent : buf ∉ held) (inactive : content.state ≠ .active)
    : ActiveExactly (Function.update bufs buf content) held := by
  intro other
  by_cases same : other = buf
  · simp [same, absent, inactive]
  · simpa [same] using exact other

/-- A hand-over makes its buffer active and appends it to the held ones. -/
theorem ActiveExactly.take {bufs : BufRef → FrameBuf} {held : List BufRef}
    (exact : ActiveExactly bufs held) (buf : BufRef) {content : FrameBuf}
    (active : content.state = .active)
    : ActiveExactly (Function.update bufs buf content) (held ++ [buf]) := by
  intro other
  by_cases same : other = buf
  · simp [same, active]
  · simpa [same] using exact other

/-- A completion of the oldest held buffer ends its active state. -/
theorem ActiveExactly.giveBack {bufs : BufRef → FrameBuf} {buf : BufRef}
    {held : List BufRef} (exact : ActiveExactly bufs (buf :: held))
    (unique : (buf :: held).Nodup) {content : FrameBuf} (inactive : content.state ≠ .active)
    : ActiveExactly (Function.update bufs buf content) held := by
  have absent := (List.nodup_cons.mp unique).1
  intro other
  by_cases same : other = buf
  · simp [same, absent, inactive]
  · simpa [same] using exact other

/-- Writing a buffer's other fields leaves videobuf2's record as it was. -/
theorem ActiveExactly.write {bufs : BufRef → FrameBuf} {held : List BufRef}
    (exact : ActiveExactly bufs held) {buf : BufRef} {content : FrameBuf}
    (kept : content.state = (bufs buf).state)
    : ActiveExactly (Function.update bufs buf content) held := by
  intro other
  by_cases same : other = buf
  · simpa [same, kept] using exact buf
  · simpa [same] using exact other

/-- videobuf2's record keeps naming exactly the held buffers: a hand-over makes its buffer
active, a completion ends that, and no other step touches an active buffer's record.
-/
theorem Step.active {frames : Frames} {s t : State} {label : Label}
    (next : Step frames s label t) (owned : Owned s)
    : ActiveExactly t.bufs t.held := by
  have active := owned.active
  have unique := owned.unique
  cases next with
  | startStreaming | stopStreaming | stopUnlock | stopReturn => exact active
  | allocate buf _ _ content outside _ _ fresh
  | userptr buf content outside fresh =>
      exact active.outside (by rwa [← active buf]) (by simp [fresh])
  | bufPrepare buf outside =>
      refine active.outside (by rwa [← active buf]) ?_
      dsimp only
      split <;> decide
  | bufQueue buf prepared noStop =>
      have marked : ({ s.bufs buf with state := .active } : FrameBuf).state = .active := rfl
      simpa only [State.held, dummyVideoBufQueue, State.setBuf_timer, State.setBuf_bufs,
        List.append_assoc] using active.take buf marked
  | timerExpires pending idle =>
      simpa only [State.held, idle, TimerPc.inFlight] using active
  | timerPop entered =>
      have same := timerPop_held s.dv
      simp only [State.held, entered, TimerPc.inFlight, List.nil_append] at active
      simpa only [State.held, same] using active
  | @timerFill buf now popped =>
      have written := active.write (timerFill_state frames now s.dv (s.bufs buf))
      simpa only [State.held, State.setBuf_bufs, popped, timerFill_dv, TimerPc.inFlight]
        using written
  | @timerDone buf filled =>
      simp only [State.held, filled, TimerPc.inFlight, List.singleton_append]
        at active unique
      exact active.giveBack unique (by simp)
  | timerRearm resched =>
      simpa only [State.held, resched, modTimer_queuedBufs, TimerPc.inFlight] using active
  | timerDeleteSync stopping idle => exact active
  | stopDrain draining first =>
      have idle : s.timer = .idle := by
        have timer := owned.timer
        simp only [TimerFollowsStream, draining] at timer
        exact timer.1
      simp only [State.held, idle, first, TimerPc.inFlight, List.nil_append]
        at active unique
      simpa only [State.held, State.setBuf_timer, State.setBuf_bufs, idle,
        TimerPc.inFlight, List.nil_append]
        using active.giveBack unique (by simp)

/-- Ownership survives every step; a held buffer stays held once by the hand-over step. -/
theorem Owned.step {frames : Frames} {s t : State} {label : Label} (owned : Owned s)
    (next : Step frames s label t)
    : Owned t where
  active := next.active owned
  unique := Handover.held_nodup (next.held owned) owned.unique
  timer := next.timerFollowsStream owned.timer

/-- Every reachable state is owned, by run induction. -/
theorem DriverRun.owned {frames : Frames} {history : List Label} {s : State}
    (run : DriverRun frames history s)
    : Owned s :=
  Run.invariant (fun _ s => Owned s) run .initial (fun _ owned next => owned.step next)

-----------------------------------------------------------------------------------------
-- Histories of the driver are histories of the hand-over queue
-----------------------------------------------------------------------------------------

/-- Every run of the driver is a run of the hand-over queue over its held buffers. -/
theorem DriverRun.handover {frames : Frames} {history : List Label} {s : State}
    (run : DriverRun frames history s)
    : Run Handover.Step [] (history.flatMap Label.handover) s.held :=
  Run.simulate State.held Label.handover run
    (fun earlier next => next.held (DriverRun.owned earlier))

/-- The hand-over history takes what `buf_queue` hands over, by history induction. -/
theorem taken_handover (history : List Label)
    : Handover.taken (history.flatMap Label.handover) = handedOver history := by
  induction history with
  | nil => rfl
  | cons label rest ih =>
      simp only [Handover.taken, handedOver] at ih
      cases label <;>
        simp [Handover.taken, handedOver, Label.handover, Handover.Action.taken?,
          List.filterMap_cons, ih]

/-- The hand-over history gives back what is completed, by history induction. -/
theorem givenBack_handover (history : List Label)
    : Handover.givenBack (history.flatMap Label.handover) = completed history := by
  induction history with
  | nil => rfl
  | cons label rest ih =>
      simp only [Handover.givenBack, completed] at ih
      cases label <;>
        simp [Handover.givenBack, completed, Label.handover, Handover.Action.givenBack?,
          List.filterMap_cons, ih]

/-- Everything handed over is completed or still held, in order. -/
theorem DriverRun.conservation {frames : Frames} {history : List Label} {s : State}
    (run : DriverRun frames history s)
    : handedOver history = completed history ++ s.held := by
  rw [← taken_handover, ← givenBack_handover]
  exact Handover.conservation run.handover

/-- A buffer's hand-overs exceed its completions by one exactly while it is held. -/
theorem DriverRun.count_handedOver {frames : Frames} {history : List Label} {s : State}
    (run : DriverRun frames history s) (buf : BufRef)
    : (handedOver history).count buf
      = (completed history).count buf + if buf ∈ s.held then 1 else 0 := by
  rw [← taken_handover, ← givenBack_handover]
  exact Handover.count_taken run.handover buf

/-- Outside the `stopped` position a session is open, by run induction. -/
theorem DriverRun.sessionOpen {frames : Frames} {history : List Label} {s : State}
    (run : DriverRun frames history s) (active : s.stream ≠ .stopped)
    : SessionOpen history := by
  refine Run.invariant (fun history s => s.stream ≠ .stopped → SessionOpen history) run
    (fun no => absurd rfl no) ?_ active
  intro past before label after _ opened next active
  cases next with
  | startStreaming stopped => exact .start _ _
  | stopReturn drained => exact absurd rfl active
  | stopStreaming at_ | timerDeleteSync at_ | stopDrain at_ | stopUnlock at_ =>
      exact (opened (by simp [at_])).append (by simp)
  | _ => exact (opened active).append (by simp)

/-- A buffer about to be completed is one the driver holds. -/
theorem Step.completes_held {frames : Frames} {s t : State} {buf : BufRef}
    {content : FrameBuf} {state : Vb2State}
    (next : Step frames s (.bufferDone buf content state) t)
    : buf ∈ s.held := by
  cases next with
  | timerDone filled => simp [State.held, filled, TimerPc.inFlight]
  | stopDrain draining first => simp [State.held, first]

/-- A DONE completion comes from the handler, which runs only inside a session. -/
theorem Step.done_streaming {frames : Frames} {s t : State} {buf : BufRef}
    {content : FrameBuf} (next : Step frames s (.bufferDone buf content .done) t)
    (timer : TimerFollowsStream s)
    : s.stream ≠ .stopped := by
  cases next with
  | timerDone filled =>
      intro stopped
      simp [TimerFollowsStream, stopped, filled] at timer

-----------------------------------------------------------------------------------------
-- The ownership contract
-----------------------------------------------------------------------------------------

/-- In every reachable state of every interleaving, over any number of sessions:
completions are a prefix of the hand-overs; whatever is completed next is owned by the
driver and one hand-over ahead of its completions, and a DONE completion is inside a
session; and a `stop_streaming` that returns leaves no buffer and no timer behind.
Witness: the driver's runs are runs of the hand-over queue.
-/
theorem dummyVideo_handover_contract {frames : Frames} {history : List Label} {s : State}
    (run : DriverRun frames history s)
    : completed history <+: handedOver history
      ∧ (∀ buf content state next,
          Step frames s (.bufferDone buf content state) next
          → (s.bufs buf).state = .active
            ∧ (handedOver history).count buf = (completed history).count buf + 1
            ∧ (state = .done → SessionOpen history))
      ∧ (∀ next,
          Step frames s .stopReturn next
          → next.dv.queuedBufs = []
            ∧ next.timer = .idle
            ∧ next.dv.timerPending = false
            ∧ completed history = handedOver history) := by
  have owned := run.owned
  have conserved := run.conservation
  refine ⟨⟨s.held, conserved.symm⟩, ?_, ?_⟩
  · intro buf content state next step
    have held := step.completes_held
    refine ⟨(owned.active buf).mpr held, by simpa [held] using run.count_handedOver buf, ?_⟩
    intro done
    subst done
    exact run.sessionOpen (step.done_streaming owned.timer)
  · intro next step
    cases step with
    | stopReturn drained =>
        have timer := owned.timer
        simp only [TimerFollowsStream, drained] at timer
        obtain ⟨idle, notPending, empty⟩ := timer
        refine ⟨empty, idle, notPending, ?_⟩
        simpa [State.held, idle, empty, TimerPc.inFlight] using conserved.symm

-----------------------------------------------------------------------------------------
-- Runs with queued buffers
-----------------------------------------------------------------------------------------

/-- A run that has started to stream and has some buffers queued, none of them completed. -/
structure Queued (frames : Frames) (history : List Label) (queue : List BufRef) (s : State)
    : Prop where
  run : DriverRun frames history s
  stream : s.stream = .streaming
  timer : s.timer = .idle
  pending : s.dv.timerPending = true
  queued : s.dv.queuedBufs = queue
  handedOver : handedOver history = queue
  completed : completed history = []

/-- A run whose handler has just taken the first of the queued buffers. -/
structure Popped (frames : Frames) (history : List Label) (buf : BufRef) (rest : List BufRef)
    (s : State) : Prop where
  run : DriverRun frames history s
  stream : s.stream = .streaming
  timer : s.timer = .popped buf
  queued : s.dv.queuedBufs = rest
  handedOver : V4l2.handedOver history = buf :: rest
  completed : V4l2.completed history = []

section

variable {frames : Frames} {history : List Label} {queue : List BufRef} {s : State}

theorem Queued.held (queued : Queued frames history queue s) : s.held = queue := by
  rw [State.held, queued.timer, queued.queued]
  rfl

theorem Queued.none (frames : Frames) : ∃ history s, Queued frames history [] s := by
  have started : DriverRun frames _ _ := Run.nil.snoc (.startStreaming rfl)
  exact ⟨_, _, started, rfl, rfl, rfl, rfl, rfl, rfl⟩

/-- One more buffer can be queued while the driver streams. -/
theorem Queued.more (queued : Queued frames history queue s) {buf : BufRef}
    (fresh : buf ∉ queue) {content : FrameBuf} (outside : content.state = .dequeued)
    (large : dummyVideoPlaneSize ≤ content.planeSize)
    : ∃ history t, Queued frames history (queue ++ [buf]) t := by
  have accepted : dummyVideoBufPrepare content = 0 := dummyVideoBufPrepare_eq_zero.mpr large
  have free : (s.bufs buf).state ≠ .active := by
    intro active
    exact fresh (queued.held ▸ (queued.run.owned.active buf).mp active)
  have given := queued.run.snoc (.userptr buf content free outside)
  have prepared := given.snoc (.bufPrepare buf (by simp [State.setBuf, outside]))
  have handed := prepared.snoc
    (.bufQueue buf (by simp [State.setBuf, accepted]) (.inr queued.stream))
  refine ⟨_, _, handed, queued.stream, queued.timer, queued.pending, ?_, ?_, ?_⟩
  · exact congrArg (· ++ [buf]) queued.queued
  · simp only [handedOver_append, queued.handedOver, List.append_assoc]
    simp [V4l2.handedOver]
  · simp only [completed_append, queued.completed]
    rfl

/-- Any distinct buffers can be queued, by induction from their end. -/
theorem exists_queued (frames : Frames) {content : FrameBuf} (outside : content.state = .dequeued)
    (large : dummyVideoPlaneSize ≤ content.planeSize) (queue : List BufRef)
    (distinct : queue.Nodup)
    : ∃ history s, Queued frames history queue s := by
  induction queue using List.reverseRecOn with
  | nil => exact Queued.none frames
  | append_singleton queue buf ih =>
      obtain ⟨apart, _, different⟩ := List.nodup_append.mp distinct
      obtain ⟨history, s, queued⟩ := ih apart
      refine queued.more ?_ outside large
      exact fun member => different buf member buf (List.mem_singleton_self buf) rfl

/-- The timer expires and its handler takes the first buffer. -/
theorem Queued.popped {buf : BufRef} {rest : List BufRef}
    (queued : Queued frames history (buf :: rest) s)
    : ∃ history t, Popped frames history buf rest t := by
  have first
      : timerPop { s.dv with timerPending := false }
        = (some buf, { s.dv with queuedBufs := rest, timerPending := false }) := by
    rw [timerPop, queued.queued]
  have entered := queued.run.snoc (.timerExpires queued.pending queued.timer)
  have taken := entered.snoc (.timerPop rfl)
  refine ⟨_, _, taken, queued.stream, ?_, ?_, ?_, ?_⟩
  · exact congrArg (TimerPc.afterPop ·.1) first
  · exact congrArg (·.2.queuedBufs) first
  · simp only [handedOver_append, queued.handedOver, List.append_assoc]
    simp [V4l2.handedOver]
  · simp only [completed_append, queued.completed]
    rfl

theorem Popped.held {buf : BufRef} (popped : Popped frames history buf queue s)
    : s.held = buf :: queue := by
  rw [State.held, popped.timer, popped.queued]
  rfl

/-- The handler fills and completes the buffer that it has taken. -/
theorem Popped.completes {buf : BufRef} (popped : Popped frames history buf queue s)
    : ∃ copy content filled done,
        Step frames s (.timerFill buf copy) filled
        ∧ Step frames filled (.bufferDone buf content .done) done
        ∧ done.stream = .streaming
        ∧ done.timer = .resched
        ∧ done.dv.queuedBufs = queue := by
  refine ⟨_, _, _, _, .timerFill 0 popped.timer, .timerDone rfl, popped.stream, rfl, ?_⟩
  exact (timerFill_queuedBufs frames 0 s.dv (s.bufs buf)).trans popped.queued

end

/-- A table of empty frames. -/
def blankFrames : Frames :=
  { entries := List.replicate 25 (dummyFrame []), length_eq := rfl }

/-- Witness: of two queued buffers a tick completes the first, and a stop the second. -/
theorem dummyVideo_handover_contract_drained
    : ∃ ticked s later t,
        DriverRun blankFrames ticked s
        ∧ (∃ content next, Step blankFrames s (.bufferDone 7 content .done) next)
        ∧ (handedOver ticked).count 7 = (completed ticked).count 7 + 1
        ∧ SessionOpen ticked
        ∧ DriverRun blankFrames (ticked ++ later) t
        ∧ handedOver (ticked ++ later) = [7, 8]
        ∧ ∃ next,
            Step blankFrames t .stopReturn next ∧ completed (ticked ++ later) = [7, 8] := by
  let content : FrameBuf :=
    { plane := List.replicate dummyVideoPlaneSize 0, mapped := true, bytesused := 0,
      sequence := 0, timestamp := 0, state := .dequeued }
  have large : dummyVideoPlaneSize ≤ content.planeSize := by simp [content, FrameBuf.planeSize]
  obtain ⟨_, _, queued⟩ := exists_queued blankFrames rfl large [7, 8] (by decide)
  obtain ⟨_, s, popped⟩ := queued.popped
  obtain ⟨_, _, filled, done, fill, complete, stream, timer, left⟩ := popped.completes
  have ticked := popped.run.snoc fill
  have owns := (dummyVideo_handover_contract ticked).2.1 7 _ .done _ complete
  have rearmed := (Run.single complete).snoc (.timerRearm timer)
  have stopping := rearmed.snoc (.stopStreaming stream)
  have deleted := stopping.snoc (.timerDeleteSync rfl rfl)
  have given := deleted.snoc (.stopDrain rfl left)
  have later := given.snoc (.stopUnlock rfl rfl)
  have drained := ticked.append later
  have returns := (dummyVideo_handover_contract drained).2.2 _ (.stopReturn rfl)
  refine ⟨_, filled, _, _, ticked, ⟨_, done, complete⟩, owns.2.1, owns.2.2 rfl, drained, ?_, _,
    .stopReturn rfl, returns.2.2.2.trans ?_⟩
  · simp only [handedOver_append, popped.handedOver]
    rfl
  · simp only [handedOver_append, popped.handedOver]
    rfl

end DummyDrivers.V4l2
