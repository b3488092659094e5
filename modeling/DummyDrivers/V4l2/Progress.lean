import DummyDrivers.V4l2.Ownership
import DummyDrivers.V4l2.Sessions

/-! What the v4l2 driver gets done: as many ticks as buffers are queued give all of them back,
a tick is always to come while the driver streams, and a stop that has begun can finish on
its own.
-/

namespace DummyDrivers.V4l2

open DummyDrivers.Transition

variable {frames : Frames} {history labels : List Label} {s t : State}

def Label.isPop : Label → Bool
  | .timerPop _ => true
  | _ => false

/-- The number of ticks whose handler has passed its lock section. -/
def ticks (labels : List Label) : Nat := labels.countP Label.isPop

/-- The steps of the handler and of a stop that has begun. -/
def Label.isOwn : Label → Bool
  | .timerPop _ | .timerFill .. | .bufferDone .. | .timerRearm => true
  | .timerDeleteSync | .stopUnlock | .stopReturn => true
  | _ => false

/-- What is completed from some state on, with what is held then, is what was held and what
has been handed over.
-/
theorem DriverRun.conservation_from (run : DriverRun frames history s)
    (later : Run (Step frames) s labels t)
    : completed labels ++ t.held = s.held ++ handedOver labels := by
  have first := run.conservation
  have both := DriverRun.conservation (run.append later)
  rw [completed_append, handedOver_append, first, List.append_assoc, List.append_assoc] at both
  exact (List.append_cancel_left both).symm

-----------------------------------------------------------------------------------------
-- Ticks
-----------------------------------------------------------------------------------------

/-- The buffers that have left the list since some state, given back or in flight. -/
def moved (labels : List Label) (s : State) : Nat :=
  (completed labels).length + s.timer.inFlight.length

/-- No step undoes a move, and a tick moves a buffer unless the list is empty. -/
theorem Step.moved_le {label : Label} (step : Step frames s label t) (past : List Label)
    : moved past s ≤ moved (past ++ [label]) t
      ∧ (label.isPop = true
        → moved past s + 1 ≤ moved (past ++ [label]) t ∨ t.held = []) := by
  simp only [moved, completed_append, List.length_append]
  cases step with
  | timerPop entered =>
      rcases queue : s.dv.queuedBufs with _ | ⟨buf, rest⟩
      · have none : V4l2.timerPop s.dv = (none, s.dv) := by rw [V4l2.timerPop, queue]
        simp [none, entered, TimerPc.afterPop, TimerPc.inFlight, State.held, queue]
      · have some : (V4l2.timerPop s.dv).1 = some buf := by rw [V4l2.timerPop, queue]
        simp [some, entered, TimerPc.afterPop, TimerPc.inFlight, completed]
  | timerDone filled => simp [filled, completed, TimerPc.inFlight, Label.isPop]
  | timerExpires pending idle => simp [idle, TimerPc.inFlight, Label.isPop]
  | timerFill now popped => simp [popped, TimerPc.inFlight, Label.isPop]
  | timerRearm resched => simp [resched, TimerPc.inFlight, Label.isPop]
  | stopDrain draining first => simp [completed, Label.isPop]
  | allocate | userptr | bufPrepare | bufQueue =>
      exact ⟨Nat.add_le_add_right (Nat.le_add_right _ _) _, by simp [Label.isPop]⟩
  | startStreaming | stopStreaming | timerDeleteSync | stopUnlock | stopReturn =>
      exact ⟨Nat.add_le_add_right (Nat.le_add_right _ _) _, by simp [Label.isPop]⟩

/-- Each tick moves a buffer until all that were held have been moved. -/
theorem DriverRun.moved_ge (run : DriverRun frames history s)
    (later : Run (Step frames) s labels t)
    : s.held.length ≤ moved labels t
      ∨ s.timer.inFlight.length + ticks labels ≤ moved labels t := by
  refine Run.invariant
    (fun labels t =>
      s.held.length ≤ moved labels t
      ∨ s.timer.inFlight.length + ticks labels ≤ moved labels t)
    later (.inr (by simp [ticks, moved])) ?_
  intro past before label after earlier kept step
  obtain ⟨mono, pop⟩ := step.moved_le past
  rcases kept with all | some
  · exact .inl (Nat.le_trans all mono)
  rw [ticks, List.countP_append, ← ticks]
  cases popped : label.isPop with
  | false =>
      refine .inr ?_
      rw [List.countP_singleton, popped]
      exact Nat.le_trans some mono
  | true =>
      rw [List.countP_singleton, popped]
      rcases pop popped with moves | empty
      · exact .inr (Nat.le_trans (Nat.add_le_add_right some 1) moves)
      · refine .inl ?_
        have conserved := run.conservation_from (earlier.snoc step)
        rw [empty, List.append_nil] at conserved
        rw [moved, conserved, List.length_append]
        omega

/-- A run whose handler has taken the first of two queued buffers. -/
theorem exists_popped (frames : Frames) : ∃ history s, Popped frames history 0 [1] s := by
  obtain ⟨_, _, queued⟩ :=
    exists_queued frames rfl (Nat.le_of_eq freshBuf_planeSize.symm) [0, 1] (by decide)
  exact queued.popped

/-- From any reachable state on, and whatever else happens in between, as many ticks as buffers
are queued give all held buffers back, in their order, once the handler has finished.
-/
theorem dummyVideo_ticks_complete (run : DriverRun frames history s)
    (later : Run (Step frames) s labels t) (enough : s.dv.queuedBufs.length ≤ ticks labels)
    (finished : t.timer.inFlight = [])
    : s.held <+: completed labels := by
  have conserved := run.conservation_from later
  have length : s.held.length ≤ (completed labels).length := by
    have held : s.held.length = s.timer.inFlight.length + s.dv.queuedBufs.length :=
      List.length_append
    have flight : moved labels t = (completed labels).length := by
      rw [moved, finished, List.length_nil, Nat.add_zero]
    rcases run.moved_ge later with all | some <;> omega
  exact List.prefix_of_prefix_length_le ⟨_, rfl⟩ ⟨_, conserved⟩ length

/-- Witness: after the buffer in flight, one tick gives the queued buffer back. -/
theorem dummyVideo_ticks_complete_two
    : ∃ history s labels t,
        DriverRun blankFrames history s
        ∧ Run (Step blankFrames) s labels t
        ∧ s.held = [0, 1]
        ∧ [0, 1] <+: completed labels := by
  obtain ⟨history, s, popped⟩ := exists_popped blankFrames
  obtain ⟨_, _, _, done, fill, complete, _, timer, left⟩ := popped.completes
  have first := ((Run.single fill).snoc complete).snoc (.timerRearm timer)
  have second := (first.snoc (.timerExpires rfl rfl)).snoc (.timerPop rfl)
  have taken
      : TimerPc.afterPop (timerPop { modTimer done.dv with timerPending := false }).1
        = .popped 1 := by
    simp [timerPop, left, TimerPc.afterPop]
  have later := (second.snoc (.timerFill 0 taken)).snoc (.timerDone rfl)
  have enough : s.dv.queuedBufs.length ≤ 1 := by rw [popped.queued]; exact Nat.le_refl 1
  have given := dummyVideo_ticks_complete popped.run later enough rfl
  rw [popped.held] at given
  exact ⟨history, s, _, _, popped.run, later, popped.held, given⟩

-----------------------------------------------------------------------------------------
-- The handler and the stop by themselves
-----------------------------------------------------------------------------------------

/-- A run of a few of the driver's own steps. -/
structure OwnRun (frames : Frames) (s : State) (labels : List Label) (t : State) (bound : Nat)
    : Prop where
  run : Run (Step frames) s labels t
  own : ∀ label ∈ labels, label.isOwn = true
  short : labels.length ≤ bound

theorem OwnRun.single {label : Label} (step : Step frames s label t) (own : label.isOwn = true)
    : OwnRun frames s [label] t 1 :=
  ⟨.single step, fun _ member => List.mem_singleton.mp member ▸ own, Nat.le_refl 1⟩

theorem OwnRun.append {middle : State} {first second : List Label} {less more : Nat}
    (left : OwnRun frames s first middle less) (right : OwnRun frames middle second t more)
    : OwnRun frames s (first ++ second) t (less + more) := by
  refine ⟨left.run.append right.run, ?_, ?_⟩
  · intro label member
    rcases List.mem_append.mp member with earlier | later
    · exact left.own label earlier
    · exact right.own label later
  · rw [List.length_append]
    exact Nat.add_le_add left.short right.short

theorem OwnRun.nil (frames : Frames) (s : State) (bound : Nat) : OwnRun frames s [] s bound :=
  ⟨.nil, fun _ member => absurd member List.not_mem_nil, Nat.zero_le bound⟩

/-- The handler can finish within some steps. -/
def HandlerFinishes (frames : Frames) (s : State) (bound : Nat) : Prop :=
  ∃ labels t,
    OwnRun frames s labels t bound
    ∧ t.timer = .idle
    ∧ t.stream = s.stream
    ∧ t.dv.queuedBufs.length ≤ s.dv.queuedBufs.length

theorem HandlerFinishes.after {middle : State} {label : Label} {bound : Nat}
    (rest : HandlerFinishes frames middle bound) (step : Step frames s label middle)
    (own : label.isOwn = true) (stream : middle.stream = s.stream)
    (queued : middle.dv.queuedBufs.length ≤ s.dv.queuedBufs.length)
    : HandlerFinishes frames s (1 + bound) := by
  obtain ⟨labels, t, run, idle, kept, less⟩ := rest
  exact ⟨_, t, (OwnRun.single step own).append run, idle, kept.trans stream,
    Nat.le_trans less queued⟩

theorem handlerFinishes_resched (resched : s.timer = .resched) : HandlerFinishes frames s 1 := by
  have idle : HandlerFinishes frames { s with dv := modTimer s.dv, timer := .idle } 0 :=
    ⟨[], _, .nil frames _ 0, rfl, rfl, Nat.le_refl _⟩
  exact idle.after (.timerRearm resched) rfl rfl (Nat.le_refl _)

theorem handlerFinishes_filled {buf : BufRef} (filled : s.timer = .filled buf)
    : HandlerFinishes frames s 2 :=
  (handlerFinishes_resched rfl).after (.timerDone filled) rfl rfl (Nat.le_refl _)

theorem handlerFinishes_popped {buf : BufRef} (popped : s.timer = .popped buf)
    : HandlerFinishes frames s 3 :=
  (handlerFinishes_filled rfl).after (.timerFill 0 popped) rfl rfl
    (Nat.le_of_eq (congrArg List.length (timerFill_queuedBufs frames 0 s.dv (s.bufs buf))))

/-- The handler finishes by itself, wherever it stands. -/
theorem handlerFinishes (frames : Frames) (s : State) : HandlerFinishes frames s 4 := by
  have more {bound : Nat} (finishes : HandlerFinishes frames s bound) (few : bound ≤ 4)
      : HandlerFinishes frames s 4 := by
    obtain ⟨labels, t, run, rest⟩ := finishes
    exact ⟨labels, t, ⟨run.run, run.own, Nat.le_trans run.short few⟩, rest⟩
  cases timer : s.timer with
  | idle => exact ⟨[], s, .nil frames s 4, timer, rfl, Nat.le_refl _⟩
  | entered =>
      rcases queue : s.dv.queuedBufs with _ | ⟨buf, rest⟩
      · have none : timerPop s.dv = (none, s.dv) := by rw [timerPop, queue]
        refine more (HandlerFinishes.after (handlerFinishes_resched ?_)
          (.timerPop timer) rfl rfl ?_) (by omega)
        · rw [none]
          rfl
        · rw [none]
      · have some : timerPop s.dv = (some buf, { s.dv with queuedBufs := rest }) := by
          rw [timerPop, queue]
        refine more (HandlerFinishes.after (@handlerFinishes_popped frames _ buf ?_)
          (.timerPop timer) rfl rfl ?_) (by omega)
        · rw [some]
          rfl
        · rw [some, queue]
          exact Nat.le_succ _
  | popped buf => exact more (handlerFinishes_popped timer) (by omega)
  | filled buf => exact more (handlerFinishes_filled timer) (by omega)
  | resched => exact more (handlerFinishes_resched timer) (by omega)

/-- A stop gives the list back by itself, by induction on the list. -/
theorem exists_drained {queue : List BufRef} (draining : s.stream = .draining)
    (queued : s.dv.queuedBufs = queue)
    : ∃ labels t,
        OwnRun frames s labels t queue.length
        ∧ t.stream = .draining
        ∧ t.dv.queuedBufs = []
        ∧ t.timer = s.timer := by
  induction queue generalizing s with
  | nil => exact ⟨[], s, .nil frames s 0, draining, queued, rfl⟩
  | cons buf rest ih =>
      let next : State :=
        { s.setBuf buf { s.bufs buf with state := .error } with
          dv := { s.dv with queuedBufs := rest } }
      have step : Step frames s (.bufferDone buf (s.bufs buf) .error) next :=
        .stopDrain draining queued
      have stillDraining : next.stream = .draining := draining
      obtain ⟨labels, t, run, stream, empty, timer⟩ := ih stillDraining rfl
      refine ⟨[.bufferDone buf (s.bufs buf) .error] ++ labels, t, ?_, stream, empty, timer⟩
      rw [List.length_cons, Nat.add_comm]
      exact (OwnRun.single step rfl).append run

theorem own_handsNothingOver (own : ∀ label ∈ labels, label.isOwn = true)
    : handedOver labels = [] := by
  apply List.filterMap_eq_nil_iff.mpr
  intro label member
  have kind := own label member
  cases label <;> first | rfl | contradiction

/-- A stop past its `timer_delete_sync` returns by itself. -/
theorem exists_returned_draining (draining : s.stream = .draining)
    : ∃ labels t,
        OwnRun frames s labels t (s.dv.queuedBufs.length + 2)
        ∧ t.stream = .stopped
        ∧ t.dv.queuedBufs = []
        ∧ t.timer = s.timer := by
  obtain ⟨labels, drained, run, stream, empty, timer⟩ := @exists_drained frames s _ draining rfl
  have unlocked : Step frames drained .stopUnlock _ := .stopUnlock stream empty
  have returned : Step frames { drained with stream := .drained } .stopReturn _ :=
    .stopReturn rfl
  exact ⟨_, _, run.append ((OwnRun.single unlocked rfl).append (.single returned rfl)), rfl,
    empty, timer⟩

/-- In every reachable state in which a stop is under way, it can return by steps of its own
and of the handler alone, and these give back all buffers that were held, in their order.
-/
theorem dummyVideo_stop_returns (run : DriverRun frames history s)
    (under_way : s.stream = .stopping ∨ s.stream = .draining ∨ s.stream = .drained)
    : ∃ labels t,
        Run (Step frames) s labels t
        ∧ t.stream = .stopped
        ∧ t.held = []
        ∧ completed labels = s.held
        ∧ (∀ label ∈ labels, label.isOwn = true)
        ∧ labels.length ≤ s.dv.queuedBufs.length + 7 := by
  have owned := run.owned.timer
  have gives {labels : List Label} {t : State} {bound : Nat}
      (later : OwnRun frames s labels t bound) (few : bound ≤ s.dv.queuedBufs.length + 7)
      (stream : t.stream = .stopped) (empty : t.dv.queuedBufs = []) (idle : t.timer = .idle)
      : ∃ labels t,
          Run (Step frames) s labels t
          ∧ t.stream = .stopped
          ∧ t.held = []
          ∧ completed labels = s.held
          ∧ (∀ label ∈ labels, label.isOwn = true)
          ∧ labels.length ≤ s.dv.queuedBufs.length + 7 := by
    have none : t.held = [] := by rw [State.held, idle, empty]; rfl
    have conserved := run.conservation_from later.run
    rw [none, own_handsNothingOver later.own, List.append_nil, List.append_nil] at conserved
    exact ⟨labels, t, later.run, stream, none, conserved, later.own,
      Nat.le_trans later.short few⟩
  rcases under_way with stopping | draining | drained
  · obtain ⟨first, idle, finish, timer, stream, queued⟩ := handlerFinishes frames s
    have deleted : Step frames idle .timerDeleteSync _ :=
      .timerDeleteSync (stream.trans stopping) timer
    obtain ⟨second, t, rest, stopped, empty, same⟩ :=
      @exists_returned_draining frames
        { idle with dv := timerDeleteSync idle.dv, stream := .draining } rfl
    refine gives ((finish.append (.single deleted rfl)).append rest) ?_ stopped empty
      (same.trans timer)
    change 4 + 1 + (idle.dv.queuedBufs.length + 2) ≤ _
    omega
  · obtain ⟨second, t, rest, stopped, empty, same⟩ := @exists_returned_draining frames s draining
    rw [TimerFollowsStream, draining] at owned
    exact gives rest (by omega) stopped empty (same.trans owned.1)
  · have returned : Step frames s .stopReturn _ := .stopReturn drained
    rw [TimerFollowsStream, drained] at owned
    exact gives (.single returned rfl) (by omega) rfl owned.2.2 owned.1

/-- Witness: a stop with one buffer in flight and one queued. -/
theorem dummyVideo_stop_returns_two
    : ∃ history s,
        DriverRun blankFrames history s
        ∧ s.held = [0, 1]
        ∧ ∃ labels t,
            Run (Step blankFrames) s labels t
            ∧ t.stream = .stopped
            ∧ completed labels = [0, 1]
            ∧ labels.length ≤ 8 := by
  obtain ⟨history, s, popped⟩ := exists_popped blankFrames
  have stopping := popped.run.snoc (.stopStreaming popped.stream)
  have held : State.held { s with stream := .stopping } = [0, 1] := popped.held
  obtain ⟨labels, t, later, stopped, _, given, _, few⟩ :=
    dummyVideo_stop_returns stopping (.inl rfl)
  have queued : s.dv.queuedBufs.length = 1 := by rw [popped.queued]; rfl
  refine ⟨_, _, stopping, held, labels, t, later, stopped, given.trans held, ?_⟩
  change labels.length ≤ s.dv.queuedBufs.length + 7 at few
  omega

/-- The steps of the timer and its handler. -/
def Label.isTimer : Label → Bool
  | .timerExpires => true
  | label => label.isOwn

/-- The timer alone completes a buffer next, within some further steps. -/
def CompletesNext (frames : Frames) (s : State) (buf : BufRef) (bound : Nat) : Prop :=
  ∃ labels content t,
    Run (Step frames) s (labels ++ [.bufferDone buf content .done]) t
    ∧ (∀ label ∈ labels, label.isTimer = true)
    ∧ completed labels = []
    ∧ labels.length ≤ bound

theorem CompletesNext.after {middle : State} {label : Label} {buf : BufRef} {bound : Nat}
    (rest : CompletesNext frames middle buf bound) (step : Step frames s label middle)
    (timer : label.isTimer = true) (silent : completed [label] = [])
    : CompletesNext frames s buf (1 + bound) := by
  obtain ⟨labels, content, t, run, own, none, few⟩ := rest
  refine ⟨[label] ++ labels, content, t, ?_, ?_, ?_, ?_⟩
  · rw [List.append_assoc]
    exact (Run.single step).append run
  · intro other member
    rcases List.mem_append.mp member with first | later
    · exact List.mem_singleton.mp first ▸ timer
    · exact own other later
  · rw [completed_append, silent, none]
    rfl
  · rw [List.length_append]
    exact Nat.add_le_add_left few 1

theorem completesNext_filled {buf : BufRef} (filled : s.timer = .filled buf)
    : CompletesNext frames s buf 0 :=
  ⟨[], s.bufs buf, _, .single (.timerDone filled), fun _ member => absurd member List.not_mem_nil,
    rfl, Nat.le_refl 0⟩

theorem completesNext_popped {buf : BufRef} (popped : s.timer = .popped buf)
    : CompletesNext frames s buf 1 :=
  (completesNext_filled rfl).after (.timerFill 0 popped) rfl rfl

theorem completesNext_entered {buf : BufRef} {rest : List BufRef} (entered : s.timer = .entered)
    (queued : s.dv.queuedBufs = buf :: rest)
    : CompletesNext frames s buf 2 := by
  have some : timerPop s.dv = (some buf, { s.dv with queuedBufs := rest }) := by
    rw [timerPop, queued]
  refine (completesNext_popped ?_).after (.timerPop entered) rfl rfl
  rw [some]
  rfl

theorem completesNext_idle {buf : BufRef} {rest : List BufRef} (idle : s.timer = .idle)
    (pending : s.dv.timerPending = true) (queued : s.dv.queuedBufs = buf :: rest)
    : CompletesNext frames s buf 3 := by
  have entered
      : CompletesNext frames
          { s with dv := { s.dv with timerPending := false }, timer := .entered } buf 2 :=
    completesNext_entered rfl queued
  exact entered.after (.timerExpires pending idle) rfl rfl

theorem completesNext_resched {buf : BufRef} {rest : List BufRef} (resched : s.timer = .resched)
    (queued : s.dv.queuedBufs = buf :: rest)
    : CompletesNext frames s buf 4 := by
  have idle : CompletesNext frames { s with dv := modTimer s.dv, timer := .idle } buf 3 :=
    completesNext_idle rfl rfl queued
  exact idle.after (.timerRearm resched) rfl rfl

/-- In every reachable state in which the driver streams and holds a buffer, the timer and its
handler alone complete the oldest one as DONE, after at most four other steps.
-/
theorem dummyVideo_stream_completes (run : DriverRun frames history s)
    (streaming : s.stream = .streaming) {buf : BufRef} {rest : List BufRef}
    (held : s.held = buf :: rest)
    : ∃ labels content t,
        Run (Step frames) s (labels ++ [.bufferDone buf content .done]) t
        ∧ (∀ label ∈ labels, label.isTimer = true)
        ∧ completed labels = []
        ∧ labels.length ≤ 4 := by
  have within {bound : Nat} (next : CompletesNext frames s buf bound) (few : bound ≤ 4)
      : CompletesNext frames s buf 4 := by
    obtain ⟨labels, content, t, run, own, none, short⟩ := next
    exact ⟨labels, content, t, run, own, none, Nat.le_trans short few⟩
  have owned := run.owned.timer
  rw [TimerFollowsStream, streaming] at owned
  rw [State.held] at held
  cases timer : s.timer with
  | idle =>
      rw [timer] at held
      exact within (completesNext_idle timer (owned.mpr timer) held) (by omega)
  | entered =>
      rw [timer] at held
      exact within (completesNext_entered timer held) (by omega)
  | popped other =>
      rw [timer] at held
      obtain ⟨rfl, _⟩ := List.cons_eq_cons.mp held
      exact within (completesNext_popped timer) (by omega)
  | filled other =>
      rw [timer] at held
      obtain ⟨rfl, _⟩ := List.cons_eq_cons.mp held
      exact within (completesNext_filled timer) (by omega)
  | resched =>
      rw [timer] at held
      exact completesNext_resched timer held

/-- Witness: the buffer in flight is completed before the queued one. -/
theorem dummyVideo_stream_completes_two
    : ∃ history s labels content t,
        DriverRun blankFrames history s
        ∧ s.held = [0, 1]
        ∧ Run (Step blankFrames) s (labels ++ [.bufferDone 0 content .done]) t
        ∧ completed labels = [] := by
  obtain ⟨history, s, popped⟩ := exists_popped blankFrames
  obtain ⟨labels, content, t, later, _, silent, _⟩ :=
    dummyVideo_stream_completes popped.run popped.stream popped.held
  exact ⟨history, s, labels, content, t, popped.run, popped.held, later, silent⟩

end DummyDrivers.V4l2
