import DummyDrivers.V4l2.PlaneBounds

/-! The number and the picture that the n-th completed buffer of a session carries, for
every n. The number is a 32-bit counter read as unsigned; the picture index extends the
same counter's sign to 64 bits first, so number and picture part ways at 2^31.
-/

namespace DummyDrivers.V4l2

open DummyDrivers.Transition

/-- A buffer holds the result of copying a frame to the start of some plane, and its
payload is that frame's length.
-/
def FrameBuf.Carries (content : FrameBuf) (df : DummyFrame) : Prop :=
  content.bytesused = df.len
  ∧ ∃ plane, content.plane = memcpyPlane plane df.data df.len.toNat

/-- The fields the handler gives a buffer when its counter stands at `n`. -/
structure Stamped (frames : Frames) (n : Nat) (content : FrameBuf) : Prop where
  sequence : content.sequence = BitVec.ofNat 32 n
  picture
    : content.mapped = true
      → content.Carries (frames.frame (frameIndex (BitVec.ofNat 32 n)))

-----------------------------------------------------------------------------------------
-- The counter runs with the completions of the session
-----------------------------------------------------------------------------------------

/-- A filled buffer is counted already, though it is not completed yet. -/
def TimerPc.ahead : TimerPc → Nat
  | .filled _ => 1
  | .idle | .entered | .popped _ | .resched => 0

/-- What the counter and the buffers say about a history: the counter is the number of
completions of the session plus the filled buffer, and every buffer bears its number.
-/
structure Numbered (frames : Frames) (history : List Label) (s : State) : Prop where
  counter
    : s.dv.sequence = BitVec.ofNat 32 ((doneContents history).length + s.timer.ahead)
  filled
    : ∀ buf,
        s.timer = .filled buf
        → Stamped frames (doneContents history).length (s.bufs buf)
  done
    : ∀ n content,
        (doneContents history)[n]? = some content → Stamped frames n content

theorem timerFill_stamped (frames : Frames) (now : BitVec 64) {dv : DummyVideo}
    {buf : FrameBuf} {n : Nat} (counter : dv.sequence = BitVec.ofNat 32 n)
    : Stamped frames n (timerFill frames now dv buf).2.1 := by
  unfold timerFill
  dsimp only
  split
  · exact ⟨counter, fun _ => ⟨by rw [counter], buf.plane, by rw [counter]⟩⟩
  · next unmapped => exact ⟨counter, fun mapped => absurd mapped unmapped⟩

/-- A step that neither starts a session, fills nor completes changes nothing counted. -/
theorem Numbered.keep {frames : Frames} {history : List Label} {s t : State}
    {label : Label} (numbered : Numbered frames history s)
    (silent : doneStep (doneContents history) label = doneContents history)
    (sequence : t.dv.sequence = s.dv.sequence) (ahead : t.timer.ahead = s.timer.ahead)
    (filled : ∀ buf, t.timer = .filled buf → s.timer = .filled buf ∧ t.bufs buf = s.bufs buf)
    : Numbered frames (history ++ [label]) t := by
  have same : doneContents (history ++ [label]) = doneContents history := by simpa using silent
  refine ⟨?_, ?_, ?_⟩ <;> rw [same]
  · rw [sequence, ahead]
    exact numbered.counter
  · intro buf at_
    obtain ⟨before, content⟩ := filled buf at_
    rw [content]
    exact numbered.filled buf before
  · exact numbered.done

/-- A buffer outside the driver is not the one the handler has filled. -/
theorem Owned.not_filled {s : State} (owned : Owned s) {buf other : BufRef}
    (outside : (s.bufs buf).state ≠ .active) (filled : s.timer = .filled other)
    : other ≠ buf := by
  rintro rfl
  apply outside
  apply (owned.active _).mpr
  simp [State.held, filled, TimerPc.inFlight]

/-- Every step keeps the numbering: a session starts with an idle handler, a fill stamps
the buffer with the count, a completion appends the buffer it stamped.
-/
theorem Numbered.step {frames : Frames} {history : List Label} {s t : State}
    {label : Label} (numbered : Numbered frames history s) (owned : Owned s)
    (next : Step frames s label t)
    : Numbered frames (history ++ [label]) t := by
  cases next with
  | allocate buf _ _ _ outside | userptr buf _ outside | bufPrepare buf outside =>
      refine numbered.keep rfl rfl rfl ?_
      intro other filled
      have different := owned.not_filled outside filled
      exact ⟨filled, by simp [different]⟩
  | bufQueue buf prepared noStop =>
      refine numbered.keep rfl rfl rfl ?_
      intro other filled
      have outside : (s.bufs buf).state ≠ .active := by simp [prepared]
      have different := owned.not_filled outside filled
      exact ⟨filled, by simp [different]⟩
  | startStreaming stopped =>
      have idle : s.timer = .idle := by
        have timer := owned.timer
        simp only [TimerFollowsStream, stopped] at timer
        exact timer.1
      refine ⟨?_, ?_, ?_⟩
      · simp [dummyVideoStartStreaming, modTimer, doneStep, idle, TimerPc.ahead]
      · simp [idle]
      · simp [doneStep]
  | timerExpires pending idle =>
      exact numbered.keep rfl rfl (by simp [idle, TimerPc.ahead]) (by simp)
  | timerPop entered =>
      have sequence : (V4l2.timerPop s.dv).2.sequence = s.dv.sequence := by
        unfold V4l2.timerPop
        split <;> rfl
      cases popped : (V4l2.timerPop s.dv).1 <;>
        exact numbered.keep rfl sequence (by simp [entered, TimerPc.ahead, TimerPc.afterPop])
          (by simp [TimerPc.afterPop])
  | @timerFill buf now popped =>
      have counter := numbered.counter
      simp only [popped, TimerPc.ahead, Nat.add_zero] at counter
      refine ⟨?_, ?_, ?_⟩
      · simp [doneStep, counter, TimerPc.ahead, BitVec.ofNat_add]
      · intro other same
        obtain rfl := TimerPc.filled.inj same
        simpa [doneStep] using timerFill_stamped frames now counter
      · simpa [doneStep] using numbered.done
  | @timerDone buf filled =>
      have counter := numbered.counter
      simp only [filled, TimerPc.ahead] at counter
      refine ⟨by simpa [doneStep, TimerPc.ahead] using counter, by simp, ?_⟩
      intro n content selected
      simp only [doneContents_append, List.foldl_cons, List.foldl_nil, doneStep] at selected
      rcases Nat.lt_trichotomy n (doneContents history).length with old | rfl | beyond
      · rw [List.getElem?_append_left old] at selected
        exact numbered.done n content selected
      · rw [List.getElem?_concat_length] at selected
        obtain rfl := Option.some.inj selected
        exact numbered.filled buf filled
      · rw [List.getElem?_eq_none (by simp; omega)] at selected
        cases selected
  | timerRearm resched =>
      exact numbered.keep rfl rfl (by simp [resched, TimerPc.ahead]) (by simp)
  | timerDeleteSync stopping idle => exact numbered.keep rfl rfl rfl (by simp [idle])
  | stopStreaming | stopUnlock | stopReturn =>
      exact numbered.keep rfl rfl rfl (fun _ filled => ⟨filled, rfl⟩)
  | stopDrain draining first =>
      have idle : s.timer = .idle := by
        have timer := owned.timer
        simp only [TimerFollowsStream, draining] at timer
        exact timer.1
      exact numbered.keep rfl rfl rfl (by simp [idle])

/-- Every run is numbered, by run induction on the owned states. -/
theorem DriverRun.numbered {frames : Frames} {history : List Label} {s : State}
    (run : DriverRun frames history s)
    : Numbered frames history s := by
  apply Run.invariant (Numbered frames) run
  · exact ⟨rfl, by simp [State.initial], by simp [doneContents]⟩
  · intro past before label after reached numbered next
    exact numbered.step (DriverRun.owned reached) next

-----------------------------------------------------------------------------------------
-- Where the picture index agrees with the count
-----------------------------------------------------------------------------------------

/-- The index is the count modulo the table length exactly where the lost multiples of
2^32, and of 2^64 for a negative counter, add up to a multiple of 25.
-/
theorem frameIndex_ofNat_eq_iff (n : Nat)
    : frameIndex (BitVec.ofNat 32 n) = n % 25
      ↔ (n % 2 ^ 32 < 2 ^ 31 ∧ n / 2 ^ 32 % 25 = 0)
        ∨ (2 ^ 31 ≤ n % 2 ^ 32 ∧ n / 2 ^ 32 % 25 = 20) := by
  -- 2^32 is 21 modulo 25, so the count is told apart by its two halves
  have halves : n % 25 = (21 * (n / 2 ^ 32) + n % 2 ^ 32) % 25 := by omega
  rw [frameIndex_ofNat, halves]
  generalize n / 2 ^ 32 = wraps
  generalize n % 2 ^ 32 = counter
  split <;> omega

/-- The index moves on by one except where the counter changes sign. -/
theorem frameIndex_ofNat_succ_iff (n : Nat)
    : frameIndex (BitVec.ofNat 32 (n + 1)) = (frameIndex (BitVec.ofNat 32 n) + 1) % 25
      ↔ (n + 1) % 2 ^ 31 ≠ 0 := by
  have bound : n % 2 ^ 32 < 2 ^ 32 := Nat.mod_lt n (by decide)
  have next : (n + 1) % 2 ^ 32 = if n % 2 ^ 32 + 1 = 2 ^ 32 then 0 else n % 2 ^ 32 + 1 := by
    split <;> omega
  have sign : (n + 1) % 2 ^ 31 = (n % 2 ^ 32 + 1) % 2 ^ 31 := by omega
  rw [frameIndex_ofNat, frameIndex_ofNat, next, sign]
  generalize n % 2 ^ 32 = counter at bound
  split <;> split <;> split <;> omega

/-- A table in which the length of a frame tells its index. -/
def distinctFrames : Frames :=
  {
    entries := (List.range 25).map (fun index => dummyFrame (List.replicate (index + 1) 0))
    length_eq := by simp
  }

theorem distinctFrames_len {index : Nat} (inside : index < 25)
    : (distinctFrames.frame index).len.toNat = index + 1 := by
  simp [Frames.frame, distinctFrames, List.getD_eq_getElem?_getD, inside, dummyFrame]
  omega

/-- With distinct frames, a buffer carries at most one of them. -/
theorem distinctFrames_carries {content : FrameBuf} {first second : Nat}
    (left : content.Carries (distinctFrames.frame first))
    (right : content.Carries (distinctFrames.frame second))
    (leftInside : first < 25) (rightInside : second < 25)
    : first = second := by
  have same := congrArg BitVec.toNat (left.1.symm.trans right.1)
  rw [distinctFrames_len leftInside, distinctFrames_len rightInside] at same
  omega

/-- A ready driver's completions are all mapped and there is one for every number. -/
theorem Ready.completion {n : Nat} {history : List Label} {s : State}
    (ready : Ready n history s) {index : Nat} (inside : index < n)
    : ∃ content,
        (doneContents history)[index]? = some content ∧ content.mapped = true := by
  have bound : index < (doneContents history).length := ready.count.symm ▸ inside
  exact ⟨_, List.getElem?_eq_getElem bound, ready.mapped _ (List.getElem_mem bound)⟩

-----------------------------------------------------------------------------------------
-- The number and the picture of the n-th completion
-----------------------------------------------------------------------------------------

/-- In every run, the n-th completion of a session carries its number modulo 2^32 and the
frame of its number modulo the table length, provided its plane was mapped.
-/
def NthExact (n : Nat) : Prop :=
  ∀ frames history s content,
    DriverRun frames history s
    → (doneContents history)[n]? = some content
    → content.mapped = true
    → content.sequence.toNat = n % 2 ^ 32 ∧ content.Carries (frames.frame (n % 25))

/-- In every run, the completion after the n-th carries the frame after the n-th's. -/
def AdvancesAfter (n : Nat) : Prop :=
  ∀ frames history s first second,
    DriverRun frames history s
    → (doneContents history)[n]? = some first
    → (doneContents history)[n + 1]? = some second
    → first.mapped = true
    → second.mapped = true
    → ∃ index < 25,
        first.Carries (frames.frame index)
        ∧ second.Carries (frames.frame ((index + 1) % 25))

/-- For every number n: the n-th completion of a session carries n modulo 2^32, and every
copied frame is inside the table; its picture is the frame n modulo the table length
exactly where the sign extension agrees with the count, and the next picture is the next
frame exactly where the counter does not change sign.
Witness: the numbering of runs, and for the converses a run that is long enough.
-/
theorem dummyVideo_animation_iff (n : Nat)
    : (∀ frames history s content,
        DriverRun frames history s
        → (doneContents history)[n]? = some content
        → content.sequence.toNat = n % 2 ^ 32)
      ∧ (∀ frames history s buf copy,
          DriverRun frames history s
          → .timerFill buf (some copy) ∈ history
          → copy.index < frameCount.toNat)
      ∧ (NthExact n
          ↔ (n % 2 ^ 32 < 2 ^ 31 ∧ n / 2 ^ 32 % 25 = 0)
            ∨ (2 ^ 31 ≤ n % 2 ^ 32 ∧ n / 2 ^ 32 % 25 = 20))
      ∧ (AdvancesAfter n ↔ (n + 1) % 2 ^ 31 ≠ 0) := by
  refine ⟨?_, ?_, ?_, ?_⟩
  · intro frames history s content run selected
    have stamped := run.numbered.done n content selected
    rw [stamped.sequence, BitVec.toNat_ofNat]
  · intro frames history s buf copy run member
    exact (run.copy_spec member).1
  · rw [← frameIndex_ofNat_eq_iff]
    constructor
    · intro exact
      obtain ⟨history, s, run, ready⟩ := exists_ready distinctFrames (n + 1)
      obtain ⟨content, selected, mapped⟩ := ready.completion (Nat.lt_succ_self n)
      have carried := (run.numbered.done n content selected).picture mapped
      have claimed := (exact distinctFrames history s content run selected mapped).2
      exact distinctFrames_carries carried claimed (frameIndex_lt _) (Nat.mod_lt n (by omega))
    · intro same frames history s content run selected mapped
      have stamped := run.numbered.done n content selected
      refine ⟨?_, same ▸ stamped.picture mapped⟩
      rw [stamped.sequence, BitVec.toNat_ofNat]
  · rw [← frameIndex_ofNat_succ_iff]
    constructor
    · intro advances
      obtain ⟨history, s, run, ready⟩ := exists_ready distinctFrames (n + 2)
      obtain ⟨first, firstAt, firstMapped⟩ := ready.completion (by omega : n < n + 2)
      obtain ⟨second, secondAt, secondMapped⟩ := ready.completion (by omega : n + 1 < n + 2)
      obtain ⟨index, inside, left, right⟩ :=
        advances distinctFrames history s first second run firstAt secondAt firstMapped
          secondMapped
      have firstIndex := distinctFrames_carries
        ((run.numbered.done n first firstAt).picture firstMapped) left (frameIndex_lt _) inside
      have secondIndex := distinctFrames_carries
        ((run.numbered.done (n + 1) second secondAt).picture secondMapped) right
        (frameIndex_lt _) (Nat.mod_lt _ (by omega))
      rw [secondIndex, firstIndex]
    · intro same frames history s first second run firstAt secondAt firstMapped secondMapped
      refine ⟨frameIndex (BitVec.ofNat 32 n), frameIndex_lt _, ?_, ?_⟩
      · exact (run.numbered.done n first firstAt).picture firstMapped
      · rw [← same]
        exact (run.numbered.done (n + 1) second secondAt).picture secondMapped

/-- The completion number 2^31 shows frame 18 of the table instead of frame 23. -/
theorem dummyVideo_animation_skips
    : ∃ history s content,
        DriverRun distinctFrames history s
        ∧ (doneContents history)[2 ^ 31]? = some content
        ∧ content.mapped = true
        ∧ content.Carries (distinctFrames.frame 18)
        ∧ ¬ content.Carries (distinctFrames.frame (2 ^ 31 % 25)) := by
  obtain ⟨history, s, run, ready⟩ := exists_ready distinctFrames (2 ^ 31 + 1)
  obtain ⟨content, selected, mapped⟩ := ready.completion (Nat.lt_succ_self (2 ^ 31))
  have carried := (run.numbered.done (2 ^ 31) content selected).picture mapped
  have shown : frameIndex (BitVec.ofNat 32 (2 ^ 31)) = 18 := by decide
  rw [shown] at carried
  refine ⟨history, s, content, run, selected, mapped, carried, fun claimed => ?_⟩
  have same := distinctFrames_carries carried claimed (by decide) (by decide)
  omega

end DummyDrivers.V4l2
