import DummyDrivers.V4l2.Sessions

/-! Whether the handler's copies stay inside plane 0. Preparation compares the plane with
a constant, the handler copies a frame's own length: the two agree exactly for tables
whose frames all fit the constant.
-/

namespace DummyDrivers.V4l2

open DummyDrivers.Transition

/-- Every copy of a history ends inside its plane and sets a payload inside it. -/
def CopiesFit (history : List Label) : Prop :=
  ∀ buf copy,
    .timerFill buf (some copy) ∈ history
    → copy.count ≤ copy.planeSize ∧ copy.payload ≤ copy.planeSize

/-- A buffer that passed preparation still has the size it was accepted with. -/
def PreparedSized (s : State) : Prop :=
  ∀ buf,
    (s.bufs buf).state = .prepared ∨ (s.bufs buf).state = .active
    → dummyVideoPlaneSize ≤ (s.bufs buf).planeSize

/-- The copy of a mapped buffer writes its frame's length, whatever the plane holds. -/
theorem timerFill_copy {frames : Frames} {now : BitVec 64} {dv : DummyVideo}
    {buf : FrameBuf} {copy : FrameCopy}
    (copied : (timerFill frames now dv buf).2.2 = some copy)
    : copy.index = frameIndex dv.sequence
      ∧ copy.count = (frames.frame copy.index).len.toNat
      ∧ copy.payload = copy.count
      ∧ copy.planeSize = buf.planeSize := by
  unfold timerFill at copied
  dsimp only at copied
  split at copied
  · obtain rfl := Option.some.inj copied
    exact ⟨rfl, rfl, rfl, rfl⟩
  · cases copied

/-- A mapped buffer is copied to. -/
theorem timerFill_copied (frames : Frames) (now : BitVec 64) (dv : DummyVideo)
    {buf : FrameBuf} (mapped : buf.mapped = true)
    : ∃ copy, (timerFill frames now dv buf).2.2 = some copy := by
  unfold timerFill
  dsimp only
  rw [if_pos mapped]
  exact ⟨_, rfl⟩

@[simp] theorem timerFill_planeSize (frames : Frames) (now : BitVec 64) (dv : DummyVideo)
    (buf : FrameBuf)
    : (timerFill frames now dv buf).2.1.planeSize = buf.planeSize := by
  unfold timerFill FrameBuf.planeSize
  dsimp only
  split
  · exact memcpyPlane_length _ _ _ (DummyFrame.len_le _)
  · rfl

/-- Replacing one buffer by one that is sized if prepared or active keeps all sized. -/
theorem PreparedSized.setBuf {s : State} (sized : PreparedSized s) (buf : BufRef)
    {content : FrameBuf}
    (fits
      : content.state = .prepared ∨ content.state = .active
        → dummyVideoPlaneSize ≤ content.planeSize)
    : PreparedSized (s.setBuf buf content) := by
  intro other
  by_cases same : other = buf
  · simpa [same] using fits
  · simpa [same] using sized other

/-- Preparation establishes the size and no step of an accepted buffer loses it. -/
theorem PreparedSized.step {frames : Frames} {s t : State} {label : Label}
    (sized : PreparedSized s) (next : Step frames s label t)
    : PreparedSized t := by
  cases next with
  | allocate buf _ _ content _ _ _ fresh
  | userptr buf content _ fresh => exact sized.setBuf buf (by simp [fresh])
  | bufPrepare buf outside =>
      apply sized.setBuf
      intro accepted
      by_cases large : dummyVideoBufPrepare (s.bufs buf) = 0
      · exact dummyVideoBufPrepare_eq_zero.mp large
      · simp [large] at accepted
  | bufQueue buf prepared noStop =>
      have large := sized buf (Or.inl prepared)
      exact sized.setBuf buf (fun _ => large)
  | timerFill now popped =>
      apply sized.setBuf
      simpa using sized _
  | timerDone filled => exact sized.setBuf _ (by simp)
  | stopDrain draining first => exact sized.setBuf _ (by simp)
  | _ => exact sized

theorem DriverRun.preparedSized {frames : Frames} {history : List Label} {s : State}
    (run : DriverRun frames history s)
    : PreparedSized s :=
  Run.invariant (fun _ s => PreparedSized s) run (by simp [PreparedSized, State.initial])
    (fun _ sized next => sized.step next)

/-- A copy of a reachable state writes one frame of the table into a plane that holds at
least the driver's plane size: the buffer in the handler's hands is an active one.
-/
theorem Step.copy_spec {frames : Frames} {history : List Label} {s t : State}
    {buf : BufRef} {copy : FrameCopy} (run : DriverRun frames history s)
    (next : Step frames s (.timerFill buf (some copy)) t)
    : copy.index < frameCount.toNat
      ∧ copy.count = (frames.frame copy.index).len.toNat
      ∧ copy.payload = copy.count
      ∧ dummyVideoPlaneSize ≤ copy.planeSize := by
  generalize shown : Label.timerFill buf (some copy) = label at next
  cases next with
  | @timerFill _ now popped =>
      obtain ⟨rfl, copied⟩ := Label.timerFill.inj shown
      obtain ⟨index, count, payload, planeSize⟩ := timerFill_copy copied.symm
      refine ⟨index ▸ frameIndex_lt _, count, payload, ?_⟩
      rw [planeSize]
      apply run.preparedSized buf
      right
      apply (run.owned.active buf).mpr
      simp [State.held, popped, TimerPc.inFlight]
  | _ => cases shown

/-- Every copy in the history of a run is such a copy. -/
theorem DriverRun.copy_spec {frames : Frames} {history : List Label} {s : State}
    {buf : BufRef} {copy : FrameCopy} (run : DriverRun frames history s)
    (member : .timerFill buf (some copy) ∈ history)
    : copy.index < frameCount.toNat
      ∧ copy.count = (frames.frame copy.index).len.toNat
      ∧ copy.payload = copy.count
      ∧ dummyVideoPlaneSize ≤ copy.planeSize := by
  obtain ⟨past, rest, rfl⟩ := List.append_of_mem member
  obtain ⟨before, after, reached, next⟩ := run.step_at
  exact next.copy_spec reached

/-- The frames of the table are the ones that an index inside it reads. -/
theorem Frames.frame_mem (frames : Frames) {index : Nat} (inside : index < frameCount.toNat)
    : frames.frame index ∈ frames.entries := by
  have bound : index < frames.entries.length := frames.length_eq ▸ inside
  simp [Frames.frame, List.getD_eq_getElem?_getD, bound]

/-- Every index of the table is copied by some run, into a plane of exactly the size that
`queue_setup` chooses. Witness: load a fresh buffer after that many completions.
-/
theorem exists_copy (frames : Frames) {index : Nat} (inside : index < frameCount.toNat)
    : ∃ history s copy,
        DriverRun frames history s
        ∧ .timerFill 0 (some copy) ∈ history
        ∧ copy.count = (frames.frame index).len.toNat
        ∧ copy.planeSize = dummyVideoPlaneSize := by
  obtain ⟨history, s, run, loaded⟩ := exists_loaded frames index
  have picked : frameIndex s.dv.sequence = index := by
    rw [frameCount_toNat] at inside
    rw [loaded.counter, frameIndex_ofNat]
    split <;> omega
  have mapped : (s.bufs 0).mapped = true := by simp [loaded.content, freshBuf]
  obtain ⟨copy, copied⟩ := timerFill_copied frames 0 s.dv mapped
  obtain ⟨at_, count, payload, planeSize⟩ := timerFill_copy copied
  have filled := run.snoc (.timerFill 0 loaded.timer)
  rw [copied] at filled
  refine ⟨_, _, copy, filled, by simp, ?_, ?_⟩
  · rw [count, at_, picked]
  · rw [planeSize, loaded.content]
    exact freshBuf_planeSize

/-- Over all runs, the copies stay inside their planes exactly when no frame of the table
is longer than the driver's plane size, the constant that preparation compares with.
Witness: accepted buffers keep their size; a longer frame is copied into a fresh buffer.
-/
theorem dummyVideo_copiesFit_iff (frames : Frames)
    : (∀ history s, DriverRun frames history s → CopiesFit history)
      ↔ ∀ df ∈ frames.entries, df.len.toNat ≤ dummyVideoPlaneSize := by
  constructor
  · intro fit df member
    obtain ⟨index, bound, rfl⟩ := List.getElem_of_mem member
    have inside : index < frameCount.toNat := frames.length_eq ▸ bound
    obtain ⟨history, s, copy, run, copied, count, planeSize⟩ := exists_copy frames inside
    have fits := (fit history s run 0 copy copied).1
    rw [count, planeSize] at fits
    simpa [Frames.frame, List.getD_eq_getElem?_getD, bound] using fits
  · intro short history s run buf copy member
    obtain ⟨inside, count, payload, large⟩ := run.copy_spec member
    have fits := short _ (frames.frame_mem inside)
    omega

/-- A table whose first frame is one byte longer than the plane. -/
def oversizedFrames : Frames :=
  {
    entries :=
      dummyFrame (List.replicate (dummyVideoPlaneSize + 1) 0)
        :: List.replicate 24 (dummyFrame [])
    length_eq := rfl
  }

/-- With an oversized first frame the very first copy runs past its plane. -/
theorem dummyVideo_copy_overruns
    : ∃ history s, DriverRun oversizedFrames history s ∧ ¬ CopiesFit history := by
  obtain ⟨history, s, copy, run, copied, count, planeSize⟩ :=
    exists_copy oversizedFrames (by decide : 0 < frameCount.toNat)
  refine ⟨history, s, run, fun fit => ?_⟩
  have fits := (fit 0 copy copied).1
  have long : (oversizedFrames.frame 0).len.toNat = dummyVideoPlaneSize + 1 := by
    change (BitVec.ofNat 32 (List.replicate (dummyVideoPlaneSize + 1) (0 : UInt8)).length).toNat
      = dummyVideoPlaneSize + 1
    rw [List.length_replicate]
    rfl
  omega

end DummyDrivers.V4l2
