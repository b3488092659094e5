import DummyDrivers.Library.KernelCall
import DummyDrivers.Library.Ledger
import DummyDrivers.Library.Transition

/-! The v4l2 module from load to unload, with the files that are open on its node. The
release callback runs when the last reference to the v4l2 device is dropped, at the unload
or at a later close; it unregisters the device again and frees the static struct.
-/

namespace DummyDrivers.V4l2.Lifecycle

open DummyDrivers.Ledger
open DummyDrivers.Transition

/-- What must be registered or allocated when it is given back. `allocation` is the memory
of the `struct dummy_video`, had it come from an allocation.
-/
inductive Resource where
  | v4l2Device
  | videoDevice
  | allocation
  deriving DecidableEq, Repr

/-- The results of the kernel calls of one load attempt, in the order they are made. -/
structure Calls where
  vb2QueueInit : KernelCall
  v4l2DeviceRegister : KernelCall
  videoRegisterDevice : KernelCall

/-- The lifetime side of a `struct dummy_video`: the reference count of its `v4l2_dev`, the
open files of its node, and what it has registered.
-/
structure Video where
  refs : Int
  files : Nat
  account : Account Resource

/-- The static struct of a freshly loaded module. -/
def Video.zero : Video := { refs := 0, files := 0, account := .empty }

def Video.post (v : Video) (entry : Entry Resource) : Video :=
  { v with account := v.account.post entry }

/-- `kfree(s)` gives back memory that no allocation has returned: the struct is static. -/
def dummyVideoRelease (v : Video) : Video :=
  (v.post (.release .v4l2Device)).post (.release .allocation)

/-- The release callback runs when the count reaches zero. -/
def v4l2DevicePut (v : Video) : Video :=
  let v := { v with refs := v.refs - 1 }
  if v.refs = 0 then dummyVideoRelease v else v

/-- A registered node drops its reference when it is unregistered and no file is open. -/
def videoUnregisterDevice (v : Video) : Video :=
  if .videoDevice ∈ v.account.held ∧ v.files = 0 then
    v4l2DevicePut (v.post (.release .videoDevice))
  else
    v.post (.release .videoDevice)

/-- The three results are reported in the log only, and `vb2_queue_init` takes nothing. -/
def dummyVideoDrvRegister (calls : Calls) (v : Video) : Int × Video :=
  let v :=
    if calls.v4l2DeviceRegister.failed then
      v
    else
      { v.post (.acquire .v4l2Device) with refs := 1 }
  let v :=
    if calls.videoRegisterDevice.failed then
      v
    else
      { v.post (.acquire .videoDevice) with refs := v.refs + 1 }
  (0, v)

def dummyVideoDrvUnregister (v : Video) : Video :=
  v4l2DevicePut (videoUnregisterDevice (v.post (.release .v4l2Device)))

def Video.openFile (v : Video) : Video := { v with files := v.files + 1 }

/-- The last close after the node was unregistered drops the node's reference. -/
def Video.closeFile (v : Video) : Video :=
  let v := { v with files := v.files - 1 }
  if v.files = 0 ∧ .videoDevice ∉ v.account.held then v4l2DevicePut v else v

/-- The structs of the earlier loads, whose files may still be open, and the current one. -/
structure State where
  past : List Video
  current : Option Video

def State.initial : State := { past := [], current := none }

/-- A file is closed on the current struct, or on the struct of an earlier load. -/
inductive Label where
  | load (calls : Calls)
  | openNode
  | closeNode
  | closeLate (index : Nat)
  | unload

/-- A registered node can be opened, and an open file closed, also after the unload. -/
inductive Step : State → Label → State → Prop where
  | loadOk {past} (calls : Calls) (ok : (dummyVideoDrvRegister calls .zero).1 = 0)
    : Step { past, current := none } (.load calls)
        { past, current := some (dummyVideoDrvRegister calls .zero).2 }
  | loadFail {past} (calls : Calls) (fails : (dummyVideoDrvRegister calls .zero).1 ≠ 0)
    : Step { past, current := none } (.load calls)
        { past := past ++ [(dummyVideoDrvRegister calls .zero).2], current := none }
  | openNode {past v} (registered : .videoDevice ∈ v.account.held)
    : Step { past, current := some v } .openNode { past, current := some v.openFile }
  | closeNode {past v} (isOpen : 0 < v.files)
    : Step { past, current := some v } .closeNode { past, current := some v.closeFile }
  | closeLate {past current v} (index : Nat) (at_index : past[index]? = some v)
    (isOpen : 0 < v.files)
    : Step { past, current } (.closeLate index) { past := past.set index v.closeFile, current }
  | unload {past v}
    : Step { past, current := some v } .unload
        { past := past ++ [dummyVideoDrvUnregister v], current := none }

abbrev VideoRun (history : List Label) (s : State) : Prop := Run Step State.initial history s

def Calls.AllSucceed (calls : Calls) : Prop :=
  calls.vb2QueueInit = none
  ∧ calls.v4l2DeviceRegister = none
  ∧ calls.videoRegisterDevice = none

/-- Every unregistering so far was of something registered, and every freeing of something
allocated.
-/
structure Faultless (s : State) : Prop where
  past : ∀ v ∈ s.past, v.account.faults = []
  current : ∀ v, s.current = some v → v.account.faults = []

/-- What the load and the teardown promise over a history. -/
structure Contract (history : List Label) : Prop where
  returns
    : ∀ calls,
        .load calls ∈ history → (dummyVideoDrvRegister calls .zero).1 = 0 → calls.AllSucceed
  faultless : ∀ past s, past <+: history → VideoRun past s → Faultless s

/-- A load in which nothing fails; an unload while a file is open; a close after the unload
that leaves another file open.
-/
def Spared (s : State) : Label → Prop
  | .load calls => calls.AllSucceed
  | .openNode => True
  | .closeNode => True
  | .closeLate index => ∀ v, s.past[index]? = some v → 1 < v.files
  | .unload => ∀ v, s.current = some v → 0 < v.files

/-- Every step that a history takes is spared. -/
def AlwaysSpared (history : List Label) : Prop :=
  ∀ past label before after,
    past ++ [label] <+: history
    → VideoRun past before
    → Step before label after
    → Spared before label

/-- A loaded struct with both devices registered and no fault so far. -/
structure Video.Registered (v : Video) : Prop where
  account : v.account = { held := {.videoDevice, .v4l2Device}, faults := [] }
  refs : v.refs = 2

/-- An unloaded struct whose node still has a file open and therefore its reference. -/
structure Video.Waiting (v : Video) : Prop where
  account : v.account = { held := ∅, faults := [] }
  refs : v.refs = 1
  files : 0 < v.files

theorem register_registered {calls : Calls} (all : calls.AllSucceed)
    : (dummyVideoDrvRegister calls .zero).2.Registered := by
  obtain ⟨c1, c2, c3⟩ := calls
  obtain ⟨rfl, rfl, rfl⟩ := all
  exact ⟨rfl, rfl⟩

theorem Video.Registered.openFile {v : Video} (registered : v.Registered)
    : v.openFile.Registered :=
  ⟨registered.account, registered.refs⟩

/-- A close on a registered node drops no reference. -/
theorem Video.Registered.closeFile {v : Video} (registered : v.Registered)
    : v.closeFile.Registered := by
  have node : Resource.videoDevice ∈ v.account.held := by simp [registered.account]
  have kept : v.closeFile = { v with files := v.files - 1 } := by simp [Video.closeFile, node]
  rw [kept]
  exact ⟨registered.account, registered.refs⟩

/-- An unload while a file is open leaves the reference of the node. -/
theorem Video.Registered.unregister_open {v : Video} (registered : v.Registered)
    (isOpen : 0 < v.files)
    : (dummyVideoDrvUnregister v).Waiting := by
  obtain ⟨refs, files, account⟩ := v
  obtain ⟨rfl, rfl⟩ := registered
  have kept : ¬ files = 0 := Nat.ne_of_gt isOpen
  have left : dummyVideoDrvUnregister
        { refs := 2, files, account := { held := {.videoDevice, .v4l2Device}, faults := [] } }
      = { refs := 1, files, account := { held := ∅, faults := [] } } := by
    simp [dummyVideoDrvUnregister, videoUnregisterDevice, v4l2DevicePut, Video.post, Account.post,
      kept]
    decide
  rw [left]
  exact ⟨rfl, rfl, isOpen⟩

/-- An unload without open files runs the release callback, which gives back the v4l2 device
a second time and the static struct.
-/
theorem Video.Registered.unregister_closed {v : Video} (registered : v.Registered)
    (closed : v.files = 0)
    : (dummyVideoDrvUnregister v).account.faults
      = [.release .v4l2Device, .release .allocation] := by
  obtain ⟨refs, files, account⟩ := v
  obtain ⟨rfl, rfl⟩ := registered
  obtain rfl : files = 0 := closed
  rfl

theorem Video.Waiting.closeFile_open {v : Video} (waiting : v.Waiting) (others : 1 < v.files)
    : v.closeFile.Waiting := by
  have some_left : ¬ v.files - 1 = 0 := by omega
  have kept : v.closeFile = { v with files := v.files - 1 } := by
    simp [Video.closeFile, some_left]
  rw [kept]
  exact ⟨waiting.account, waiting.refs, Nat.sub_pos_of_lt others⟩

/-- The last close of an unloaded node runs the release callback. -/
theorem Video.Waiting.closeFile_last {v : Video} (waiting : v.Waiting) (last : ¬ 1 < v.files)
    : v.closeFile.account.faults = [.release .v4l2Device, .release .allocation] := by
  obtain ⟨refs, files, account⟩ := v
  obtain ⟨rfl, rfl, isOpen⟩ := waiting
  obtain rfl : files = 1 := Nat.le_antisymm (Nat.not_lt.mp last) isOpen
  rfl

/-- The state as long as every step was spared. -/
structure Unharmed (s : State) : Prop where
  past : ∀ v ∈ s.past, v.Waiting
  current : ∀ v, s.current = some v → v.Registered

theorem Unharmed.faultless {s : State} (unharmed : Unharmed s) : Faultless s :=
  {
    past := fun v member => by rw [(unharmed.past v member).account]
    current := fun v loaded => by rw [(unharmed.current v loaded).account]
  }

/-- A spared step keeps every struct in order, by its kinds. -/
theorem Step.unharmed {s t : State} {label : Label} (next : Step s label t)
    (spared : Spared s label) (unharmed : Unharmed s)
    : Unharmed t := by
  cases next with
  | loadOk calls ok =>
      refine ⟨unharmed.past, ?_⟩
      rintro _ ⟨⟩
      exact register_registered spared
  | loadFail calls fails => exact absurd rfl fails
  | openNode registered =>
      refine ⟨unharmed.past, ?_⟩
      rintro _ ⟨⟩
      exact (unharmed.current _ rfl).openFile
  | closeNode isOpen =>
      refine ⟨unharmed.past, ?_⟩
      rintro _ ⟨⟩
      exact (unharmed.current _ rfl).closeFile
  | closeLate index at_index isOpen =>
      refine ⟨?_, unharmed.current⟩
      intro w member
      rcases List.mem_or_eq_of_mem_set member with earlier | rfl
      · exact unharmed.past w earlier
      · have waiting := unharmed.past _ (List.mem_of_getElem? at_index)
        exact waiting.closeFile_open (spared _ at_index)
  | unload =>
      refine ⟨?_, nofun⟩
      intro w member
      rcases List.mem_append.mp member with earlier | last
      · exact unharmed.past w earlier
      · obtain rfl := List.mem_singleton.mp last
        exact (unharmed.current _ rfl).unregister_open (spared _ rfl)

/-- A step without a fault is spared, unless it is a load that swallows an error. -/
theorem Step.spared {s t : State} {label : Label} (next : Step s label t)
    (unharmed : Unharmed s) (faultless : Faultless t)
    (returns
      : ∀ calls, label = .load calls → (dummyVideoDrvRegister calls .zero).1 = 0 → calls.AllSucceed)
    : Spared s label := by
  cases next with
  | loadOk calls ok => exact returns calls rfl ok
  | loadFail calls fails => exact absurd rfl fails
  | openNode registered => trivial
  | closeNode isOpen => trivial
  | @closeLate past current v index at_index isOpen =>
      intro w at_w
      obtain rfl : v = w := Option.some.inj (at_index.symm.trans at_w)
      by_contra last
      have waiting := unharmed.past _ (List.mem_of_getElem? at_index)
      have inside : index < past.length := (List.getElem?_eq_some_iff.mp at_index).1
      have faults := faultless.past v.closeFile (List.mem_set inside _)
      rw [waiting.closeFile_last last] at faults
      contradiction
  | @unload past v =>
      rintro _ ⟨⟩
      by_contra closed
      have faults := faultless.past (dummyVideoDrvUnregister v) (by simp)
      rw [(unharmed.current v rfl).unregister_closed (Nat.eq_zero_of_not_pos closed)] at faults
      contradiction

theorem AlwaysSpared.shorten {past rest : List Label} (always : AlwaysSpared (past ++ rest))
    : AlwaysSpared past :=
  fun earlier label before after shorter =>
    always earlier label before after (shorter.trans (List.prefix_append past rest))

theorem Contract.shorten {past rest : List Label} (contract : Contract (past ++ rest))
    : Contract past :=
  {
    returns := fun calls member => contract.returns calls (List.mem_append_left _ member)
    faultless := fun earlier s shorter =>
      contract.faultless earlier s (shorter.trans (List.prefix_append past rest))
  }

/-- Spared steps lead to an unharmed state, by run induction. -/
theorem AlwaysSpared.unharmed {history : List Label} {s : State} (run : VideoRun history s)
    (always : AlwaysSpared history)
    : Unharmed s := by
  induction run with
  | nil => exact { past := nofun, current := nofun }
  | snoc earlier next ih =>
      have spared := always _ _ _ _ (List.prefix_refl _) earlier next
      exact next.unharmed spared (ih always.shorten)

/-- A kept contract leads to an unharmed state: each of its steps was spared. -/
theorem Contract.unharmed {history : List Label} {s : State} (run : VideoRun history s)
    (contract : Contract history)
    : Unharmed s := by
  induction run with
  | nil => exact { past := nofun, current := nofun }
  | @snoc history before label after earlier next ih =>
      have unharmed := ih contract.shorten
      have faultless := contract.faultless _ _ (List.prefix_refl _) (earlier.snoc next)
      refine next.unharmed (next.spared unharmed faultless ?_) unharmed
      rintro calls rfl
      exact contract.returns calls (by simp)

/-- Every load of a run is one of its steps, by splitting the history around it. -/
theorem VideoRun.load_step {history : List Label} {s : State} (run : VideoRun history s)
    {calls : Calls} (member : .load calls ∈ history)
    : ∃ past before after,
        past ++ [.load calls] <+: history
        ∧ VideoRun past before
        ∧ Step before (.load calls) after := by
  obtain ⟨past, rest, rfl⟩ := List.append_of_mem member
  obtain ⟨before, after, reached, next⟩ := run.step_at
  exact ⟨past, before, after, ⟨rest, by simp⟩, reached, next⟩

/-- In every run, the load reports every failure and the teardown gives back what is
registered and allocated, once, exactly when every step is spared. Witness: run induction
with the unharmed states as the invariant, both ways.
-/
theorem dummyVideo_lifecycle_iff {history : List Label} {s : State} (run : VideoRun history s)
    : Contract history ↔ AlwaysSpared history := by
  constructor
  · intro contract past label before after shorter reached next
    obtain ⟨rest, rfl⟩ := shorter
    have whole := contract.shorten
    refine next.spared (whole.shorten.unharmed reached) ?_ ?_
    · exact whole.faultless _ _ (List.prefix_refl _) (reached.snoc next)
    · rintro calls rfl
      exact whole.returns calls (by simp)
  · intro always
    constructor
    case returns =>
      intro calls member _
      obtain ⟨past, before, after, shorter, reached, next⟩ := run.load_step member
      exact always past (.load calls) before after shorter reached next
    case faultless =>
      intro past s shorter reached
      obtain ⟨rest, rfl⟩ := shorter
      exact (always.shorten.unharmed reached).faultless

/-- Every label determines the next state. -/
theorem Step.functional {s t t' : State} {label : Label} (next : Step s label t)
    (next' : Step s label t')
    : t = t' := by
  cases next with
  | loadOk calls ok =>
      cases next' with
      | loadOk => rfl
      | loadFail _ fails => exact absurd ok fails
  | loadFail calls fails => exact absurd rfl fails
  | openNode registered =>
      cases next'
      rfl
  | closeNode isOpen =>
      cases next'
      rfl
  | closeLate index at_index isOpen =>
      cases next' with
      | closeLate _ at_index' _ =>
          obtain rfl := Option.some.inj (at_index.symm.trans at_index')
          rfl
  | unload =>
      cases next'
      rfl

theorem AlwaysSpared.nil : AlwaysSpared [] :=
  fun past label _ _ shorter =>
    absurd (List.prefix_nil.mp shorter) (List.append_ne_nil_of_right_ne_nil past (by simp))

/-- One more spared step, out of the state that the history determines. -/
theorem AlwaysSpared.snoc {history : List Label} {s : State} {label : Label}
    (always : AlwaysSpared history) (run : VideoRun history s) (spared : Spared s label)
    : AlwaysSpared (history ++ [label]) := by
  intro past last before after shorter reached next
  rcases List.prefix_concat_iff.mp shorter with whole | earlier
  · obtain ⟨rfl, same⟩ := List.append_inj' whole rfl
    obtain rfl := List.singleton_inj.mp same
    obtain rfl := run.unique reached Step.functional
    exact spared
  · exact always past last before after earlier reached next

def allSucceed : Calls :=
  { vb2QueueInit := none, v4l2DeviceRegister := none, videoRegisterDevice := none }

/-- Witness: the node is opened twice before the unload, and one file is closed after it. -/
theorem dummyVideo_lifecycle_open
    : Contract [.load allSucceed, .openNode, .openNode, .unload, .closeLate 0] := by
  have loaded : VideoRun [.load allSucceed] _ := .snoc .nil (.loadOk allSucceed rfl)
  have opened : VideoRun [.load allSucceed, .openNode] _ :=
    .snoc loaded (.openNode (by decide))
  have twice : VideoRun [.load allSucceed, .openNode, .openNode] _ :=
    .snoc opened (.openNode (by decide))
  have unloaded : VideoRun [.load allSucceed, .openNode, .openNode, .unload] _ :=
    .snoc twice .unload
  have closed : VideoRun [.load allSucceed, .openNode, .openNode, .unload, .closeLate 0] _ :=
    .snoc unloaded (.closeLate 0 rfl (by decide))
  refine (dummyVideo_lifecycle_iff closed).mpr ?_
  refine ((((AlwaysSpared.nil.snoc .nil ?_).snoc loaded ?_).snoc opened ?_).snoc twice ?_).snoc
    unloaded ?_
  case refine_1 => exact ⟨rfl, rfl, rfl⟩
  case refine_2 => trivial
  case refine_3 => trivial
  case refine_4 =>
    rintro _ ⟨⟩
    decide
  case refine_5 =>
    intro v at_zero
    obtain rfl := Option.some.inj at_zero
    decide

/-- A load and an unload, with nothing open, free the static struct. -/
theorem dummyVideo_unload_frees_static
    : ¬ ∀ history s, VideoRun history s → Contract history := by
  intro contract
  have loaded : VideoRun [.load allSucceed] _ := .snoc .nil (.loadOk allSucceed rfl)
  have run : VideoRun [.load allSucceed, .unload] _ := .snoc loaded .unload
  have faults := ((contract _ _ run).faultless _ _ (List.prefix_refl _) run).past _
    (List.mem_singleton_self _)
  rw [(register_registered ⟨rfl, rfl, rfl⟩).unregister_closed rfl] at faults
  contradiction

end DummyDrivers.V4l2.Lifecycle
