import DummyDrivers.Chrdev.Scaffold

/-! The DRM module: the one reference to its DRM device is tied to the parent device, and a
label of the registration drops it as well. The registration goes on without a region.
-/

namespace DummyDrivers.Chrdev.Drm

open DummyDrivers.Ledger
open DummyDrivers.ModuleLife

/-- The reference that `devm_drm_dev_alloc` returns. The driver takes no other, so that the
count of the DRM device is one while it is held and zero otherwise, and every further
release would decrement it below zero.
-/
inductive DrmResource where
  | drmReference
  deriving DecidableEq, Repr

/-- The results of the kernel calls of one load attempt, in the order they are made. -/
structure Calls where
  allocChrdevRegion : KernelCall
  classCreate : KernelCall
  deviceCreate : KernelCall
  devmDrmDevAlloc : KernelCall
  drmModeConfigInit : KernelCall
  drmConnectorInit : KernelCall
  drmSimpleDisplayPipeInit : KernelCall
  drmDevRegister : KernelCall

def dummyDrmDevInitWithFormats (calls : Calls) : Int :=
  if calls.drmModeConfigInit.ret ≠ 0 then
    calls.drmModeConfigInit.ret
  else if calls.drmConnectorInit.ret ≠ 0 then
    calls.drmConnectorInit.ret
  else if calls.drmSimpleDisplayPipeInit.ret ≠ 0 then
    calls.drmSimpleDisplayPipeInit.ret
  else
    0

def dummyDrmDevInit (calls : Calls) : Int := dummyDrmDevInitWithFormats calls

/-- The labels `out_drm`, `out_dev`, `out_class` and `out_dev_num`. -/
def outDevNum (w : World DrmResource) : Int × World DrmResource := freeDevNum (-enodev) w

def outClass (w : World DrmResource) : Int × World DrmResource := freeClass (-enodev) w

def outDev (w : World DrmResource) : Int × World DrmResource := freeDev (-enodev) w

/-- `drm_dev_put` drops the reference without untying it from the parent device. -/
def outDrm (w : World DrmResource) : Int × World DrmResource :=
  outDev (w.release (.own .drmReference))

def dummyDrmRegister (calls : Calls) (w : World DrmResource) : Int × World DrmResource :=
  -- The source goes on without a region as well.
  let w := if calls.allocChrdevRegion.failed then w else w.acquire .chrdevRegion
  if calls.classCreate.failed then
    outDevNum w
  else
    let w := w.acquire .deviceClass
    if calls.deviceCreate.failed then
      outClass w
    else
      let w := w.acquire .device
      if calls.devmDrmDevAlloc.failed then
        outDev w
      else
        let w := w.manage .drmReference
        if dummyDrmDevInit calls ≠ 0 then
          outDrm w
        else if calls.drmDevRegister.ret ≠ 0 then
          outDrm w
        else
          (0, w)

/-- The unplugging and the shutdown before it leave the count balanced. -/
def dummyDrmUnregister (w : World DrmResource) : World DrmResource := unregister w

def dummyDrm : LoadableModule Calls (Resource DrmResource) :=
  driverModule dummyDrmRegister dummyDrmUnregister

/-- A DRM device is allocated. -/
def Calls.HasDrm (calls : Calls) : Prop :=
  calls.classCreate = none ∧ calls.deviceCreate = none ∧ calls.devmDrmDevAlloc = none

/-- None of the calls on an allocated DRM device fails. -/
def Calls.DrmReady (calls : Calls) : Prop :=
  calls.drmModeConfigInit = none
  ∧ calls.drmConnectorInit = none
  ∧ calls.drmSimpleDisplayPipeInit = none
  ∧ calls.drmDevRegister = none

/-- The acquisition of the region, if it is one. -/
def regionEntries (calls : Calls) : List (Entry (Resource DrmResource)) :=
  if calls.allocChrdevRegion.failed then [] else [.acquire .chrdevRegion]

/-- What an attempt has acquired when it has a DRM device. -/
def drmEntries (calls : Calls) : List (Entry (Resource DrmResource)) :=
  regionEntries calls
  ++ [.acquire .deviceClass, .acquire .device, .acquire (.own .drmReference)]

theorem dummyDrmDevInit_eq_zero_iff (calls : Calls)
    : dummyDrmDevInit calls = 0
      ↔ calls.drmModeConfigInit = none
        ∧ calls.drmConnectorInit = none
        ∧ calls.drmSimpleDisplayPipeInit = none := by
  simp only [dummyDrmDevInit, dummyDrmDevInitWithFormats, ne_eq, ite_not]
  split_ifs <;> simp_all [KernelCall.ret_eq_zero]

theorem register_ready {calls : Calls} (hasDrm : calls.HasDrm) (ready : calls.DrmReady)
    : dummyDrm.register calls = (0, drmEntries calls) := by
  obtain ⟨c1, c2, c3, c4, c5, c6, c7, c8⟩ := calls
  obtain ⟨rfl, rfl, rfl⟩ := hasDrm
  obtain ⟨rfl, rfl, rfl, rfl⟩ := ready
  cases c1 <;> rfl

/-- A DRM device that does not get ready loses its reference twice. -/
theorem register_unready {calls : Calls} (hasDrm : calls.HasDrm) (unready : ¬ calls.DrmReady)
    : dummyDrm.register calls
      = (-enodev,
        drmEntries calls
        ++ [
          .release (.own .drmReference),
          .release .device,
          .release (.own .drmReference),
          .release .deviceClass,
          .release .chrdevRegion
        ]) := by
  obtain ⟨c1, c2, c3, c4, c5, c6, c7, c8⟩ := calls
  obtain ⟨rfl, rfl, rfl⟩ := hasDrm
  have initFails : dummyDrmDevInit ⟨c1, none, none, none, c5, c6, c7, c8⟩ = 0 → c8.ret ≠ 0 := by
    intro zero registered
    obtain ⟨h5, h6, h7⟩ := (dummyDrmDevInit_eq_zero_iff _).mp zero
    exact unready ⟨h5, h6, h7, KernelCall.ret_eq_zero.mp registered⟩
  by_cases zero : dummyDrmDevInit ⟨c1, none, none, none, c5, c6, c7, c8⟩ = 0
  · have refused := initFails zero
    cases c1 <;>
      simp [dummyDrm, driverModule, dummyDrmRegister, zero, refused, outDrm, outDev, freeDev,
        freeClass, freeDevNum, World.zero, World.acquire, World.release, World.manage,
        World.deviceDestroy, drmEntries, regionEntries]
  · cases c1 <;>
      simp [dummyDrm, driverModule, dummyDrmRegister, zero, outDrm, outDev, freeDev,
        freeClass, freeDevNum, World.zero, World.acquire, World.release, World.manage,
        World.deviceDestroy, drmEntries, regionEntries]

/-- Without a DRM device an attempt fails and undoes what it acquired. -/
theorem register_noDrm {calls : Calls} (noDrm : ¬ calls.HasDrm)
    : (dummyDrm.register calls).1 = -enodev
      ∧ (dummyDrm.registered calls).held = ∅
      ∧ ((dummyDrm.registered calls).faults = [] ↔ calls.allocChrdevRegion = none) := by
  obtain ⟨c1, c2, c3, c4, c5, c6, c7, c8⟩ := calls
  rcases c2 with _ | error
  · rcases c3 with _ | error
    · rcases c4 with _ | error
      · exact absurd ⟨rfl, rfl, rfl⟩ noDrm
      · cases c1 with
        | none => exact ⟨rfl, rfl, iff_of_true rfl rfl⟩
        | some refusal =>
            exact ⟨rfl, rfl, iff_of_false (List.cons_ne_nil _ _) (Option.some_ne_none refusal)⟩
    · cases c1 with
      | none => exact ⟨rfl, rfl, iff_of_true rfl rfl⟩
      | some refusal =>
          exact ⟨rfl, rfl, iff_of_false (List.cons_ne_nil _ _) (Option.some_ne_none refusal)⟩
  · cases c1 with
    | none => exact ⟨rfl, rfl, iff_of_true rfl rfl⟩
    | some refusal =>
        exact ⟨rfl, rfl, iff_of_false (List.cons_ne_nil _ _) (Option.some_ne_none refusal)⟩

/-- A load attempt that ends well has a DRM device that gets ready, or it has none but its
region. An unload ends well when there is a region to give back.
-/
def EndsWell : Label Calls → Prop
  | .load calls => calls.HasDrm ∧ calls.DrmReady ∨ ¬ calls.HasDrm ∧ calls.allocChrdevRegion = none
  | .unload calls => calls.allocChrdevRegion = none

theorem balanced_load_iff (calls : Calls)
    : dummyDrm.Balanced (.load calls) ↔ EndsWell (.load calls) := by
  by_cases hasDrm : calls.HasDrm
  · by_cases ready : calls.DrmReady
    · refine iff_of_true ⟨?_, ?_⟩ (.inl ⟨hasDrm, ready⟩)
      · rw [LoadableModule.registered, register_ready hasDrm ready, drmEntries, regionEntries]
        cases calls.allocChrdevRegion <;> rfl
      · exact fun error => absurd (by rw [register_ready hasDrm ready]) error
    · refine iff_of_false ?_ ?_
      · rintro ⟨faultless, _⟩
        rw [LoadableModule.registered, register_unready hasDrm ready, drmEntries,
          regionEntries] at faultless
        cases region : calls.allocChrdevRegion <;> simp [region] at faultless <;>
          exact absurd faultless (List.cons_ne_nil _ _)
      · rintro (⟨_, ready'⟩ | ⟨noDrm, _⟩)
        · exact ready ready'
        · exact noDrm hasDrm
  · obtain ⟨ret, held, faultless⟩ := register_noDrm hasDrm
    constructor
    · rintro ⟨none, _⟩
      exact .inr ⟨hasDrm, faultless.mp none⟩
    · rintro (⟨hasDrm', _⟩ | ⟨_, region⟩)
      · exact absurd hasDrm' hasDrm
      · exact ⟨faultless.mpr region, fun _ => held⟩

/-- Registration returns zero exactly when a DRM device gets ready, whatever became of the
region.
-/
theorem register_eq_zero_iff (calls : Calls)
    : (dummyDrm.register calls).1 = 0 ↔ calls.HasDrm ∧ calls.DrmReady := by
  constructor
  · intro zero
    by_cases hasDrm : calls.HasDrm
    · refine ⟨hasDrm, ?_⟩
      by_contra unready
      rw [register_unready hasDrm unready] at zero
      exact neg_enodev_ne zero
    · rw [(register_noDrm hasDrm).1] at zero
      exact absurd zero neg_enodev_ne
  · rintro ⟨hasDrm, ready⟩
    rw [register_ready hasDrm ready]

/-- The unload of a ready DRM device gives back all it acquired, and the region in any case. -/
theorem unregister_ready {calls : Calls} (hasDrm : calls.HasDrm) (ready : calls.DrmReady)
    : dummyDrm.unregister calls
      = [
        .release .device,
        .release (.own .drmReference),
        .release .deviceClass,
        .release .chrdevRegion
      ] := by
  obtain ⟨c1, c2, c3, c4, c5, c6, c7, c8⟩ := calls
  obtain ⟨rfl, rfl, rfl⟩ := hasDrm
  obtain ⟨rfl, rfl, rfl, rfl⟩ := ready
  cases c1 <;> rfl

/-- The unload drops the reference once, and it releases the region in any case. -/
theorem balanced_unload_iff {calls : Calls} (hasDrm : calls.HasDrm) (ready : calls.DrmReady)
    : dummyDrm.Balanced (.unload calls) ↔ EndsWell (.unload calls) := by
  rw [LoadableModule.Balanced, EndsWell, LoadableModule.unloaded, LoadableModule.registered,
    register_ready hasDrm ready, unregister_ready hasDrm ready, drmEntries, regionEntries]
  cases calls.allocChrdevRegion with
  | none => exact iff_of_true ⟨rfl, rfl⟩ rfl
  | some refusal =>
      refine iff_of_false ?_ (Option.some_ne_none refusal)
      exact fun settled => List.cons_ne_nil _ _ settled.2

/-- In every run, the references and the scaffold's resources stay balanced exactly when
every event ends well.
-/
theorem dummyDrm_lifecycle_iff {history : List (Label Calls)}
    {s : State Calls (Resource DrmResource)} (run : LifeRun dummyDrm history s)
    : AlwaysClean dummyDrm history ↔ ∀ label ∈ history, EndsWell label := by
  rw [alwaysClean_iff run]
  refine forall₂_congr ?_
  intro label member
  cases label with
  | load calls => exact balanced_load_iff calls
  | unload calls =>
      obtain ⟨hasDrm, ready⟩ := (register_eq_zero_iff calls).mp (run.loaded.2 calls member).2
      exact balanced_unload_iff hasDrm ready

/-- An attempt in which every call succeeds. -/
def allSucceed : Calls :=
  {
    allocChrdevRegion := none
    classCreate := none
    deviceCreate := none
    devmDrmDevAlloc := none
    drmModeConfigInit := none
    drmConnectorInit := none
    drmSimpleDisplayPipeInit := none
    drmDevRegister := none
  }

/-- An attempt in which the parent device cannot be created. -/
def deviceRefused : Calls :=
  { allSucceed with deviceCreate := some { code := 12, positive := enomem_code_pos } }

/-- An attempt in which the DRM device cannot be registered. -/
def registerRefused : Calls :=
  { allSucceed with drmDevRegister := some { code := 12, positive := enomem_code_pos } }

/-- Witness: a failed attempt, and then a load and an unload. -/
theorem dummyDrm_lifecycle_retry
    : AlwaysClean dummyDrm [.load deviceRefused, .load allSucceed, .unload allSucceed] := by
  have failed : LifeRun dummyDrm [.load deviceRefused] _ :=
    .snoc .nil (.loadFail deviceRefused neg_enodev_ne)
  have run : LifeRun dummyDrm [.load deviceRefused, .load allSucceed, .unload allSucceed] _ :=
    .snoc (.snoc failed (.loadOk allSucceed rfl)) (.unload allSucceed)
  refine (dummyDrm_lifecycle_iff run).mpr ?_
  simp only [List.mem_cons, List.not_mem_nil, or_false]
  rintro label (rfl | rfl | rfl)
  · exact .inr ⟨fun hasDrm => Option.some_ne_none _ hasDrm.2.1, rfl⟩
  · exact .inl ⟨⟨rfl, rfl, rfl⟩, rfl, rfl, rfl, rfl⟩
  · rfl

/-- The reference of a DRM device that is not registered is dropped by the label and once
more with the parent device.
-/
theorem dummyDrm_double_put
    : ¬ ∀ history s, LifeRun dummyDrm history s → AlwaysClean dummyDrm history := by
  intro clean
  have run : LifeRun dummyDrm [.load registerRefused]
      { past := [dummyDrm.registered registerRefused], loaded := none } :=
    .snoc .nil (.loadFail registerRefused (by decide))
  have faultless := (clean _ _ run _ _ (List.prefix_refl _) run).past _
    (List.mem_singleton_self _)
  have faults : (dummyDrm.registered registerRefused).faults
      = [.release (.own .drmReference)] := by
    decide
  rw [faults] at faultless
  contradiction

end DummyDrivers.Chrdev.Drm
