import DummyDrivers.Spi.Device

/-! What the SPI module holds over a history of load attempts and unloads. Its `ret` is
still zero on four of the six failing paths that reach a label, so that a failed attempt
counts as loaded and is torn down a second time; the refused buffer skips the labels.
-/

namespace DummyDrivers.Spi

open DummyDrivers.Chrdev
open DummyDrivers.Ledger
open DummyDrivers.ModuleLife

def dummySpi : LoadableModule Calls (Resource SpiResource) :=
  driverModule dummySpiRegister dummySpiUnregister

def Calls.AllSucceed (calls : Calls) : Prop :=
  calls.allocChrdevRegion = none
  ∧ calls.classCreate = none
  ∧ calls.deviceCreate = none
  ∧ calls.devmSpiAllocHost = none
  ∧ calls.devmKmalloc = none
  ∧ calls.devmSpiRegisterController = none
  ∧ calls.spiNewDevice = none

/-- The first call that fails, if any does, is the allocation of the region or the
registration of the controller.
-/
def Calls.FailsInPlace (calls : Calls) : Prop :=
  calls.allocChrdevRegion ≠ none
  ∨ calls.classCreate = none
    ∧ calls.deviceCreate = none
    ∧ calls.devmSpiAllocHost = none
    ∧ calls.devmKmalloc = none
    ∧ (calls.devmSpiRegisterController ≠ none ∨ calls.spiNewDevice = none)

/-- What a registration does when all its calls succeed. -/
theorem register_allSucceed {calls : Calls} (all : calls.AllSucceed)
    : dummySpi.register calls
      = (0,
        [
          .acquire .chrdevRegion,
          .acquire .deviceClass,
          .acquire .device,
          .acquire (.own .host),
          .acquire (.own .buf),
          .acquire (.own .controller),
          .acquire (.own .spidev)
        ]) := by
  obtain ⟨h1, h2, h3, h4, h5, h6, h7⟩ := all
  simp [dummySpi, driverModule, dummySpiRegister, h1, h2, h3, h4, h5, h6, h7, World.acquire,
    World.manage, World.zero]

/-- An attempt whose first failure is in its place returns an error and holds nothing. -/
theorem register_failsInPlace {calls : Calls} (inPlace : calls.FailsInPlace)
    (fails : ¬ calls.AllSucceed)
    : (dummySpi.register calls).1 ≠ 0 ∧ Settled (dummySpi.registered calls) := by
  obtain ⟨c1, c2, c3, c4, c5, c6, c7⟩ := calls
  cases c1 with
  | some error =>
      have negative := KernelCall.ret_some_neg error
      have ran : dummySpi.register ⟨some error, c2, c3, c4, c5, c6, c7⟩
          = (KernelCall.ret (some error), []) := by
        simp [dummySpi, driverModule, dummySpiRegister, negative.ne, World.zero]
      rw [LoadableModule.registered, ran]
      exact ⟨negative.ne, rfl, rfl⟩
  | none =>
      rcases inPlace with refused | ⟨rfl, rfl, rfl, rfl, last⟩
      · exact absurd rfl refused
      · cases c6 with
        | none =>
            rcases last with refused | rfl
            · exact absurd rfl refused
            · exact absurd ⟨rfl, rfl, rfl, rfl, rfl, rfl, rfl⟩ fails
        | some error =>
            have negative := KernelCall.ret_some_neg error
            have ran : dummySpi.register ⟨none, none, none, none, none, some error, c7⟩
                = (KernelCall.ret (some error),
                  [
                    .acquire .chrdevRegion,
                    .acquire .deviceClass,
                    .acquire .device,
                    .acquire (.own .host),
                    .acquire (.own .buf),
                    .release .device,
                    .release (.own .buf),
                    .release (.own .host),
                    .release .deviceClass,
                    .release .chrdevRegion
                  ]) := by
              simp [dummySpi, driverModule, dummySpiRegister, negative, World.acquire,
                World.manage, World.zero, exitFreeDev, freeDev, freeClass, freeDevNum,
                World.deviceDestroy, World.release]
            rw [LoadableModule.registered, ran]
            exact ⟨negative.ne, rfl, rfl⟩

/-- An attempt with a refused buffer takes four things and returns at once. -/
theorem register_bufRefused (error : Errno) (c6 c7 : KernelCall)
    : dummySpi.register ⟨none, none, none, none, some error, c6, c7⟩
      = (-enomem,
        [
          .acquire .chrdevRegion,
          .acquire .deviceClass,
          .acquire .device,
          .acquire (.own .host)
        ]) :=
  rfl

/-- Any other failing attempt returns zero, or it leaves the region held. -/
theorem register_failsOutOfPlace {calls : Calls} (outOfPlace : ¬ calls.FailsInPlace)
    : (dummySpi.register calls).1 = 0 ∧ ¬ calls.AllSucceed
      ∨ (dummySpi.register calls).1 ≠ 0 ∧ (dummySpi.registered calls).held ≠ ∅ := by
  obtain ⟨c1, c2, c3, c4, c5, c6, c7⟩ := calls
  rcases c1 with _ | error
  · rcases c2 with _ | error
    · rcases c3 with _ | error
      · rcases c4 with _ | error
        · rcases c5 with _ | error
          · rcases c6 with _ | error
            · rcases c7 with _ | error
              · exact absurd (.inr ⟨rfl, rfl, rfl, rfl, .inr rfl⟩) outOfPlace
              · exact .inl ⟨rfl, fun all => Option.some_ne_none error all.2.2.2.2.2.2⟩
            · refine absurd (.inr ⟨rfl, rfl, rfl, rfl, .inl ?_⟩) outOfPlace
              exact Option.some_ne_none error
          · refine .inr ?_
            rw [LoadableModule.registered, register_bufRefused]
            exact ⟨by decide, by decide⟩
        · exact .inl ⟨rfl, fun all => Option.some_ne_none error all.2.2.2.1⟩
      · exact .inl ⟨rfl, fun all => Option.some_ne_none error all.2.2.1⟩
    · exact .inl ⟨rfl, fun all => Option.some_ne_none error all.2.1⟩
  · exact absurd (.inl (Option.some_ne_none error)) outOfPlace

/-- The unload gives back everything that a registration without failures took. -/
theorem unregister_allSucceed {calls : Calls} (all : calls.AllSucceed)
    : dummySpi.unregister calls
      = [
        .release .device,
        .release (.own .spidev),
        .release (.own .controller),
        .release (.own .buf),
        .release (.own .host),
        .release .deviceClass,
        .release .chrdevRegion
      ] := by
  obtain ⟨h1, h2, h3, h4, h5, h6, h7⟩ := all
  simp [dummySpi, driverModule, dummySpiRegister, dummySpiUnregister, h1, h2, h3, h4, h5, h6,
    h7, World.acquire, World.manage, World.zero, unregister, World.deviceDestroy, World.release]

theorem unloaded_allSucceed {calls : Calls} (all : calls.AllSucceed)
    : Settled (dummySpi.unloaded calls) := by
  rw [LoadableModule.unloaded, LoadableModule.registered, register_allSucceed all,
    unregister_allSucceed all]
  exact ⟨rfl, rfl⟩

/-- A registration whose first failure is in its place returns zero exactly when nothing
fails.
-/
theorem register_eq_zero_iff {calls : Calls} (inPlace : calls.FailsInPlace)
    : (dummySpi.register calls).1 = 0 ↔ calls.AllSucceed := by
  constructor
  · intro ok
    by_contra fails
    exact (register_failsInPlace inPlace fails).1 ok
  · intro all
    rw [register_allSucceed all]

theorem balanced_load {calls : Calls} (inPlace : calls.FailsInPlace)
    : dummySpi.Balanced (.load calls) := by
  by_cases all : calls.AllSucceed
  · refine ⟨?_, fun fails => absurd ((register_eq_zero_iff inPlace).mpr all) fails⟩
    rw [LoadableModule.registered, register_allSucceed all]
    rfl
  · obtain ⟨_, held, faults⟩ := register_failsInPlace inPlace all
    exact ⟨faults, fun _ => held⟩

/-- In every run, registration returns zero exactly when its calls succeed, a failed attempt
holds nothing and no release is out of place, exactly when every attempt that fails does so
first at the region or at the controller.
-/
theorem dummySpi_lifecycle_iff {history : List (Label Calls)}
    {s : State Calls (Resource SpiResource)} (run : LifeRun dummySpi history s)
    : (∀ calls,
          .load calls ∈ history
          → ((dummySpi.register calls).1 = 0 ↔ calls.AllSucceed)
            ∧ ((dummySpi.register calls).1 ≠ 0 → (dummySpi.registered calls).held = ∅))
        ∧ AlwaysFaultless dummySpi history
      ↔ ∀ calls, .load calls ∈ history → calls.FailsInPlace := by
  constructor
  · rintro ⟨each, _⟩ calls member
    obtain ⟨returns, released⟩ := each calls member
    by_contra outOfPlace
    rcases register_failsOutOfPlace outOfPlace with ⟨ok, fails⟩ | ⟨error, held⟩
    · exact fails (returns.mp ok)
    · exact held (released error)
  · intro inPlace
    refine ⟨?_, ?_⟩
    · intro calls member
      have balanced := balanced_load (inPlace calls member)
      exact ⟨register_eq_zero_iff (inPlace calls member), balanced.2⟩
    · refine AlwaysClean.faultless ((alwaysClean_iff run).mpr ?_)
      intro label member
      cases label with
      | load calls => exact balanced_load (inPlace calls member)
      | unload calls =>
          obtain ⟨loaded, zero⟩ := run.loaded.2 calls member
          exact unloaded_allSucceed ((register_eq_zero_iff (inPlace calls loaded)).mp zero)

/-- An attempt in which every call succeeds. -/
def allSucceed : Calls :=
  {
    allocChrdevRegion := none
    classCreate := none
    deviceCreate := none
    devmSpiAllocHost := none
    devmKmalloc := none
    devmSpiRegisterController := none
    spiNewDevice := none
  }

/-- An attempt in which the controller is refused. -/
def controllerRefused : Calls :=
  { allSucceed with devmSpiRegisterController := some { code := 16, positive := by decide } }

/-- An attempt in which the class cannot be created. -/
def classRefused : Calls :=
  { allSucceed with classCreate := some { code := 12, positive := enomem_code_pos } }

/-- Witness: a refused controller, and then a load and an unload. -/
theorem dummySpi_lifecycle_retry
    : AlwaysFaultless dummySpi
        [.load controllerRefused, .load allSucceed, .unload allSucceed] := by
  have run : LifeRun dummySpi [.load controllerRefused, .load allSucceed, .unload allSucceed]
      {
        past := [dummySpi.registered controllerRefused, dummySpi.unloaded allSucceed]
        loaded := none
      } :=
    .snoc (.snoc (.snoc .nil (.loadFail controllerRefused (by decide))) (.loadOk allSucceed rfl))
      (.unload allSucceed)
  refine ((dummySpi_lifecycle_iff run).mpr ?_).2
  intro calls member
  simp only [List.mem_cons, Label.load.injEq, reduceCtorEq, List.not_mem_nil, or_false] at member
  rcases member with rfl | rfl
  · exact .inr ⟨rfl, rfl, rfl, rfl, .inl (Option.some_ne_none _)⟩
  · exact .inr ⟨rfl, rfl, rfl, rfl, .inr rfl⟩

/-- Without a class the registration cleans up and returns zero, so that the module stays
loaded and its unload releases the region once more.
-/
theorem dummySpi_double_release
    : ¬ ∀ history s,
          LifeRun dummySpi history s
          → (∀ calls,
                .load calls ∈ history
                → ((dummySpi.register calls).1 = 0 ↔ calls.AllSucceed)
                  ∧ ((dummySpi.register calls).1 ≠ 0
                    → (dummySpi.registered calls).held = ∅))
              ∧ AlwaysFaultless dummySpi history := by
  intro clean
  have run : LifeRun dummySpi [.load classRefused, .unload classRefused]
      { past := [dummySpi.unloaded classRefused], loaded := none } :=
    .snoc (.snoc .nil (.loadOk classRefused rfl)) (.unload classRefused)
  have faultless := ((clean _ _ run).2 _ _ (List.prefix_refl _) run).1 _
    (List.mem_singleton_self _)
  have faults : (dummySpi.unloaded classRefused).faults
      = [.release .device, .release .deviceClass, .release .chrdevRegion] := rfl
  rw [faults] at faultless
  contradiction

end DummyDrivers.Spi
