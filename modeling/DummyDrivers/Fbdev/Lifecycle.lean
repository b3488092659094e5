import DummyDrivers.Fbdev.Device
import DummyDrivers.Library.ModuleLife

/-! What the fbdev module holds over a history of load attempts and unloads. Two paths
leave resources behind: a refused `register_framebuffer`, which skips the labels of the
allocation, and every unload, which never frees the two structs of the allocation.
-/

namespace DummyDrivers.Fbdev

open DummyDrivers.Ledger
open DummyDrivers.ModuleLife

/-- The module with its static struct zeroed at each load. -/
def dummyFb : LoadableModule Calls Resource :=
  {
    register := fun calls =>
      let (ret, w) := dummyFbDrvRegister calls .zero
      (ret, w.ledger)
    unregister := fun calls =>
      (dummyFbDrvUnregister { (dummyFbDrvRegister calls .zero).2 with ledger := [] }).ledger
  }

/-- Every call before the registration of the framebuffer succeeds. -/
structure Calls.Prepared (calls : Calls) : Prop where
  allocChrdevRegion : calls.allocChrdevRegion = none
  classCreate : calls.classCreate = none
  deviceCreate : calls.deviceCreate = none
  vzalloc : calls.vzalloc = none
  kzallocFbops : calls.kzallocFbops = none
  kzallocFbdefio : calls.kzallocFbdefio = none
  framebufferAlloc : calls.framebufferAlloc = none

def Calls.AllSucceed (calls : Calls) : Prop :=
  calls.Prepared ∧ calls.registerFramebuffer = none

/-- The registration of the framebuffer is the first call that fails. -/
def Calls.FramebufferRefused (calls : Calls) : Prop :=
  calls.Prepared ∧ calls.registerFramebuffer ≠ none

/-- The acquisitions of a prepared attempt up to the registration of the framebuffer. -/
def preparedEntries : List (Entry Resource) :=
  [
    .acquire .chrdevRegion,
    .acquire .deviceClass,
    .acquire .device,
    .acquire .vmem,
    .acquire .fbops,
    .acquire .fbdefio,
    .acquire .fbInfo,
    .acquire .deferredIo
  ]

/-- What a registration does when its calls succeed: it acquires everything. -/
theorem register_allSucceed {calls : Calls} (all : calls.AllSucceed)
    : dummyFb.register calls = (0, preparedEntries ++ [.acquire .framebuffer]) := by
  obtain ⟨⟨h1, h2, h3, h4, h5, h6, h7⟩, h8⟩ := all
  simp [dummyFb, dummyFbDrvRegister, dummyFbAlloc, h1, h2, h3, h4, h5, h6, h7, h8,
    World.acquire, World.zero, preparedEntries]

/-- A refused framebuffer ends the allocation at once, and the labels of the caller undo
the first three acquisitions only.
-/
theorem register_framebufferRefused {calls : Calls} (refused : calls.FramebufferRefused)
    : dummyFb.register calls
      = (-enodev,
        preparedEntries
        ++ [.release .device, .release .deviceClass, .release .chrdevRegion]) := by
  obtain ⟨⟨h1, h2, h3, h4, h5, h6, h7⟩, h8⟩ := refused
  have negative := KernelCall.ret_neg.mpr h8
  simp [dummyFb, dummyFbDrvRegister, dummyFbAlloc, h1, h2, h3, h4, h5, h6, h7, negative,
    World.acquire, World.release, World.zero, preparedEntries, outDev, outClass, outDevNum]

/-- An attempt that fails earlier returns an error and undoes what it acquired, at each
of its seven calls.
-/
theorem register_unprepared {calls : Calls} (unprepared : ¬ calls.Prepared)
    : (dummyFb.register calls).1 ≠ 0 ∧ Settled (dummyFb.registered calls) := by
  obtain ⟨c1, c2, c3, c4, c5, c6, c7, c8⟩ := calls
  rcases c1 with _ | error
  · rcases c2 with _ | error
    · rcases c3 with _ | error
      · rcases c4 with _ | error
        · rcases c5 with _ | error
          · rcases c6 with _ | error
            · rcases c7 with _ | error
              · exact absurd ⟨rfl, rfl, rfl, rfl, rfl, rfl, rfl⟩ unprepared
              · exact ⟨neg_enodev_ne, rfl, rfl⟩
            · exact ⟨neg_enodev_ne, rfl, rfl⟩
          · exact ⟨neg_enodev_ne, rfl, rfl⟩
        · exact ⟨neg_enodev_ne, rfl, rfl⟩
      · exact ⟨neg_enodev_ne, rfl, rfl⟩
    · exact ⟨neg_enodev_ne, rfl, rfl⟩
  · have negative := KernelCall.ret_some_neg error
    have ran : dummyFb.register ⟨some error, c2, c3, c4, c5, c6, c7, c8⟩
        = (KernelCall.ret (some error), []) := by
      simp [dummyFb, dummyFbDrvRegister, negative, World.zero]
    rw [LoadableModule.registered, ran]
    exact ⟨negative.ne, rfl, rfl⟩

/-- Registration returns zero exactly when all its calls succeed. -/
theorem register_eq_zero_iff (calls : Calls)
    : (dummyFb.register calls).1 = 0 ↔ calls.AllSucceed := by
  constructor
  · intro ok
    by_cases prepared : calls.Prepared
    · refine ⟨prepared, ?_⟩
      by_contra refused
      rw [register_framebufferRefused ⟨prepared, refused⟩] at ok
      contradiction
    · exact absurd ok (register_unprepared prepared).1
  · intro all
    rw [register_allSucceed all]

/-- An attempt does what it must unless its framebuffer is refused. -/
theorem balanced_load_iff (calls : Calls)
    : dummyFb.Balanced (.load calls) ↔ ¬ calls.FramebufferRefused := by
  constructor
  · intro balanced refused
    have empty := balanced.2 (by rw [register_framebufferRefused refused]; exact neg_enodev_ne)
    rw [LoadableModule.registered, register_framebufferRefused refused] at empty
    have held : Resource.vmem ∈ (∅ : Finset Resource) := empty ▸ by decide
    simp at held
  · intro accepted
    by_cases prepared : calls.Prepared
    · have all : calls.AllSucceed := ⟨prepared, not_not.mp fun fails => accepted ⟨prepared, fails⟩⟩
      refine ⟨?_, fun fails => absurd ((register_eq_zero_iff calls).mpr all) fails⟩
      rw [LoadableModule.registered, register_allSucceed all]
      rfl
    · obtain ⟨_, held, faults⟩ := register_unprepared prepared
      exact ⟨faults, fun _ => held⟩

/-- The unload releases everything but the two structs of the allocation. -/
theorem unregister_allSucceed {calls : Calls} (all : calls.AllSucceed)
    : dummyFb.unregister calls
      = [
        .release .deferredIo,
        .release .framebuffer,
        .release .vmem,
        .release .fbInfo,
        .release .device,
        .release .deviceClass,
        .release .chrdevRegion
      ] := by
  obtain ⟨⟨h1, h2, h3, h4, h5, h6, h7⟩, h8⟩ := all
  simp [dummyFb, dummyFbDrvRegister, dummyFbDrvUnregister, dummyFbAlloc, h1, h2, h3, h4, h5,
    h6, h7, h8, World.acquire, World.release]

/-- After an unload the two structs are still held, and no release was out of place. -/
theorem unloaded_allSucceed {calls : Calls} (all : calls.AllSucceed)
    : dummyFb.unloaded calls = { held := {.fbdefio, .fbops}, faults := [] } := by
  rw [LoadableModule.unloaded, LoadableModule.registered, register_allSucceed all,
    unregister_allSucceed all]
  rfl

/-- A load attempt that leaves nothing behind: its framebuffer is not refused. No unload
leaves nothing behind.
-/
def LeavesNothing : Label Calls → Prop
  | .load calls => ¬ calls.FramebufferRefused
  | .unload _ => False

/-- Every run returns zero exactly from the attempts in which all calls succeed, and it is
clean throughout exactly when no framebuffer is refused and the module is never unloaded.
-/
theorem dummyFb_lifecycle_iff {history : List (Label Calls)} {s : State Calls Resource}
    (run : LifeRun dummyFb history s)
    : ((∀ calls, .load calls ∈ history → ((dummyFb.register calls).1 = 0 ↔ calls.AllSucceed))
        ∧ AlwaysClean dummyFb history)
      ↔ ∀ label ∈ history, LeavesNothing label := by
  rw [alwaysClean_iff run]
  constructor
  · rintro ⟨_, balanced⟩ label member
    cases label with
    | load calls => exact (balanced_load_iff calls).mp (balanced _ member)
    | unload calls =>
        have all := (register_eq_zero_iff calls).mp (run.loaded.2 calls member).2
        have settled := balanced _ member
        simp [LoadableModule.Balanced, Settled, unloaded_allSucceed all] at settled
  · intro nothing
    refine ⟨fun calls _ => register_eq_zero_iff calls, ?_⟩
    intro label member
    cases label with
    | load calls => exact (balanced_load_iff calls).mpr (nothing _ member)
    | unload calls => exact absurd (nothing _ member) id

/-- An attempt in which every call succeeds. -/
def allSucceed : Calls :=
  {
    allocChrdevRegion := none
    classCreate := none
    deviceCreate := none
    vzalloc := none
    kzallocFbops := none
    kzallocFbdefio := none
    framebufferAlloc := none
    registerFramebuffer := none
  }

/-- An attempt in which the second allocation of the framebuffer fails. -/
def fbopsFails : Calls :=
  { allSucceed with kzallocFbops := some { code := 12, positive := enomem_code_pos } }

/-- Witness: a failed attempt and a successful one after it. -/
theorem dummyFb_lifecycle_retry
    : AlwaysClean dummyFb [.load fbopsFails, .load allSucceed] := by
  have run : LifeRun dummyFb [.load fbopsFails, .load allSucceed]
      { past := [dummyFb.registered fbopsFails], loaded := some allSucceed } :=
    .snoc (.snoc .nil (.loadFail fbopsFails neg_enodev_ne)) (.loadOk allSucceed rfl)
  refine ((dummyFb_lifecycle_iff run).mpr ?_).2
  intro label member
  rcases List.mem_pair.mp member with rfl | rfl
  · exact fun refused => nomatch refused.1.kzallocFbops
  · exact fun refused => refused.2 rfl

/-- After a load and an unload the two structs are still held. -/
theorem dummyFb_unload_leaks
    : ¬ ∀ history s,
          LifeRun dummyFb history s
          → (∀ calls,
              .load calls ∈ history → ((dummyFb.register calls).1 = 0 ↔ calls.AllSucceed))
            ∧ AlwaysClean dummyFb history := by
  intro clean
  have run : LifeRun dummyFb [.load allSucceed, .unload allSucceed]
      { past := [dummyFb.unloaded allSucceed], loaded := none } :=
    .snoc (.snoc .nil (.loadOk allSucceed rfl)) (.unload allSucceed)
  have settled := ((clean _ _ run).2 _ _ (List.prefix_refl _) run).released rfl _
    (List.mem_singleton_self _)
  have held : Resource.fbops ∈ (∅ : Finset Resource) := settled ▸ by decide
  simp at held

end DummyDrivers.Fbdev
