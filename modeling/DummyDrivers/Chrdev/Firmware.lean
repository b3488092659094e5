import DummyDrivers.Chrdev.Scaffold

/-! The firmware module: its registration loads, prints and releases an image, and it goes
on without a region.
-/

namespace DummyDrivers.Chrdev.Firmware

open DummyDrivers.Ledger
open DummyDrivers.ModuleLife

inductive FirmwareResource where
  | fw
  deriving DecidableEq, Repr

/-- The results of the kernel calls of one load attempt, in the order they are made. -/
structure Calls where
  allocChrdevRegion : KernelCall
  classCreate : KernelCall
  deviceCreate : KernelCall
  requestFirmware : KernelCall

/-- The labels `out_dev`, `out_class` and `out_dev_num`. -/
def outDevNum (w : World FirmwareResource) : Int × World FirmwareResource :=
  freeDevNum (-enodev) w

def outClass (w : World FirmwareResource) : Int × World FirmwareResource :=
  freeClass (-enodev) w

def outDev (w : World FirmwareResource) : Int × World FirmwareResource := freeDev (-enodev) w

def dummyFirmwareDrvRegister (calls : Calls) (w : World FirmwareResource)
    : Int × World FirmwareResource :=
  -- The source goes on without a region as well.
  let w := if calls.allocChrdevRegion.failed then w else w.acquire .chrdevRegion
  if calls.classCreate.failed then
    outDevNum w
  else
    let w := w.acquire .deviceClass
    if calls.deviceCreate.failed then
      outClass w
    else
      let w := w.acquire .device
      if calls.requestFirmware.ret ≠ 0 then
        outDev w
      else
        (0, (w.acquire (.own .fw)).release (.own .fw))

def dummyFirmwareDrvUnregister (w : World FirmwareResource) : World FirmwareResource :=
  unregister w

def dummyFirmware : LoadableModule Calls (Resource FirmwareResource) :=
  driverModule dummyFirmwareDrvRegister dummyFirmwareDrvUnregister

def Calls.AllSucceed (calls : Calls) : Prop :=
  calls.allocChrdevRegion = none
  ∧ calls.classCreate = none
  ∧ calls.deviceCreate = none
  ∧ calls.requestFirmware = none

/-- A refused image goes through all three labels. -/
theorem dummyFirmware_imageRefused (c1 : KernelCall) (error : Errno)
    : dummyFirmware.register ⟨c1, none, none, some error⟩
      = (-enodev,
        (if c1.failed then [] else [.acquire .chrdevRegion])
        ++ [
          .acquire .deviceClass,
          .acquire .device,
          .release .device,
          .release .deviceClass,
          .release .chrdevRegion
        ]) := by
  have negative := KernelCall.ret_some_neg error
  cases c1 <;>
    simp [dummyFirmware, driverModule, dummyFirmwareDrvRegister, negative.ne, World.zero,
      World.acquire, World.release, World.deviceDestroy, outDev, freeDev, freeClass, freeDevNum,
      KernelCall.failed]

/-- Without a region an attempt returns zero, or it releases the region. -/
theorem dummyFirmware_regionRefused (error : Errno) (c2 c3 c4 : KernelCall)
    : ¬ dummyFirmware.Keeps Calls.AllSucceed ⟨some error, c2, c3, c4⟩ := by
  rintro ⟨returns, faultless, _⟩
  rcases c2 with _ | _
  · rcases c3 with _ | _
    · rcases c4 with _ | refusal
      · exact Option.some_ne_none error (returns.mp rfl).1
      · rw [LoadableModule.registered, dummyFirmware_imageRefused] at faultless
        exact List.cons_ne_nil _ _ faultless
    · exact List.cons_ne_nil _ _ faultless
  · exact List.cons_ne_nil _ _ faultless

/-- An attempt keeps the contract exactly when its region is allocated. -/
theorem dummyFirmware_keeps_iff (calls : Calls)
    : calls.allocChrdevRegion = none ↔ dummyFirmware.Keeps Calls.AllSucceed calls := by
  obtain ⟨c1, c2, c3, c4⟩ := calls
  rcases c1 with _ | error
  · refine iff_of_true rfl ?_
    rcases c2 with _ | error
    · rcases c3 with _ | error
      · rcases c4 with _ | error
        · exact keeps_of_zero ⟨rfl, rfl, rfl, rfl⟩ rfl rfl
        · have ran := dummyFirmware_imageRefused none error
          refine keeps_of_register ran ?_ neg_enodev_ne ⟨rfl, rfl⟩
          exact fun all => Option.some_ne_none error all.2.2.2
      · refine keeps_of_settled ?_ neg_enodev_ne ⟨rfl, rfl⟩
        exact fun all => Option.some_ne_none error all.2.2.1
    · refine keeps_of_settled ?_ neg_enodev_ne ⟨rfl, rfl⟩
      exact fun all => Option.some_ne_none error all.2.1
  · refine iff_of_false (Option.some_ne_none error) ?_
    exact dummyFirmware_regionRefused error c2 c3 c4

theorem dummyFirmware_unloaded {calls : Calls} (all : calls.AllSucceed)
    : Settled (dummyFirmware.unloaded calls) := by
  obtain ⟨c1, c2, c3, c4⟩ := calls
  obtain ⟨rfl, rfl, rfl, rfl⟩ := all
  exact ⟨rfl, rfl⟩

/-- Over every run the module keeps its contract exactly when every attempt gets a region. -/
theorem dummyFirmware_contract_iff {history : List (Label Calls)}
    {s : State Calls (Resource FirmwareResource)} (run : LifeRun dummyFirmware history s)
    : Contract dummyFirmware Calls.AllSucceed history
      ↔ ∀ calls, .load calls ∈ history → calls.allocChrdevRegion = none :=
  contract_iff dummyFirmware_keeps_iff (fun _ => dummyFirmware_unloaded) run

end DummyDrivers.Chrdev.Firmware
