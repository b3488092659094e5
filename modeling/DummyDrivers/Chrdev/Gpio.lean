import DummyDrivers.Chrdev.Scaffold

/-! The GPIO module: its registration drops the result of adding the chip, so that an
attempt without a chip counts as loaded.
-/

namespace DummyDrivers.Chrdev.Gpio

open DummyDrivers.Ledger
open DummyDrivers.ModuleLife

inductive GpioResource where
  | gpioChip
  deriving DecidableEq, Repr

/-- The results of the kernel calls of one load attempt, in the order they are made. -/
structure Calls where
  allocChrdevRegion : KernelCall
  classCreate : KernelCall
  deviceCreate : KernelCall
  devmGpiochipAddData : KernelCall

/-- The labels `out_dev`, `out_class` and `out_dev_num`. -/
def outDevNum (w : World GpioResource) : Int × World GpioResource := freeDevNum (-enodev) w

def outClass (w : World GpioResource) : Int × World GpioResource := freeClass (-enodev) w

def outDev (w : World GpioResource) : Int × World GpioResource := freeDev (-enodev) w

def dummyGpioRegister (calls : Calls) (w : World GpioResource) : Int × World GpioResource :=
  let ret := calls.allocChrdevRegion.ret
  if ret ≠ 0 then
    (ret, w)
  else
    let w := w.acquire .chrdevRegion
    if calls.classCreate.failed then
      outDevNum w
    else
      let w := w.acquire .deviceClass
      if calls.deviceCreate.failed then
        outClass w
      else
        let w := w.acquire .device
        let w := if calls.devmGpiochipAddData.failed then w else w.manage .gpioChip
        -- The source tests `ret`, which still holds the result of the region.
        if ret < 0 then outDev w else (0, w)

def dummyGpioUnregister (w : World GpioResource) : World GpioResource := unregister w

def dummyGpio : LoadableModule Calls (Resource GpioResource) :=
  driverModule dummyGpioRegister dummyGpioUnregister

def Calls.AllSucceed (calls : Calls) : Prop :=
  calls.allocChrdevRegion = none
  ∧ calls.classCreate = none
  ∧ calls.deviceCreate = none
  ∧ calls.devmGpiochipAddData = none

/-- The chip is the first call that fails. -/
def Calls.ChipRefused (calls : Calls) : Prop :=
  calls.allocChrdevRegion = none
  ∧ calls.classCreate = none
  ∧ calls.deviceCreate = none
  ∧ calls.devmGpiochipAddData ≠ none

theorem dummyGpio_regionRefused (error : Errno) (c2 c3 c4 : KernelCall)
    : dummyGpio.register ⟨some error, c2, c3, c4⟩ = (KernelCall.ret (some error), []) := by
  have negative := KernelCall.ret_some_neg error
  simp [dummyGpio, driverModule, dummyGpioRegister, negative.ne, World.zero]

/-- An attempt keeps the contract unless its chip is refused. -/
theorem dummyGpio_keeps_iff (calls : Calls)
    : ¬ calls.ChipRefused ↔ dummyGpio.Keeps Calls.AllSucceed calls := by
  obtain ⟨c1, c2, c3, c4⟩ := calls
  rcases c1 with _ | error
  · rcases c2 with _ | error
    · rcases c3 with _ | error
      · rcases c4 with _ | error
        · refine iff_of_true (fun refused => refused.2.2.2 rfl) ?_
          exact keeps_of_zero ⟨rfl, rfl, rfl, rfl⟩ rfl rfl
        · refine iff_of_false (not_not.mpr ⟨rfl, rfl, rfl, Option.some_ne_none error⟩) ?_
          rintro ⟨returns, _⟩
          exact Option.some_ne_none error (returns.mp rfl).2.2.2
      · refine iff_of_true (fun refused => Option.some_ne_none error refused.2.2.1) ?_
        refine keeps_of_settled ?_ neg_enodev_ne ⟨rfl, rfl⟩
        exact fun all => Option.some_ne_none error all.2.2.1
    · refine iff_of_true (fun refused => Option.some_ne_none error refused.2.1) ?_
      refine keeps_of_settled ?_ neg_enodev_ne ⟨rfl, rfl⟩
      exact fun all => Option.some_ne_none error all.2.1
  · have ran := dummyGpio_regionRefused error c2 c3 c4
    have negative := KernelCall.ret_some_neg error
    refine iff_of_true (fun refused => Option.some_ne_none error refused.1) ?_
    refine keeps_of_register ran ?_ negative.ne ⟨rfl, rfl⟩
    exact fun all => Option.some_ne_none error all.1

theorem dummyGpio_unloaded {calls : Calls} (all : calls.AllSucceed)
    : Settled (dummyGpio.unloaded calls) := by
  obtain ⟨c1, c2, c3, c4⟩ := calls
  obtain ⟨rfl, rfl, rfl, rfl⟩ := all
  exact ⟨rfl, rfl⟩

/-- Over every run the module keeps its contract exactly when no chip is refused. -/
theorem dummyGpio_contract_iff {history : List (Label Calls)}
    {s : State Calls (Resource GpioResource)} (run : LifeRun dummyGpio history s)
    : Contract dummyGpio Calls.AllSucceed history
      ↔ ∀ calls, .load calls ∈ history → ¬ calls.ChipRefused :=
  contract_iff dummyGpio_keeps_iff (fun _ => dummyGpio_unloaded) run

end DummyDrivers.Chrdev.Gpio
