import DummyDrivers.I2c.Device
import DummyDrivers.Library.ModuleLife

/-! What the i2c module holds over a history of load attempts and unloads. A refused adapter
goes to a label that unregisters the adapter first.
-/

namespace DummyDrivers.I2c

open DummyDrivers.Ledger
open DummyDrivers.ModuleLife

section

/- The kernel's conversion, which the adapter's timeout goes through. -/
variable (msecsToJiffies : Nat → Nat)

/-- The module with its static struct zeroed at each load. -/
def dummyI2c : LoadableModule RegisterCalls Resource :=
  {
    register := fun calls =>
      let (ret, w) := dummyI2cRegister msecsToJiffies calls .zero
      (ret, w.ledger)
    unregister := fun calls =>
      let (_, w) := dummyI2cRegister msecsToJiffies calls .zero
      (dummyI2cUnregister { w with ledger := [] }).2.ledger
  }

def RegisterCalls.AllSucceed (calls : RegisterCalls) : Prop :=
  calls.allocChrdevRegion = none
  ∧ calls.classCreate = none
  ∧ calls.deviceCreate = none
  ∧ calls.i2cAddAdapter = none

/-- The adapter is the first call that fails. -/
def RegisterCalls.AdapterRefused (calls : RegisterCalls) : Prop :=
  calls.allocChrdevRegion = none
  ∧ calls.classCreate = none
  ∧ calls.deviceCreate = none
  ∧ calls.i2cAddAdapter ≠ none

theorem dummyI2cHwInit_ledger (w : World) : (dummyI2cHwInit w).ledger = w.ledger := rfl

theorem dummyI2c_regionRefused (error : Errno) (c2 c3 c4 : KernelCall)
    : (dummyI2c msecsToJiffies).register ⟨some error, c2, c3, c4⟩
      = (KernelCall.ret (some error), []) := by
  have negative := KernelCall.ret_some_neg error
  simp [dummyI2c, dummyI2cRegister, negative.ne, World.zero]

/-- A refused adapter is released before the three things that were acquired. -/
theorem dummyI2c_adapterRefused (error : Errno)
    : (dummyI2c msecsToJiffies).register ⟨none, none, none, some error⟩
      = (-enodev,
        [
          .acquire .chrdevRegion,
          .acquire .deviceClass,
          .acquire .device,
          .release .adapter,
          .release .device,
          .release .deviceClass,
          .release .chrdevRegion
        ]) := by
  have negative := KernelCall.ret_some_neg error
  simp [dummyI2c, dummyI2cRegister, negative.ne, World.zero, World.post, dummyI2cHwInit_ledger,
    errFreeDev, errFreeClass, errFreeDevNum]

/-- An attempt keeps the contract unless its adapter is refused. -/
theorem dummyI2c_keeps_iff (calls : RegisterCalls)
    : ¬ calls.AdapterRefused
      ↔ (dummyI2c msecsToJiffies).Keeps RegisterCalls.AllSucceed calls := by
  obtain ⟨c1, c2, c3, c4⟩ := calls
  rcases c1 with _ | error
  · rcases c2 with _ | error
    · rcases c3 with _ | error
      · rcases c4 with _ | error
        · refine iff_of_true (fun refused => refused.2.2.2 rfl) ?_
          exact keeps_of_zero ⟨rfl, rfl, rfl, rfl⟩ rfl rfl
        · refine iff_of_false (not_not.mpr ⟨rfl, rfl, rfl, Option.some_ne_none error⟩) ?_
          rintro ⟨_, faultless, _⟩
          rw [LoadableModule.registered, dummyI2c_adapterRefused] at faultless
          exact List.cons_ne_nil _ _ faultless
      · refine iff_of_true (fun refused => Option.some_ne_none error refused.2.2.1) ?_
        refine keeps_of_settled ?_ neg_enodev_ne ⟨rfl, rfl⟩
        exact fun all => Option.some_ne_none error all.2.2.1
    · refine iff_of_true (fun refused => Option.some_ne_none error refused.2.1) ?_
      refine keeps_of_settled ?_ neg_enodev_ne ⟨rfl, rfl⟩
      exact fun all => Option.some_ne_none error all.2.1
  · have ran := dummyI2c_regionRefused msecsToJiffies error c2 c3 c4
    have negative := KernelCall.ret_some_neg error
    refine iff_of_true (fun refused => Option.some_ne_none error refused.1) ?_
    refine keeps_of_register ran ?_ negative.ne ⟨rfl, rfl⟩
    exact fun all => Option.some_ne_none error all.1

theorem dummyI2c_unloaded {calls : RegisterCalls} (all : calls.AllSucceed)
    : Settled ((dummyI2c msecsToJiffies).unloaded calls) := by
  obtain ⟨c1, c2, c3, c4⟩ := calls
  obtain ⟨rfl, rfl, rfl, rfl⟩ := all
  exact ⟨rfl, rfl⟩

/-- Over every run the module keeps its contract exactly when no adapter is refused. -/
theorem dummyI2c_contract_iff {history : List (Label RegisterCalls)}
    {s : State RegisterCalls Resource} (run : LifeRun (dummyI2c msecsToJiffies) history s)
    : Contract (dummyI2c msecsToJiffies) RegisterCalls.AllSucceed history
      ↔ ∀ calls, .load calls ∈ history → ¬ calls.AdapterRefused :=
  contract_iff (dummyI2c_keeps_iff msecsToJiffies) (fun _ => dummyI2c_unloaded msecsToJiffies) run

end

end DummyDrivers.I2c
