import DummyDrivers.Chrdev.Scaffold

/-! The regulator module: its registration overwrites the result of the region, and a
refused regulator returns without the labels.
-/

namespace DummyDrivers.Chrdev.Regulator

open DummyDrivers.Ledger
open DummyDrivers.ModuleLife

inductive RegulatorResource where
  | regulatorDev
  deriving DecidableEq, Repr

/-- The results of the kernel calls of one load attempt, in the order they are made. -/
structure Calls where
  allocChrdevRegion : KernelCall
  classCreate : KernelCall
  deviceCreate : KernelCall
  devmRegulatorRegister : KernelCall

/-- `dummy_regulator_register`, with `PTR_ERR` of a refused regulator. -/
def dummyRegulatorRegister (calls : Calls) (w : World RegulatorResource)
    : Int × World RegulatorResource :=
  if calls.devmRegulatorRegister.failed then
    (calls.devmRegulatorRegister.ret, w)
  else
    (0, w.manage .regulatorDev)

/-- The labels `out_class` and `out_dev_num`. -/
def outDevNum (w : World RegulatorResource) : Int × World RegulatorResource :=
  freeDevNum (-enodev) w

def outClass (w : World RegulatorResource) : Int × World RegulatorResource :=
  freeClass (-enodev) w

def dummyRegulatorDrvRegister (calls : Calls) (w : World RegulatorResource)
    : Int × World RegulatorResource :=
  -- The source goes on without a region as well.
  let w := if calls.allocChrdevRegion.failed then w else w.acquire .chrdevRegion
  if calls.classCreate.failed then
    outDevNum w
  else
    let w := w.acquire .deviceClass
    if calls.deviceCreate.failed then
      outClass w
    else
      dummyRegulatorRegister calls (w.acquire .device)

def dummyRegulatorDrvUnregister (w : World RegulatorResource) : World RegulatorResource :=
  unregister w

def dummyRegulator : LoadableModule Calls (Resource RegulatorResource) :=
  driverModule dummyRegulatorDrvRegister dummyRegulatorDrvUnregister

def Calls.AllSucceed (calls : Calls) : Prop :=
  calls.allocChrdevRegion = none
  ∧ calls.classCreate = none
  ∧ calls.deviceCreate = none
  ∧ calls.devmRegulatorRegister = none

/-- The region is allocated, and a regulator that is asked for is not refused. -/
def Calls.Handled (calls : Calls) : Prop :=
  calls.allocChrdevRegion = none
  ∧ (calls.classCreate = none ∧ calls.deviceCreate = none → calls.devmRegulatorRegister = none)

/-- A refused regulator ends the attempt with an error and with the device still there. -/
theorem dummyRegulator_refused (c1 : KernelCall) (error : Errno)
    : ¬ dummyRegulator.Keeps Calls.AllSucceed ⟨c1, none, none, some error⟩ := by
  rintro ⟨_, _, released⟩
  have negative := KernelCall.ret_some_neg error
  have empty := released negative.ne
  have held : Resource.device ∈ (dummyRegulator.registered ⟨c1, none, none, some error⟩).held := by
    cases c1 <;> exact Finset.mem_insert_self _ _
  rw [empty] at held
  exact absurd held (Finset.notMem_empty _)

/-- Without a region an attempt breaks the contract in every continuation: it releases the
region, it returns zero, or it keeps the class.
-/
theorem dummyRegulator_regionRefused (error : Errno) (c2 c3 c4 : KernelCall)
    : ¬ dummyRegulator.Keeps Calls.AllSucceed ⟨some error, c2, c3, c4⟩ := by
  rintro ⟨returns, faultless, released⟩
  rcases c2 with _ | _
  · rcases c3 with _ | _
    · rcases c4 with _ | refusal
      · exact Option.some_ne_none error (returns.mp rfl).1
      · exact dummyRegulator_refused _ refusal ⟨returns, faultless, released⟩
    · exact List.cons_ne_nil _ _ faultless
  · exact List.cons_ne_nil _ _ faultless

/-- An attempt keeps the contract exactly when it is handled. -/
theorem dummyRegulator_keeps_iff (calls : Calls)
    : calls.Handled ↔ dummyRegulator.Keeps Calls.AllSucceed calls := by
  obtain ⟨c1, c2, c3, c4⟩ := calls
  rcases c1 with _ | error
  · rcases c2 with _ | error
    · rcases c3 with _ | error
      · rcases c4 with _ | error
        · refine iff_of_true ⟨rfl, fun _ => rfl⟩ ?_
          exact keeps_of_zero ⟨rfl, rfl, rfl, rfl⟩ rfl rfl
        · refine iff_of_false (fun handled => Option.some_ne_none error (handled.2 ⟨rfl, rfl⟩)) ?_
          exact dummyRegulator_refused none error
      · refine iff_of_true ⟨rfl, fun asked => absurd asked.2 (Option.some_ne_none error)⟩ ?_
        refine keeps_of_settled ?_ neg_enodev_ne ⟨rfl, rfl⟩
        exact fun all => Option.some_ne_none error all.2.2.1
    · refine iff_of_true ⟨rfl, fun asked => absurd asked.1 (Option.some_ne_none error)⟩ ?_
      refine keeps_of_settled ?_ neg_enodev_ne ⟨rfl, rfl⟩
      exact fun all => Option.some_ne_none error all.2.1
  · refine iff_of_false (fun handled => Option.some_ne_none error handled.1) ?_
    exact dummyRegulator_regionRefused error c2 c3 c4

theorem dummyRegulator_unloaded {calls : Calls} (all : calls.AllSucceed)
    : Settled (dummyRegulator.unloaded calls) := by
  obtain ⟨c1, c2, c3, c4⟩ := calls
  obtain ⟨rfl, rfl, rfl, rfl⟩ := all
  exact ⟨rfl, rfl⟩

/-- Over every run the module keeps its contract exactly when every attempt is handled. -/
theorem dummyRegulator_contract_iff {history : List (Label Calls)}
    {s : State Calls (Resource RegulatorResource)} (run : LifeRun dummyRegulator history s)
    : Contract dummyRegulator Calls.AllSucceed history
      ↔ ∀ calls, .load calls ∈ history → calls.Handled :=
  contract_iff dummyRegulator_keeps_iff (fun _ => dummyRegulator_unloaded) run

end DummyDrivers.Chrdev.Regulator
