import DummyDrivers.Chrdev.Firmware
import DummyDrivers.Chrdev.Gpio
import DummyDrivers.Chrdev.Regulator
import DummyDrivers.I2c.Lifecycle

/-! The four copies of the scaffold side by side: for each of them, which load attempts keep
the contract of a registration.
-/

namespace DummyDrivers.Chrdev

open DummyDrivers.I2c (dummyI2c RegisterCalls)
open DummyDrivers.ModuleLife
open Firmware (dummyFirmware)
open Gpio (dummyGpio)
open Regulator (dummyRegulator)

/-- In every run of each module, registration returns zero exactly when its calls succeed,
an attempt that is over holds nothing and no release is out of place, exactly when no load
attempt reaches the module's own slip: a refused adapter that is unregistered, a refused
chip that is not noticed, a refused region that is not noticed, a refused regulator that
skips the labels.
-/
theorem scaffold_lifecycles_iff (msecsToJiffies : Nat → Nat)
    : (∀ history s,
          LifeRun (dummyI2c msecsToJiffies) history s
          → (Contract (dummyI2c msecsToJiffies) RegisterCalls.AllSucceed history
            ↔ ∀ calls, .load calls ∈ history → ¬ calls.AdapterRefused))
      ∧ (∀ history s,
          LifeRun dummyGpio history s
          → (Contract dummyGpio Gpio.Calls.AllSucceed history
            ↔ ∀ calls, .load calls ∈ history → ¬ calls.ChipRefused))
      ∧ (∀ history s,
          LifeRun dummyRegulator history s
          → (Contract dummyRegulator Regulator.Calls.AllSucceed history
            ↔ ∀ calls, .load calls ∈ history → calls.Handled))
      ∧ ∀ history s,
          LifeRun dummyFirmware history s
          → (Contract dummyFirmware Firmware.Calls.AllSucceed history
            ↔ ∀ calls, .load calls ∈ history → calls.allocChrdevRegion = none) :=
  ⟨
    fun _ _ run => I2c.dummyI2c_contract_iff msecsToJiffies run,
    fun _ _ run => Gpio.dummyGpio_contract_iff run,
    fun _ _ run => Regulator.dummyRegulator_contract_iff run,
    fun _ _ run => Firmware.dummyFirmware_contract_iff run
  ⟩

/-- A call that fails for want of memory. -/
def refused : KernelCall := some { code := 12, positive := enomem_code_pos }

/-- Witness: the adapter is added after a class was refused; the other three modules are
loaded and unloaded.
-/
theorem scaffold_lifecycles_retry
    : Contract (dummyI2c id) RegisterCalls.AllSucceed
        [.load ⟨none, refused, none, none⟩, .load ⟨none, none, none, none⟩]
      ∧ Contract dummyGpio Gpio.Calls.AllSucceed
        [.load ⟨none, none, none, none⟩, .unload ⟨none, none, none, none⟩]
      ∧ Contract dummyRegulator Regulator.Calls.AllSucceed
        [.load ⟨none, none, none, none⟩, .unload ⟨none, none, none, none⟩]
      ∧ Contract dummyFirmware Firmware.Calls.AllSucceed
        [.load ⟨none, none, none, none⟩, .unload ⟨none, none, none, none⟩] := by
  obtain ⟨i2c, gpio, regulator, firmware⟩ := scaffold_lifecycles_iff id
  refine ⟨?_, ?_, ?_, ?_⟩
  · have failed : LifeRun (dummyI2c id) [.load ⟨none, refused, none, none⟩] _ :=
      .snoc .nil (.loadFail _ neg_enodev_ne)
    refine (i2c _ _ (.snoc failed (.loadOk ⟨none, none, none, none⟩ rfl))).mpr ?_
    intro calls member adapter
    rcases List.mem_pair.mp member with same | same
    · obtain rfl := Label.load.inj same
      exact nomatch adapter.2.1
    · obtain rfl := Label.load.inj same
      exact adapter.2.2.2 rfl
  · have run : LifeRun dummyGpio [.load ⟨none, none, none, none⟩, .unload _] _ :=
      .snoc (.snoc .nil (.loadOk _ rfl)) (.unload ⟨none, none, none, none⟩)
    refine (gpio _ _ run).mpr ?_
    intro calls member chip
    rcases List.mem_pair.mp member with same | same
    · obtain rfl := Label.load.inj same
      exact chip.2.2.2 rfl
    · exact nomatch same
  · have run : LifeRun dummyRegulator [.load ⟨none, none, none, none⟩, .unload _] _ :=
      .snoc (.snoc .nil (.loadOk _ rfl)) (.unload ⟨none, none, none, none⟩)
    refine (regulator _ _ run).mpr ?_
    intro calls member
    rcases List.mem_pair.mp member with same | same
    · obtain rfl := Label.load.inj same
      exact ⟨rfl, fun _ => rfl⟩
    · exact nomatch same
  · have run : LifeRun dummyFirmware [.load ⟨none, none, none, none⟩, .unload _] _ :=
      .snoc (.snoc .nil (.loadOk _ rfl)) (.unload ⟨none, none, none, none⟩)
    refine (firmware _ _ run).mpr ?_
    intro calls member
    rcases List.mem_pair.mp member with same | same
    · obtain rfl := Label.load.inj same
      rfl
    · exact nomatch same

/-- Each of the four modules breaks the contract in its first load attempt: an adapter, a
chip, a regulator and a region are refused.
-/
theorem scaffold_contracts_broken
    : (¬ ∀ history s,
          LifeRun (dummyI2c id) history s
          → Contract (dummyI2c id) RegisterCalls.AllSucceed history)
      ∧ (¬ ∀ history s,
          LifeRun dummyGpio history s
          → Contract dummyGpio Gpio.Calls.AllSucceed history)
      ∧ (¬ ∀ history s,
          LifeRun dummyRegulator history s
          → Contract dummyRegulator Regulator.Calls.AllSucceed history)
      ∧ ¬ ∀ history s,
          LifeRun dummyFirmware history s
          → Contract dummyFirmware Firmware.Calls.AllSucceed history := by
  refine ⟨?_, ?_, ?_, ?_⟩
  · intro contract
    have run : LifeRun (dummyI2c id) ([] ++ [.load ⟨none, none, none, refused⟩]) _ :=
      .snoc .nil (.loadFail _ (by decide))
    exact nomatch (Contract.last run (contract _ _ run)).2.1
  · intro contract
    have run : LifeRun dummyGpio ([] ++ [.load ⟨none, none, none, refused⟩]) _ :=
      .snoc .nil (.loadOk _ rfl)
    exact nomatch ((Contract.last run (contract _ _ run)).1.mp rfl).2.2.2
  · intro contract
    have run : LifeRun dummyRegulator ([] ++ [.load ⟨none, none, none, refused⟩]) _ :=
      .snoc .nil (.loadFail _ (by decide))
    have empty := (Contract.last run (contract _ _ run)).2.2 (by decide)
    exact absurd empty (by decide)
  · intro contract
    have run : LifeRun dummyFirmware ([] ++ [.load ⟨refused, none, none, none⟩]) _ :=
      .snoc .nil (.loadOk _ rfl)
    exact nomatch ((Contract.last run (contract _ _ run)).1.mp rfl).1

end DummyDrivers.Chrdev
