import DummyDrivers.Library.KernelCall
import DummyDrivers.Library.ModuleLife

/-! The scaffold that the drivers share: a number region, a class and a device, the labels
that give them back in the opposite order, and the managed resources that go with the
device.
-/

namespace DummyDrivers.Chrdev

open DummyDrivers.Ledger
open DummyDrivers.ModuleLife

variable {Own Calls : Type}

/-- What every driver acquires, and what a driver acquires for its own subsystem. -/
inductive Resource (Own : Type) where
  | chrdevRegion
  | deviceClass
  | device
  | own (resource : Own)
  deriving DecidableEq, Repr

/-- What a driver has taken and returned, with the managed resources of its device, the
latest first.
-/
structure World (Own : Type) where
  devres : List Own
  ledger : List (Entry (Resource Own))

def World.zero : World Own := { devres := [], ledger := [] }

def World.acquire (w : World Own) (resource : Resource Own) : World Own :=
  { w with ledger := w.ledger ++ [.acquire resource] }

def World.release (w : World Own) (resource : Resource Own) : World Own :=
  { w with ledger := w.ledger ++ [.release resource] }

/-- An acquisition that the device gives back when it is destroyed. -/
def World.manage (w : World Own) (resource : Own) : World Own :=
  {
    devres := resource :: w.devres
    ledger := w.ledger ++ [.acquire (.own resource)]
  }

/-- `device_destroy`, with the managed resources of the device. -/
def World.deviceDestroy (w : World Own) : World Own :=
  {
    devres := []
    ledger := w.ledger ++ .release .device :: w.devres.map fun own => .release (.own own)
  }

/-- The three labels of the drivers, each falling through to the next. -/
def freeDevNum (ret : Int) (w : World Own) : Int × World Own := (ret, w.release .chrdevRegion)

def freeClass (ret : Int) (w : World Own) : Int × World Own :=
  freeDevNum ret (w.release .deviceClass)

def freeDev (ret : Int) (w : World Own) : Int × World Own := freeClass ret w.deviceDestroy

/-- The unload path of a driver that has nothing else to give back. -/
def unregister (w : World Own) : World Own :=
  (w.deviceDestroy.release .deviceClass).release .chrdevRegion

/-- A driver as a module whose static struct is zeroed at each load. -/
def driverModule (register : Calls → World Own → Int × World Own)
    (unregister : World Own → World Own) : LoadableModule Calls (Resource Own) :=
  {
    register := fun calls =>
      let (ret, w) := register calls .zero
      (ret, w.ledger)
    unregister := fun calls => (unregister { (register calls .zero).2 with ledger := [] }).ledger
  }

end DummyDrivers.Chrdev
