import DummyDrivers.Bus.Match
import DummyDrivers.Library.Binding

/-! The dummy bus at work. Its drivers are registered and removed in any order, by whatever
core follows the laws of one, and the bus hands the probes and the removals on to the drivers.
-/

namespace DummyDrivers.Bus

open DummyDrivers.Binding
open DummyDrivers.Loops
open DummyDrivers.Pointers
open DummyDrivers.Transition

/-- `struct dummy_device`, with the name of its `struct device`. -/
structure DummyDevice where
  name : List UInt8
  ended : 0 ∉ name

/-- `struct dummy_driver`: whether it has a probe and a remove, and its table. -/
structure DummyDriver where
  probe : Bool
  remove : Bool
  idTable : Option IdTable

/-- The objects on a bus, by the addresses of the `struct device` and of the
`struct device_driver` inside them.
-/
structure Objects (Device Driver : Type*) where
  toDummyDevice : Device → DummyDevice
  toDummyDriver : Driver → DummyDriver

/-- A call into a driver, a probe with what it returns. -/
inductive Callback (Device Driver : Type*) where
  | probe (dev : Device) (drv : Driver) (ret : Int)
  | remove (dev : Device) (drv : Driver)
  deriving DecidableEq, Repr

variable {State Device Driver : Type*}

def Callback.dev : Callback Device Driver → Device
  | .probe dev _ _ | .remove dev _ => dev

def Callback.drv : Callback Device Driver → Driver
  | .probe _ drv _ | .remove _ drv => drv

namespace Objects

variable (objects : Objects Device Driver)

/-- `dummy_bus_match` says that the device and the driver belong together. -/
def fits (dev : Device) (drv : Driver) : Bool :=
  match matchTable (objects.toDummyDevice dev).name (objects.toDummyDriver drv).idTable with
  | .ok run => run.ret ≠ 0
  | .error _ => false

/-- `dummy_bus_probe`, with the call it makes. A probe of the driver returns `ret`. -/
def dummyBusProbe (dev : Device) (drv : Driver) (ret : Int)
    : Int × List (Callback Device Driver) :=
  if (objects.toDummyDriver drv).probe then (ret, [.probe dev drv ret]) else (0, [])

/-- `dummy_bus_remove`, as the call it makes. -/
def dummyBusRemove (dev : Device) (drv : Driver) : List (Callback Device Driver) :=
  if (objects.toDummyDriver drv).remove then [.remove dev drv] else []

/-- `dummy_bus_type` for the driver core, which has matching pairs probed and binds a device
when the probe of the bus returns zero.
-/
def dummyBusType : Rules Device Driver Int where
  fits := objects.fits
  binds dev drv ret := (objects.dummyBusProbe dev drv ret).1 = 0

/-- The calls into the drivers that come of an event on the bus. -/
def calls : Event Device Driver Int → List (Callback Device Driver)
  | .probe dev drv ret => (objects.dummyBusProbe dev drv ret).2
  | .release dev drv => objects.dummyBusRemove dev drv
  | _ => []

/-- A table of the driver lists the name of the device. -/
def Lists (drv : Driver) (dev : Device) : Prop :=
  ∃ id ∈ entriesOf (objects.toDummyDriver drv).idTable,
    id.string = (objects.toDummyDevice dev).name

/-- A driver that has both a probe and a remove. -/
def complete (drv : Driver) : Bool :=
  (objects.toDummyDriver drv).probe && (objects.toDummyDriver drv).remove

end Objects

/-- What a device sees of a call. -/
def Callback.visits [DecidableEq Device] (device : Device)
    : Callback Device Driver → List (Visit Driver)
  | .probe dev drv ret =>
      if dev = device then [if ret = 0 then .bound drv else .refused drv] else []
  | .remove dev drv => if dev = device then [.released drv] else []

variable {objects : Objects Device Driver}

/-- Where no name of the table runs over its entry, the match is by the listed names. -/
theorem fits_iff {dev : Device} {drv : Driver}
    (bounded
      : NoneRunsOver (entriesOf (objects.toDummyDriver drv).idTable)
          (objects.toDummyDevice dev).name)
    : objects.fits dev drv ↔ objects.Lists drv dev := by
  obtain ⟨run, ran, right⟩ := matchTable_right (objects.toDummyDevice dev).ended bounded
  have answer := right.answer
  rw [Objects.fits, ran, Objects.Lists, decide_eq_true_eq, answer]
  split
  case isTrue listed => simp [listed]
  case isFalse unlisted => simp [unlisted]

-----------------------------------------------------------------------------------------
-- The calls into the drivers
-----------------------------------------------------------------------------------------

variable [DecidableEq Device] {core : Core State Device Driver Int}
  {history : List (Event Device Driver Int)} {s t : State}

/-- A driver with both callbacks sees everything that happens between it and a device. -/
theorem calls_visits (event : Event Device Driver Int) (device : Device)
    : ((objects.calls event).flatMap (Callback.visits device)).filter
        (fun visit => objects.complete visit.driver)
      = (event.visits objects.dummyBusType device).filter
          fun visit => objects.complete visit.driver := by
  cases event with
  | addDriver | dropDriver | other => rfl
  | probe dev drv ret =>
      by_cases probes : (objects.toDummyDriver drv).probe
      · simp [Objects.calls, Objects.dummyBusProbe, Objects.dummyBusType, Event.visits,
          Callback.visits, probes]
      · by_cases same : dev = device <;>
          simp [Objects.calls, Objects.dummyBusProbe, Objects.dummyBusType, Event.visits,
            Objects.complete, Visit.driver, probes, same]
  | release dev drv =>
      by_cases removes : (objects.toDummyDriver drv).remove
      · simp [Objects.calls, Objects.dummyBusRemove, Event.visits, Callback.visits, removes]
      · by_cases same : dev = device <;>
          simp [Objects.calls, Objects.dummyBusRemove, Event.visits, Objects.complete,
            Visit.driver, removes, same]

/-- A call concerns a registered driver and a device that matches. -/
theorem calls_bound (lawful : core.Lawful objects.dummyBusType)
    (sound : Bound core objects.dummyBusType s) {event} (next : core.step s event t)
    {callback : Callback Device Driver} (called : callback ∈ objects.calls event)
    : callback.drv ∈ core.drivers s ∧ objects.fits callback.dev callback.drv := by
  cases event with
  | addDriver | dropDriver | other => exact absurd called List.not_mem_nil
  | probe dev drv ret =>
      rw [Objects.calls, Objects.dummyBusProbe] at called
      split at called
      · obtain rfl := List.mem_singleton.mp called
        obtain ⟨registered, fits, _⟩ := lawful.probes next
        exact ⟨registered, fits⟩
      · exact absurd called List.not_mem_nil
  | release dev drv =>
      rw [Objects.calls, Objects.dummyBusRemove] at called
      split at called
      · obtain rfl := List.mem_singleton.mp called
        exact sound dev drv (lawful.releases next)
      · exact absurd called List.not_mem_nil

-----------------------------------------------------------------------------------------
-- What the drivers see
-----------------------------------------------------------------------------------------

/-- What the drivers with both callbacks see of a device. -/
def Objects.visits (objects : Objects Device Driver) (device : Device)
    (history : List (Event Device Driver Int))
    : List (Visit Driver) :=
  ((history.flatMap objects.calls).flatMap (Callback.visits device)).filter
    fun visit => objects.complete visit.driver

/-- What the drivers see of the bus: they are called only while they are registered, and for
matching devices, which their tables list unless a name runs over its entry. The calls about a
device come from one driver at a time, and when a driver is gone it has had each device that it
took removed.
-/
structure CallsInTurn [DecidableEq Driver] (objects : Objects Device Driver)
    (history : List (Event Device Driver Int)) (holder : Device → Option Driver)
    : Prop where
  registered
    : ∀ earlier event later,
        history = earlier ++ event :: later
        → ∀ callback ∈ objects.calls event, callback.drv ∈ driversAfter earlier
  listed
    : ∀ callback ∈ history.flatMap objects.calls,
        NoneRunsOver (entriesOf (objects.toDummyDriver callback.drv).idTable)
          (objects.toDummyDevice callback.dev).name
        → objects.Lists callback.drv callback.dev
  turns
    : ∀ device,
        Run Tenancy none (objects.visits device history)
          ((holder device).filter objects.complete)
  balanced
    : ∀ drv ∉ driversAfter history,
        ∀ device,
          (objects.visits device history).count (.bound drv)
          = (objects.visits device history).count (.released drv)

theorem visits_run (lawful : core.Lawful objects.dummyBusType)
    (run : Run core.step core.start history s) (device : Device)
    : Run Tenancy none (objects.visits device history)
        ((core.driver s device).filter objects.complete) := by
  have visits := tenancy_filter objects.complete (tenancy_of_run lawful run device)
  rw [List.filter_flatMap] at visits
  rw [Objects.visits, List.flatMap_assoc, List.filter_flatMap]
  simpa only [calls_visits] using visits

/-- In every run, over any core that follows the laws, the drivers are called in turn. -/
theorem dummyBus_calls_in_turn [DecidableEq Driver] (lawful : core.Lawful objects.dummyBusType)
    (run : Run core.step core.start history s)
    : CallsInTurn objects history (core.driver s) := by
  have called_bound {earlier event later}
      (split : history = earlier ++ event :: later) {callback}
      (called : callback ∈ objects.calls event)
      : callback.drv ∈ driversAfter earlier ∧ objects.fits callback.dev callback.drv := by
    subst split
    obtain ⟨before, after, front, next⟩ := run.step_at
    rw [← drivers_of_run lawful front]
    exact calls_bound lawful (bound_of_run lawful front) next called
  constructor
  case registered =>
    intro earlier event later split callback called
    exact (called_bound split called).1
  case listed =>
    intro callback member bounded
    obtain ⟨event, inside, called⟩ := List.mem_flatMap.mp member
    obtain ⟨earlier, later, split⟩ := List.append_of_mem inside
    exact (fits_iff bounded).mp (called_bound split called).2
  case turns => exact visits_run lawful run
  case balanced =>
    intro drv gone device
    rw [tenancy_balance (visits_run lawful run device) drv, if_neg, Nat.add_zero]
    intro holds
    obtain ⟨holds, _⟩ := Option.filter_eq_some_iff.mp holds
    refine gone ?_
    rw [← drivers_of_run lawful run]
    exact (bound_of_run lawful run device drv holds).1

-----------------------------------------------------------------------------------------
-- The device and the driver of the repository
-----------------------------------------------------------------------------------------

/-- The device of the repository, which `dummy_ids` lists by this name. -/
def deviceName : List UInt8 := "dummy-device".toList.map fun letter => letter.toNat.toUInt8

def ddev : DummyDevice := { name := deviceName, ended := by decide }

/-- `dummy_driver` with `dummy_ids`. -/
def dummyDriver : DummyDriver :=
  { probe := true, remove := true, idTable := some (namesTable [deviceName] 0 (by decide)) }

/-- The device of the repository and two drivers like its own. -/
def dummyObjects : Objects Unit Bool :=
  { toDummyDevice := fun _ => ddev, toDummyDriver := fun _ => dummyDriver }

theorem dummyObjects_fits (drv : Bool) : dummyObjects.fits () drv := by
  cases drv <;> decide

/-- Witness: one driver refuses the device, the other takes it, loses it and is removed, and
the first takes it then.
-/
theorem dummyBus_calls_in_turn_two
    : let core := Core.plain dummyObjects.dummyBusType
      let history : List (Event Unit Bool Int) :=
        [
          .addDriver false,
          .addDriver true,
          .probe () false (-19),
          .probe () true 0,
          .release () true,
          .dropDriver true,
          .probe () false 0
        ]
      ∃ s,
        Run core.step core.start history s
        ∧ CallsInTurn dummyObjects history (core.driver s)
        ∧ dummyObjects.visits () history
          = [.refused false, .bound true, .released true, .bound false] := by
  intro core history
  have start : Run core.step core.start [] core.start := .nil
  have added := Core.plain_snoc start (.addDriver false) trivial
  have both := Core.plain_snoc added (.addDriver true) trivial
  have refused := Core.plain_snoc both (.probe () false (-19))
    ⟨by simp [Event.register], dummyObjects_fits false, rfl⟩
  have bound := Core.plain_snoc refused (.probe () true 0)
    ⟨by simp [Event.register], dummyObjects_fits true, rfl⟩
  have released := Core.plain_snoc bound (.release () true) rfl
  have dropped := Core.plain_snoc released (.dropDriver true)
    fun _ => (Option.some_ne_none true).symm
  have run := Core.plain_snoc dropped (.probe () false 0)
    ⟨by simp [Event.register], dummyObjects_fits false, rfl⟩
  exact ⟨_, run, dummyBus_calls_in_turn (Core.plain_lawful _) run, by decide⟩

end DummyDrivers.Bus
