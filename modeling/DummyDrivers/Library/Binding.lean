import DummyDrivers.Library.Transition
import Mathlib.Data.Set.Insert

/-! The binding of devices to drivers on a bus. The core that binds them is given: what is
relied on are the laws below, that it probes only pairs that the bus matches, one driver of a
device at a time, and that a driver is gone only when no device has it.
-/

namespace DummyDrivers.Binding

open DummyDrivers.Transition

variable {State Device Driver Outcome : Type*}

/-- What a bus says: the pairs that fit, and the outcomes of a probe after which the device
has the driver.
-/
structure Rules (Device Driver Outcome : Type*) where
  fits : Device → Driver → Bool
  binds : Device → Driver → Outcome → Bool

/-- What a core does with the drivers of a bus, and whatever else it does. -/
inductive Event (Device Driver Outcome : Type*) where
  | addDriver (driver : Driver)
  | probe (device : Device) (driver : Driver) (outcome : Outcome)
  | release (device : Device) (driver : Driver)
  | dropDriver (driver : Driver)
  | other

/-- The registered drivers after an event. -/
def Event.register (drivers : Set Driver) : Event Device Driver Outcome → Set Driver
  | .addDriver driver => insert driver drivers
  | .dropDriver driver => drivers \ {driver}
  | _ => drivers

/-- The driver of each device after an event. -/
def Event.assign [DecidableEq Device] (rules : Rules Device Driver Outcome)
    (driver : Device → Option Driver)
    : Event Device Driver Outcome → Device → Option Driver
  | .probe device chosen outcome =>
      if rules.binds device chosen outcome then
        Function.update driver device (some chosen)
      else
        driver
  | .release device _ => Function.update driver device none
  | _ => driver

/-- A core: where it starts, its steps, the drivers that are registered with it, and the driver
of each device.
-/
structure Core (State Device Driver Outcome : Type*) where
  start : State
  step : State → Event Device Driver Outcome → State → Prop
  drivers : State → Set Driver
  driver : State → Device → Option Driver

/-- What is relied on of a core. -/
structure Core.Lawful [DecidableEq Device] (core : Core State Device Driver Outcome)
    (rules : Rules Device Driver Outcome)
    : Prop where
  empty : core.drivers core.start = ∅
  unbound (device : Device) : core.driver core.start device = none
  registers {s t : State} {event} (next : core.step s event t)
    : core.drivers t = event.register (core.drivers s)
  assigns {s t : State} {event} (next : core.step s event t)
    : core.driver t = event.assign rules (core.driver s)
  probes {s t : State} {device : Device} {driver : Driver} {outcome : Outcome}
    (next : core.step s (.probe device driver outcome) t)
    : driver ∈ core.drivers s ∧ rules.fits device driver ∧ core.driver s device = none
  releases {s t : State} {device : Device} {driver : Driver}
    (next : core.step s (.release device driver) t)
    : core.driver s device = some driver
  drops {s t : State} {driver : Driver} (next : core.step s (.dropDriver driver) t)
    (device : Device)
    : core.driver s device ≠ some driver

variable [DecidableEq Device] {core : Core State Device Driver Outcome}
  {rules : Rules Device Driver Outcome} {history : List (Event Device Driver Outcome)}
  {s t : State}

/-- What a core may do next. -/
def Event.Allowed (rules : Rules Device Driver Outcome) (drivers : Set Driver)
    (driver : Device → Option Driver)
    : Event Device Driver Outcome → Prop
  | .probe device chosen _ =>
      chosen ∈ drivers ∧ rules.fits device chosen ∧ driver device = none
  | .release device chosen => driver device = some chosen
  | .dropDriver gone => ∀ device, driver device ≠ some gone
  | _ => True

/-- A core that does whatever the laws allow. -/
def Core.plain (rules : Rules Device Driver Outcome)
    : Core (Set Driver × (Device → Option Driver)) Device Driver Outcome where
  start := (∅, fun _ => none)
  step s event t :=
    event.Allowed rules s.1 s.2 ∧ t = (event.register s.1, event.assign rules s.2)
  drivers := Prod.fst
  driver := Prod.snd

theorem Core.plain_lawful (rules : Rules Device Driver Outcome)
    : (Core.plain rules).Lawful rules where
  empty := rfl
  unbound _ := rfl
  registers next := congrArg Prod.fst next.2
  assigns next := congrArg Prod.snd next.2
  probes next := next.1
  releases next := next.1
  drops next := next.1

theorem Core.plain_snoc {history : List (Event Device Driver Outcome)}
    {s : Set Driver × (Device → Option Driver)}
    (run : Run (Core.plain rules).step (Core.plain rules).start history s)
    (event : Event Device Driver Outcome) (allowed : event.Allowed rules s.1 s.2)
    : Run (Core.plain rules).step (Core.plain rules).start (history ++ [event])
        (event.register s.1, event.assign rules s.2) :=
  run.snoc ⟨allowed, rfl⟩

-----------------------------------------------------------------------------------------
-- Which drivers are registered and bound
-----------------------------------------------------------------------------------------

/-- The drivers that are registered after some events. -/
def driversAfter (history : List (Event Device Driver Outcome)) : Set Driver :=
  history.foldl Event.register ∅

/-- The history decides which drivers are registered, by run induction. -/
theorem drivers_of_run (lawful : core.Lawful rules) (run : Run core.step core.start history s)
    : core.drivers s = driversAfter history := by
  refine run.invariant (fun history s => core.drivers s = driversAfter history) lawful.empty ?_
  intro past before event after _ known next
  rw [lawful.registers next, known, driversAfter, driversAfter, List.foldl_append]
  rfl

/-- A device has only drivers that are registered and fit it. -/
def Bound (core : Core State Device Driver Outcome) (rules : Rules Device Driver Outcome)
    (s : State)
    : Prop :=
  ∀ device driver,
    core.driver s device = some driver → driver ∈ core.drivers s ∧ rules.fits device driver

/-- One step keeps every binding between a registered driver and a device that it fits. -/
theorem Core.Lawful.bound (lawful : core.Lawful rules) {event} (next : core.step s event t)
    (sound : Bound core rules s)
    : Bound core rules t := by
  intro device driver holds
  rw [lawful.assigns next] at holds
  rw [lawful.registers next]
  cases event with
  | addDriver added =>
      obtain ⟨registered, fits⟩ := sound device driver holds
      exact ⟨Set.mem_insert_of_mem _ registered, fits⟩
  | probe probed chosen outcome =>
      rw [Event.assign] at holds
      split at holds
      · by_cases same : device = probed
        · subst same
          rw [Function.update_self, Option.some.injEq] at holds
          subst holds
          obtain ⟨registered, fits, _⟩ := lawful.probes next
          exact ⟨registered, fits⟩
        · rw [Function.update_of_ne same] at holds
          exact sound device driver holds
      · exact sound device driver holds
  | release released chosen =>
      rw [Event.assign] at holds
      by_cases same : device = released
      · subst same
        rw [Function.update_self] at holds
        contradiction
      · rw [Function.update_of_ne same] at holds
        exact sound device driver holds
  | dropDriver gone =>
      obtain ⟨registered, fits⟩ := sound device driver holds
      refine ⟨⟨registered, ?_⟩, fits⟩
      rintro rfl
      exact lawful.drops next device holds
  | other => exact sound device driver holds

/-- In every run a device has only drivers that are registered and fit it, by run induction. -/
theorem bound_of_run (lawful : core.Lawful rules) (run : Run core.step core.start history s)
    : Bound core rules s := by
  refine run.invariant (fun _ s => Bound core rules s) ?_ ?_
  · intro device driver holds
    rw [lawful.unbound] at holds
    contradiction
  · intro _ before event after _ sound next
    exact lawful.bound next sound

-----------------------------------------------------------------------------------------
-- One driver at a time
-----------------------------------------------------------------------------------------

/-- What a device sees of a driver. -/
inductive Visit (Driver : Type*) where
  | refused (driver : Driver)
  | bound (driver : Driver)
  | released (driver : Driver)
  deriving DecidableEq, Repr

def Visit.driver : Visit Driver → Driver
  | .refused driver | .bound driver | .released driver => driver

/-- A device without a driver may get one, and has it until it is released. -/
inductive Tenancy : Option Driver → Visit Driver → Option Driver → Prop where
  | refused (driver : Driver) : Tenancy none (.refused driver) none
  | bound (driver : Driver) : Tenancy none (.bound driver) (some driver)
  | released (driver : Driver) : Tenancy (some driver) (.released driver) none

/-- What a device sees of an event. -/
def Event.visits (rules : Rules Device Driver Outcome) (device : Device)
    : Event Device Driver Outcome → List (Visit Driver)
  | .probe probed driver outcome =>
      if probed = device then
        [if rules.binds probed driver outcome then .bound driver else .refused driver]
      else
        []
  | .release released driver => if released = device then [.released driver] else []
  | _ => []

/-- One step is at most one visit of each device. -/
theorem Core.Lawful.visits (lawful : core.Lawful rules) {event} (next : core.step s event t)
    (device : Device)
    : Run Tenancy (core.driver s device) (event.visits rules device) (core.driver t device) := by
  rw [lawful.assigns next]
  cases event with
  | addDriver | dropDriver | other => exact .nil
  | probe probed driver outcome =>
      obtain ⟨_, _, free⟩ := lawful.probes next
      by_cases same : probed = device
      · subst same
        by_cases binds : rules.binds probed driver outcome
        · simpa [Event.visits, Event.assign, binds, free]
            using Run.single (Tenancy.bound driver)
        · simpa [Event.visits, Event.assign, binds, free]
            using Run.single (Tenancy.refused driver)
      · by_cases binds : rules.binds probed driver outcome
        · simpa [Event.visits, Event.assign, binds, same, Ne.symm same] using Run.nil
        · simpa [Event.visits, Event.assign, binds, same] using Run.nil
  | release released driver =>
      have bound := lawful.releases next
      by_cases same : released = device
      · subst same
        simpa [Event.visits, Event.assign, bound] using Run.single (Tenancy.released driver)
      · simpa [Event.visits, Event.assign, same, Ne.symm same] using Run.nil

/-- In every run each device has one driver at a time. -/
theorem tenancy_of_run (lawful : core.Lawful rules) (run : Run core.step core.start history s)
    (device : Device)
    : Run Tenancy none (history.flatMap (Event.visits rules device)) (core.driver s device) := by
  rw [← lawful.unbound device]
  exact run.simulate (fun s => core.driver s device) (Event.visits rules device)
    fun _ next => lawful.visits next device

/-- One visit, seen for some of the drivers only. -/
theorem Tenancy.filter (keep : Driver → Bool) {before visit after}
    (next : Tenancy before visit after)
    : Run Tenancy (before.filter keep) ([visit].filter fun visit => keep visit.driver)
        (after.filter keep) := by
  cases next with
  | refused driver =>
      by_cases wanted : keep driver
      · simpa [Visit.driver, wanted] using Run.single (Tenancy.refused driver)
      · simpa [Visit.driver, wanted] using Run.nil
  | bound driver =>
      by_cases wanted : keep driver
      · simpa [Visit.driver, wanted, Option.filter_some]
          using Run.single (Tenancy.bound driver)
      · simpa [Visit.driver, wanted, Option.filter_some] using Run.nil
  | released driver =>
      by_cases wanted : keep driver
      · simpa [Visit.driver, wanted, Option.filter_some]
          using Run.single (Tenancy.released driver)
      · simpa [Visit.driver, wanted, Option.filter_some] using Run.nil

/-- The visits of some of the drivers are those of one driver at a time too. -/
theorem tenancy_filter (keep : Driver → Bool) {visits : List (Visit Driver)}
    {holder : Option Driver} (run : Run Tenancy none visits holder)
    : Run Tenancy none (visits.filter fun visit => keep visit.driver) (holder.filter keep) := by
  refine run.invariant
    (fun visits holder =>
      Run Tenancy none (visits.filter fun visit => keep visit.driver) (holder.filter keep))
    .nil ?_
  intro past before visit after _ kept next
  rw [List.filter_append]
  exact kept.append (next.filter keep)

/-- A device was bound to a driver once more than it was released from it where it has that
driver, and as often otherwise, by run induction.
-/
theorem tenancy_balance [DecidableEq Driver] {visits : List (Visit Driver)}
    {holder : Option Driver} (run : Run Tenancy none visits holder) (driver : Driver)
    : visits.count (.bound driver)
      = visits.count (.released driver) + if holder = some driver then 1 else 0 := by
  refine run.invariant
    (fun visits holder => visits.count (.bound driver)
      = visits.count (.released driver) + if holder = some driver then 1 else 0)
    rfl ?_
  intro past before visit after _ balanced next
  rw [List.count_append, List.count_append, balanced]
  cases next with
  | refused => simp
  | bound chosen => by_cases same : chosen = driver <;> simp [same]
  | released chosen => by_cases same : chosen = driver <;> simp [same]

end DummyDrivers.Binding
