import DummyDrivers.Library.Ledger
import DummyDrivers.Library.Transition

/-! Histories of load attempts and unloads of a module whose registration may fail at any
of its calls. Each attempt has an account of its own, since the resources of different
attempts are different objects and a module's static data starts afresh at each load.
-/

namespace DummyDrivers.ModuleLife

open DummyDrivers.Ledger
open DummyDrivers.Transition

variable {Calls Kind : Type*} [DecidableEq Kind]

/-- A module by what its two functions post: `register` with the results of its calls,
and `unregister` after a registration with these results has returned zero.
-/
structure LoadableModule (Calls Kind : Type*) where
  register : Calls → Int × List (Entry Kind)
  unregister : Calls → List (Entry Kind)

/-- The account of an attempt when registration returns. -/
def LoadableModule.registered (m : LoadableModule Calls Kind) (calls : Calls) : Account Kind :=
  Account.empty.posts (m.register calls).2

/-- The account of an attempt after the module has been unloaded again. -/
def LoadableModule.unloaded (m : LoadableModule Calls Kind) (calls : Calls) : Account Kind :=
  (m.registered calls).posts (m.unregister calls)

inductive Label (Calls : Type*) where
  | load (calls : Calls)
  | unload (calls : Calls)

/-- The accounts of the attempts that are over, and the calls of a loaded module. -/
structure State (Calls Kind : Type*) where
  past : List (Account Kind)
  loaded : Option Calls

def State.initial : State Calls Kind := { past := [], loaded := none }

/-- A module stays loaded when its registration returns zero, until it is unloaded. -/
inductive Step (m : LoadableModule Calls Kind)
    : State Calls Kind → Label Calls → State Calls Kind → Prop where
  | loadOk {past} (calls : Calls) (ok : (m.register calls).1 = 0)
    : Step m { past, loaded := none } (.load calls) { past, loaded := some calls }
  | loadFail {past} (calls : Calls) (fails : (m.register calls).1 ≠ 0)
    : Step m { past, loaded := none } (.load calls)
        { past := past ++ [m.registered calls], loaded := none }
  | unload {past} (calls : Calls)
    : Step m { past, loaded := some calls } (.unload calls)
        { past := past ++ [m.unloaded calls], loaded := none }

abbrev LifeRun (m : LoadableModule Calls Kind) (history : List (Label Calls))
    (s : State Calls Kind) : Prop :=
  Run (Step m) State.initial history s

/-- An account that is over well: nothing held and every release fitted. -/
def Settled (account : Account Kind) : Prop := account.held = ∅ ∧ account.faults = []

/-- No account has a fault, and nothing of any attempt is held while no module is loaded. -/
structure Clean (m : LoadableModule Calls Kind) (s : State Calls Kind) : Prop where
  past : ∀ account ∈ s.past, account.faults = []
  current : ∀ calls, s.loaded = some calls → (m.registered calls).faults = []
  released : s.loaded = none → ∀ account ∈ s.past, account.held = ∅

/-- Every state that a history passes through is clean. -/
def AlwaysClean (m : LoadableModule Calls Kind) (history : List (Label Calls)) : Prop :=
  ∀ past s, past <+: history → LifeRun m past s → Clean m s

/-- What a single event must do for its attempt. -/
def LoadableModule.Balanced (m : LoadableModule Calls Kind) : Label Calls → Prop
  | .load calls =>
      (m.registered calls).faults = [] ∧ ((m.register calls).1 ≠ 0 → (m.registered calls).held = ∅)
  | .unload calls => Settled (m.unloaded calls)

theorem AlwaysClean.of_append {m : LoadableModule Calls Kind} {past rest : List (Label Calls)}
    (always : AlwaysClean m (past ++ rest))
    : AlwaysClean m past :=
  fun earlier s shorter run => always earlier s (shorter.trans (List.prefix_append past rest)) run

/-- No account has a fault in any state that a history passes through. -/
def AlwaysFaultless (m : LoadableModule Calls Kind) (history : List (Label Calls)) : Prop :=
  ∀ past s,
    past <+: history
    → LifeRun m past s
    → (∀ account ∈ s.past, account.faults = [])
      ∧ ∀ calls, s.loaded = some calls → (m.registered calls).faults = []

theorem AlwaysClean.faultless {m : LoadableModule Calls Kind} {history : List (Label Calls)}
    (always : AlwaysClean m history)
    : AlwaysFaultless m history :=
  fun past s shorter run => ⟨(always past s shorter run).past, (always past s shorter run).current⟩

/-- A module that a history leaves loaded, or that it unloads, was loaded in it with a
registration that returned zero, by run induction.
-/
theorem LifeRun.loaded {m : LoadableModule Calls Kind} {history : List (Label Calls)}
    {s : State Calls Kind} (run : LifeRun m history s)
    : (∀ calls, s.loaded = some calls → .load calls ∈ history ∧ (m.register calls).1 = 0)
      ∧ ∀ calls, .unload calls ∈ history → .load calls ∈ history ∧ (m.register calls).1 = 0 := by
  refine Run.invariant
    (fun history s =>
      (∀ calls, s.loaded = some calls → .load calls ∈ history ∧ (m.register calls).1 = 0)
      ∧ ∀ calls, .unload calls ∈ history → .load calls ∈ history ∧ (m.register calls).1 = 0)
    run (by simp [State.initial]) ?_
  intro past before label after _ kept next
  obtain ⟨current, earlier⟩ := kept
  have longer {calls : Calls} (loaded : .load calls ∈ past ∧ (m.register calls).1 = 0)
      : .load calls ∈ past ++ [label] ∧ (m.register calls).1 = 0 :=
    ⟨List.mem_append_left _ loaded.1, loaded.2⟩
  cases next with
  | loadOk calls ok =>
      refine ⟨?_, fun other member => longer (earlier other (by simpa using member))⟩
      intro other same
      obtain rfl := Option.some.inj same
      exact ⟨by simp, ok⟩
  | loadFail calls fails =>
      exact ⟨nofun, fun other member => longer (earlier other (by simpa using member))⟩
  | unload calls =>
      refine ⟨nofun, ?_⟩
      intro other member
      rcases List.mem_append.mp member with inside | last
      · exact longer (earlier other inside)
      · obtain rfl := Label.unload.inj (List.mem_singleton.mp last)
        exact longer (current _ rfl)

/-- One step into a clean state does what it must, and the other way round: the accounts
that it adds are settled.
-/
theorem Step.balanced {m : LoadableModule Calls Kind} {s t : State Calls Kind} {label : Label Calls}
    (next : Step m s label t) (clean : Clean m t)
    : m.Balanced label := by
  cases next with
  | loadOk calls ok => exact ⟨clean.current calls rfl, fun fails => absurd ok fails⟩
  | loadFail calls fails =>
      exact ⟨clean.past _ (by simp), fun _ => clean.released rfl _ (by simp)⟩
  | unload calls => exact ⟨clean.released rfl _ (by simp), clean.past _ (by simp)⟩

/-- All accounts of the past are settled and the current one is faultless. -/
def AllSettled (m : LoadableModule Calls Kind) (s : State Calls Kind) : Prop :=
  (∀ account ∈ s.past, Settled account)
  ∧ ∀ calls, s.loaded = some calls → (m.registered calls).faults = []

theorem AllSettled.clean {m : LoadableModule Calls Kind} {s : State Calls Kind}
    (settled : AllSettled m s)
    : Clean m s :=
  {
    past := fun account member => (settled.1 account member).2
    current := settled.2
    released := fun _ account member => (settled.1 account member).1
  }

theorem Step.allSettled {m : LoadableModule Calls Kind} {s t : State Calls Kind}
    {label : Label Calls} (next : Step m s label t) (balanced : m.Balanced label)
    (settled : AllSettled m s)
    : AllSettled m t := by
  cases next with
  | loadOk calls ok =>
      refine ⟨settled.1, ?_⟩
      rintro _ ⟨⟩
      exact balanced.1
  | loadFail calls fails =>
      refine ⟨?_, nofun⟩
      intro account member
      rcases List.mem_append.mp member with earlier | last
      · exact settled.1 account earlier
      · obtain rfl := List.mem_singleton.mp last
        exact ⟨balanced.2 fails, balanced.1⟩
  | unload calls =>
      refine ⟨?_, nofun⟩
      intro account member
      rcases List.mem_append.mp member with earlier | last
      · exact settled.1 account earlier
      · obtain rfl := List.mem_singleton.mp last
        exact balanced

/-- A history passes through clean states only exactly when each of its events does what
it must. Witness: run induction one way, settled accounts as the invariant the other way.
-/
theorem alwaysClean_iff {m : LoadableModule Calls Kind} {history : List (Label Calls)}
    {s : State Calls Kind} (run : LifeRun m history s)
    : AlwaysClean m history ↔ ∀ label ∈ history, m.Balanced label := by
  constructor
  · intro always
    induction run with
    | nil => simp
    | @snoc history before label after earlier next ih =>
        intro other member
        rcases List.mem_append.mp member with inside | last
        · exact ih always.of_append other inside
        · obtain rfl := List.mem_singleton.mp last
          exact next.balanced (always _ _ (List.prefix_refl _) (earlier.snoc next))
  · intro balanced past t shorter reached
    have inside : ∀ label ∈ past, m.Balanced label :=
      fun label member => balanced label (shorter.subset member)
    refine AllSettled.clean ?_
    clear shorter
    induction reached with
    | nil => exact ⟨by simp [State.initial], by simp [State.initial]⟩
    | snoc earlier next ih =>
        refine next.allSettled (inside _ (by simp)) (ih ?_)
        exact fun label member => inside label (by simp [member])

/-- Over a history, registration returns zero exactly when all its calls succeed, and every
state is clean.
-/
structure Contract (m : LoadableModule Calls Kind) (allSucceed : Calls → Prop)
    (history : List (Label Calls)) : Prop where
  returns : ∀ calls, .load calls ∈ history → ((m.register calls).1 = 0 ↔ allSucceed calls)
  clean : AlwaysClean m history

/-- What a load attempt must do for the contract. -/
def LoadableModule.Keeps (m : LoadableModule Calls Kind) (allSucceed : Calls → Prop)
    (calls : Calls) : Prop :=
  ((m.register calls).1 = 0 ↔ allSucceed calls) ∧ m.Balanced (.load calls)

/-- A failed attempt keeps the contract when it returns an error with nothing held. -/
theorem keeps_of_settled {m : LoadableModule Calls Kind} {allSucceed : Calls → Prop}
    {calls : Calls} (fails : ¬ allSucceed calls) (error : (m.register calls).1 ≠ 0)
    (settled : Settled (m.registered calls))
    : m.Keeps allSucceed calls :=
  ⟨iff_of_false error fails, settled.2, fun _ => settled.1⟩

/-- So it does when these are its return value and its entries. -/
theorem keeps_of_register {m : LoadableModule Calls Kind} {allSucceed : Calls → Prop}
    {calls : Calls} {ret : Int} {entries : List (Entry Kind)}
    (ran : m.register calls = (ret, entries)) (fails : ¬ allSucceed calls) (error : ret ≠ 0)
    (settled : Settled (Account.empty.posts entries))
    : m.Keeps allSucceed calls := by
  refine keeps_of_settled fails ?_ ?_
  · rw [ran]
    exact error
  · rw [LoadableModule.registered, ran]
    exact settled

/-- A complete attempt keeps the contract when it returns zero without a fault. -/
theorem keeps_of_zero {m : LoadableModule Calls Kind} {allSucceed : Calls → Prop}
    {calls : Calls} (all : allSucceed calls) (zero : (m.register calls).1 = 0)
    (faultless : (m.registered calls).faults = [])
    : m.Keeps allSucceed calls :=
  ⟨iff_of_true zero all, faultless, fun error => absurd zero error⟩

/-- The contract as a condition on the load attempts alone, for a module whose unload
settles the account of an attempt in which everything succeeded. Witness: the events of the
history one by one, an unload by the load before it.
-/
theorem contract_iff {m : LoadableModule Calls Kind} {allSucceed handled : Calls → Prop}
    (load : ∀ calls, handled calls ↔ m.Keeps allSucceed calls)
    (unload : ∀ calls, allSucceed calls → Settled (m.unloaded calls))
    {history : List (Label Calls)} {s : State Calls Kind} (run : LifeRun m history s)
    : Contract m allSucceed history ↔ ∀ calls, .load calls ∈ history → handled calls := by
  constructor
  · intro contract calls member
    have balanced := (alwaysClean_iff run).mp contract.clean _ member
    exact (load calls).mpr ⟨contract.returns calls member, balanced⟩
  · intro handledAll
    refine ⟨fun calls member => ((load calls).mp (handledAll calls member)).1, ?_⟩
    refine (alwaysClean_iff run).mpr ?_
    intro label member
    cases label with
    | load calls => exact ((load calls).mp (handledAll calls member)).2
    | unload calls =>
        obtain ⟨loaded, zero⟩ := run.loaded.2 calls member
        exact unload calls (((load calls).mp (handledAll calls loaded)).1.mp zero)

/-- A load attempt that does not keep the contract breaks it for every history that ends in
it.
-/
theorem Contract.last {m : LoadableModule Calls Kind} {allSucceed : Calls → Prop}
    {history : List (Label Calls)} {calls : Calls} {s : State Calls Kind}
    (run : LifeRun m (history ++ [.load calls]) s)
    (contract : Contract m allSucceed (history ++ [.load calls]))
    : m.Keeps allSucceed calls :=
  ⟨
    contract.returns calls (by simp),
    (alwaysClean_iff run).mp contract.clean _ (by simp)
  ⟩

end DummyDrivers.ModuleLife
