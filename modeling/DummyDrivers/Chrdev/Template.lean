import DummyDrivers.Chrdev.Scaffold

/-! The copies of the template that leave the scaffold as it is: the template itself, the
module that tries out static calls and the consumer of a regulator. None of them looks at
the result of the region.
-/

namespace DummyDrivers.Chrdev

open DummyDrivers.Ledger
open DummyDrivers.ModuleLife

/-- The results of the kernel calls that every copy makes, in the order they are made. -/
structure ScaffoldCalls where
  allocChrdevRegion : KernelCall
  classCreate : KernelCall
  deviceCreate : KernelCall

def ScaffoldCalls.AllSucceed (calls : ScaffoldCalls) : Prop :=
  calls.allocChrdevRegion = none ∧ calls.classCreate = none ∧ calls.deviceCreate = none

section

variable {Own : Type}

/-- The registration of a copy up to its device, the labels `out_class` and `out_dev_num`
included, with what it does after that.
-/
def registerDevice (calls : ScaffoldCalls) (rest : World Own → Int × World Own) (w : World Own)
    : Int × World Own :=
  -- The source goes on without a region as well.
  let w := if calls.allocChrdevRegion.failed then w else w.acquire .chrdevRegion
  if calls.classCreate.failed then
    freeDevNum (-enodev) w
  else
    let w := w.acquire .deviceClass
    if calls.deviceCreate.failed then
      freeClass (-enodev) w
    else
      rest (w.acquire .device)

end

namespace Template

def dummyTemplateDrvRegister (calls : ScaffoldCalls) (w : World Empty) : Int × World Empty :=
  registerDevice calls (fun w => (0, w)) w

def dummyTemplateDrvUnregister (w : World Empty) : World Empty := unregister w

def dummyTemplate : LoadableModule ScaffoldCalls (Resource Empty) :=
  driverModule dummyTemplateDrvRegister dummyTemplateDrvUnregister

end Template

namespace StaticCall

/-- The calls through the static call and the plain pointer acquire nothing, and `ret` is only
printed.
-/
def dummyStaticCallDrvRegister (calls : ScaffoldCalls) (w : World Empty) : Int × World Empty :=
  registerDevice calls (fun w => (0, w)) w

def dummyStaticCallDrvUnregister (w : World Empty) : World Empty := unregister w

def dummyStaticCall : LoadableModule ScaffoldCalls (Resource Empty) :=
  driverModule dummyStaticCallDrvRegister dummyStaticCallDrvUnregister

end StaticCall

namespace Consumer

inductive ConsumerResource where
  | vdd
  deriving DecidableEq, Repr

structure Calls extends ScaffoldCalls where
  devmRegulatorGet : KernelCall

/-- A refused regulator returns its error past the labels. -/
def dummyConsumerDrvRegister (calls : Calls) (w : World ConsumerResource)
    : Int × World ConsumerResource :=
  registerDevice calls.toScaffoldCalls
    (fun w =>
      if calls.devmRegulatorGet.failed then
        (calls.devmRegulatorGet.ret, w)
      else
        (0, w.manage .vdd))
    w

def dummyConsumerDrvUnregister (w : World ConsumerResource) : World ConsumerResource :=
  unregister w

def dummyConsumer : LoadableModule Calls (Resource ConsumerResource) :=
  driverModule dummyConsumerDrvRegister dummyConsumerDrvUnregister

def Calls.AllSucceed (calls : Calls) : Prop :=
  calls.toScaffoldCalls.AllSucceed ∧ calls.devmRegulatorGet = none

/-- The region is allocated, and a regulator that is asked for is not refused. -/
def Calls.Handled (calls : Calls) : Prop :=
  calls.allocChrdevRegion = none
  ∧ (calls.classCreate = none ∧ calls.deviceCreate = none → calls.devmRegulatorGet = none)

end Consumer

-----------------------------------------------------------------------------------------
-- A copy with at most one managed resource of its own
-----------------------------------------------------------------------------------------

section

variable {Own : Type} [DecidableEq Own]

/-- What a copy does that asks for one managed resource, or for none. -/
def takeOwn (own : KernelCall) (taken : Option Own) (w : World Own) : Int × World Own :=
  if own.failed then
    (own.ret, w)
  else
    (0, taken.elim w w.manage)

/-- The calls of such a copy: those of the scaffold and the one for its resource. -/
abbrev CopyCalls := ScaffoldCalls × KernelCall

def CopyCalls.AllSucceed (calls : CopyCalls) : Prop := calls.1.AllSucceed ∧ calls.2 = none

/-- The region is allocated, and a resource that is asked for is not refused. -/
def CopyCalls.Handled (calls : CopyCalls) : Prop :=
  calls.1.allocChrdevRegion = none
  ∧ (calls.1.classCreate = none ∧ calls.1.deviceCreate = none → calls.2 = none)

def copyModule (taken : Option Own) : LoadableModule CopyCalls (Resource Own) :=
  driverModule (fun calls => registerDevice calls.1 (takeOwn calls.2 taken)) unregister

variable {taken : Option Own}

/-- A refused resource ends the attempt with an error and with the device still there. -/
theorem copyModule_refused (c1 : KernelCall) (error : Errno)
    : ¬ (copyModule taken).Keeps CopyCalls.AllSucceed (⟨c1, none, none⟩, some error) := by
  rintro ⟨_, _, released⟩
  have empty := released (KernelCall.ret_some_neg error).ne
  have held : Resource.device
      ∈ ((copyModule taken).registered (⟨c1, none, none⟩, some error)).held := by
    cases c1 <;> exact Finset.mem_insert_self _ _
  rw [empty] at held
  exact absurd held (Finset.notMem_empty _)

/-- Without a region an attempt releases it, returns zero, or keeps the device. -/
theorem copyModule_regionRefused (error : Errno) (c2 c3 c4 : KernelCall)
    : ¬ (copyModule taken).Keeps CopyCalls.AllSucceed (⟨some error, c2, c3⟩, c4) := by
  intro keeps
  obtain ⟨returns, faultless, _⟩ := id keeps
  rcases c2 with _ | _
  · rcases c3 with _ | _
    · rcases c4 with _ | refusal
      · exact Option.some_ne_none error (returns.mp rfl).1.1
      · exact copyModule_refused _ refusal keeps
    · exact List.cons_ne_nil _ _ faultless
  · exact List.cons_ne_nil _ _ faultless

/-- An attempt of a copy keeps the contract exactly when it is handled. -/
theorem copyModule_keeps_iff (taken : Option Own) (calls : CopyCalls)
    : calls.Handled ↔ (copyModule taken).Keeps CopyCalls.AllSucceed calls := by
  obtain ⟨⟨c1, c2, c3⟩, c4⟩ := calls
  rcases c1 with _ | error
  · rcases c2 with _ | error
    · rcases c3 with _ | error
      · rcases c4 with _ | error
        · refine iff_of_true ⟨rfl, fun _ => rfl⟩ ?_
          refine keeps_of_zero ⟨⟨rfl, rfl, rfl⟩, rfl⟩ rfl ?_
          cases taken <;> rfl
        · refine iff_of_false (fun handled => Option.some_ne_none error (handled.2 ⟨rfl, rfl⟩)) ?_
          exact copyModule_refused none error
      · refine iff_of_true ⟨rfl, fun asked => absurd asked.2 (Option.some_ne_none error)⟩ ?_
        refine keeps_of_settled ?_ neg_enodev_ne ⟨rfl, rfl⟩
        exact fun all => Option.some_ne_none error all.1.2.2
    · refine iff_of_true ⟨rfl, fun asked => absurd asked.1 (Option.some_ne_none error)⟩ ?_
      refine keeps_of_settled ?_ neg_enodev_ne ⟨rfl, rfl⟩
      exact fun all => Option.some_ne_none error all.1.2.1
  · refine iff_of_false (fun handled => Option.some_ne_none error handled.1) ?_
    exact copyModule_regionRefused error c2 c3 c4

end

-----------------------------------------------------------------------------------------
-- The three copies
-----------------------------------------------------------------------------------------

open Consumer (ConsumerResource dummyConsumer)
open StaticCall (dummyStaticCall)
open Template (dummyTemplate)

/-- Without a resource of its own a copy is handled when its region is allocated. -/
theorem handled_none (calls : ScaffoldCalls)
    : calls.allocChrdevRegion = none ↔ CopyCalls.Handled (calls, none) :=
  (and_iff_left fun _ => rfl).symm

theorem allSucceed_none (calls : ScaffoldCalls)
    : calls.AllSucceed ↔ CopyCalls.AllSucceed (calls, none) :=
  (and_iff_left rfl).symm

theorem dummyTemplate_keeps_iff (calls : ScaffoldCalls)
    : calls.allocChrdevRegion = none
      ↔ dummyTemplate.Keeps ScaffoldCalls.AllSucceed calls := by
  refine (handled_none calls).trans ((copyModule_keeps_iff (none : Option Empty) _).trans ?_)
  exact and_congr_left' (iff_congr Iff.rfl (allSucceed_none calls).symm)

theorem dummyTemplate_unloaded {calls : ScaffoldCalls} (all : calls.AllSucceed)
    : Settled (dummyTemplate.unloaded calls) := by
  obtain ⟨c1, c2, c3⟩ := calls
  obtain ⟨rfl, rfl, rfl⟩ := all
  exact ⟨rfl, rfl⟩

/-- The managed regulator goes with the device. -/
theorem dummyConsumer_unloaded {calls : Consumer.Calls} (all : calls.AllSucceed)
    : Settled (dummyConsumer.unloaded calls) := by
  obtain ⟨⟨c1, c2, c3⟩, c4⟩ := calls
  obtain ⟨⟨rfl, rfl, rfl⟩, rfl⟩ := all
  exact ⟨rfl, rfl⟩

/-- In every run of each copy, registration returns zero exactly when its calls succeed, an
attempt that is over holds nothing and no release is out of place, exactly when every load
attempt gets its region and, in the consumer, is not refused its regulator.
-/
theorem copies_lifecycles_iff
    : (∀ history s,
          LifeRun dummyTemplate history s
          → (Contract dummyTemplate ScaffoldCalls.AllSucceed history
            ↔ ∀ calls, .load calls ∈ history → calls.allocChrdevRegion = none))
      ∧ (∀ history s,
          LifeRun dummyStaticCall history s
          → (Contract dummyStaticCall ScaffoldCalls.AllSucceed history
            ↔ ∀ calls, .load calls ∈ history → calls.allocChrdevRegion = none))
      ∧ ∀ history s,
          LifeRun dummyConsumer history s
          → (Contract dummyConsumer Consumer.Calls.AllSucceed history
            ↔ ∀ calls, .load calls ∈ history → calls.Handled) := by
  refine ⟨?_, ?_, ?_⟩
  · intro history s run
    exact contract_iff dummyTemplate_keeps_iff (fun _ => dummyTemplate_unloaded) run
  · intro history s run
    exact contract_iff dummyTemplate_keeps_iff (fun _ => dummyTemplate_unloaded) run
  · intro history s run
    refine contract_iff ?_ (fun _ => dummyConsumer_unloaded) run
    exact fun calls =>
      copyModule_keeps_iff (some ConsumerResource.vdd)
        (calls.toScaffoldCalls, calls.devmRegulatorGet)

/-- Witness: a consumer that is refused its class, then loaded and unloaded; a template that
goes on without a region.
-/
theorem copies_lifecycles_retry
    : Contract dummyConsumer Consumer.Calls.AllSucceed
        [
          .load ⟨⟨none, some ⟨12, enomem_code_pos⟩, none⟩, none⟩,
          .load ⟨⟨none, none, none⟩, none⟩,
          .unload ⟨⟨none, none, none⟩, none⟩
        ]
      ∧ ¬ Contract dummyTemplate ScaffoldCalls.AllSucceed
          [.load ⟨some ⟨12, enomem_code_pos⟩, none, none⟩] := by
  obtain ⟨template, _, consumer⟩ := copies_lifecycles_iff
  constructor
  · have refused
        : LifeRun dummyConsumer [.load ⟨⟨none, some ⟨12, enomem_code_pos⟩, none⟩, none⟩] _ :=
      .snoc .nil (.loadFail _ neg_enodev_ne)
    have run := (refused.snoc (.loadOk ⟨⟨none, none, none⟩, none⟩ rfl)).snoc (.unload _)
    refine (consumer _ _ run).mpr ?_
    intro calls member
    simp only [List.cons_append, List.nil_append, List.mem_cons, List.not_mem_nil, or_false]
      at member
    rcases member with first | second | last
    · obtain rfl := Label.load.inj first
      exact ⟨rfl, fun asked => absurd asked.1 (Option.some_ne_none _)⟩
    · obtain rfl := Label.load.inj second
      exact ⟨rfl, fun _ => rfl⟩
    · contradiction
  · intro contract
    have run
        : LifeRun dummyTemplate ([] ++ [.load ⟨some ⟨12, enomem_code_pos⟩, none, none⟩]) _ :=
      .snoc .nil (.loadOk _ rfl)
    have region := (template _ _ run).mp contract _ List.mem_cons_self
    exact Option.some_ne_none _ region

end DummyDrivers.Chrdev
