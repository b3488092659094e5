import DummyDrivers.Library.Transition

/-! First-in first-out hand-over of owned items: what a component that takes items and
returns them in order promises, independently of how it stores them.
-/

namespace DummyDrivers.Handover

open DummyDrivers.Transition

variable {Item : Type*}

/-- One hand-over to the component or one return from it. -/
inductive Action (Item : Type*) where
  | take (item : Item)
  | giveBack (item : Item)

/-- The component holds a queue of items: it takes only items it does not hold, and it
gives back the oldest one.
-/
inductive Step : List Item → Action Item → List Item → Prop where
  | take {held item} (fresh : item ∉ held) : Step held (.take item) (held ++ [item])
  | giveBack {held item} : Step (item :: held) (.giveBack item) held

/-- The item an action hands over, if it is a hand-over. -/
def Action.taken? : Action Item → Option Item
  | .take item => some item
  | .giveBack _ => none

/-- The item an action gives back, if it is a return. -/
def Action.givenBack? : Action Item → Option Item
  | .take _ => none
  | .giveBack item => some item

def taken (history : List (Action Item)) : List Item := history.filterMap Action.taken?

def givenBack (history : List (Action Item)) : List Item :=
  history.filterMap Action.givenBack?

/-- Everything handed over is given back or still held, in order, by run induction. -/
theorem conservation {history : List (Action Item)} {held}
    (run : Run Step [] history held)
    : taken history = givenBack history ++ held := by
  refine run.invariant (fun past held => taken past = givenBack past ++ held) rfl ?_
  intro past before label after _ kept next
  cases next with
  | take fresh =>
      simp only [taken, givenBack] at kept
      simp [taken, givenBack, Action.taken?, Action.givenBack?, List.filterMap_cons, kept]
  | giveBack =>
      simp only [taken, givenBack] at kept
      simp [taken, givenBack, Action.taken?, Action.givenBack?, List.filterMap_cons, kept]

/-- No item comes to be held twice, by run induction: a hand-over needs a fresh item. -/
theorem held_nodup {history : List (Action Item)} {start held}
    (run : Run Step start history held) (unique : start.Nodup)
    : held.Nodup := by
  refine run.invariant (fun _ held => held.Nodup) unique ?_
  intro past before label after _ unique next
  cases next with
  | @take _ item fresh =>
      refine List.nodup_append.mpr ⟨unique, by simp, ?_⟩
      intro other member last new
      exact ne_of_mem_of_not_mem member ((List.mem_singleton.mp new).symm ▸ fresh)
  | giveBack => exact (List.nodup_cons.mp unique).2

/-- Every hand-over is answered at most once: an item's hand-overs exceed its returns by
one exactly while the component holds it, and are equal otherwise.
-/
theorem count_taken [DecidableEq Item] {history : List (Action Item)} {held}
    (run : Run Step [] history held) (item : Item)
    : (taken history).count item
      = (givenBack history).count item + if item ∈ held then 1 else 0 := by
  rw [conservation run, List.count_append, (held_nodup run .nil).count]

end DummyDrivers.Handover
