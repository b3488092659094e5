import DummyDrivers.Library.Loops

/-! Memory that is written again and again: at each place the last of the written items stays.
What a part of a program writes is a layer, the items by their places.
-/

namespace DummyDrivers.Overwriting

open DummyDrivers.Blocks
open DummyDrivers.Loops

variable {Error Item State : Type*}

/-- Only the places of a layer have changed, and they hold its items. -/
structure Overwrites (layer : Nat → Option Item) (before after : List Item) : Prop where
  length : after.length = before.length
  held (place : Nat) : after[place]? = (layer place).or before[place]?

/-- Neighbouring items from a place on. -/
def laid (start : Nat) (items : List Item) (place : Nat) : Option Item :=
  if start ≤ place then items[place - start]? else none

/-- What the last layer that reaches a place has there. -/
def latest (layers : List (Nat → Option Item)) (place : Nat) : Option Item :=
  layers.reverse.findSome? fun layer => layer place

@[simp] theorem latest_nil (place : Nat) : latest ([] : List (Nat → Option Item)) place = none :=
  rfl

theorem latest_append (layers more : List (Nat → Option Item)) (place : Nat)
    : latest (layers ++ more) place = (latest more place).or (latest layers place) := by
  rw [latest, List.reverse_append, List.findSome?_append]
  rfl

theorem latest_cons (layer : Nat → Option Item) (layers : List (Nat → Option Item))
    (place : Nat)
    : latest (layer :: layers) place = (latest layers place).or (layer place) := by
  rw [← List.singleton_append, latest_append]
  congr 1
  simp [latest]

/-- The last layer of a counted list comes first. -/
theorem latest_range_succ (layer : Nat → Nat → Option Item) (count place : Nat)
    : latest ((List.range (count + 1)).map layer) place
      = (layer count place).or (latest ((List.range count).map layer) place) := by
  rw [List.range_succ, List.map_append, latest_append]
  congr 1
  simp [latest]

/-- A place that one layer alone may reach, by induction on the number of layers. -/
theorem latest_range_single {layer : Nat → Nat → Option Item} {count place only : Nat}
    (others : ∀ index < count, index ≠ only → layer index place = none)
    : latest ((List.range count).map layer) place
      = if only < count then layer only place else none := by
  induction count with
  | zero => rfl
  | succ count ih =>
      rw [latest_range_succ, ih fun index before => others index (by omega)]
      rcases Nat.lt_trichotomy only count with earlier | rfl | later
      · rw [others count (by omega) (by omega), if_pos earlier, if_pos (by omega),
          Option.none_or]
      · rw [if_neg (by omega), if_pos (by omega), Option.or_none]
      · rw [others count (by omega) (by omega), if_neg (by omega), if_neg (by omega),
          Option.none_or]

/-- A place that two layers in turn may reach. -/
theorem latest_range_pair {layer : Nat → Nat → Option Item} {count place first : Nat}
    (others : ∀ index < count, index ≠ first → index ≠ first + 1 → layer index place = none)
    : latest ((List.range count).map layer) place
      = (if first + 1 < count then layer (first + 1) place else none).or
          (if first < count then layer first place else none) := by
  induction count with
  | zero => rfl
  | succ count ih =>
      rw [latest_range_succ, ih fun index before => others index (by omega)]
      rcases Nat.lt_trichotomy first count with earlier | rfl | later
      · rcases Nat.lt_or_ge (first + 1) count with before | reached
        · rw [others count (by omega) (by omega) (by omega), if_pos before, if_pos earlier,
            if_pos (by omega), if_pos (by omega), Option.none_or]
        · obtain rfl : count = first + 1 := by omega
          rw [if_neg (by omega), if_pos earlier, if_pos (by omega), if_pos (by omega),
            Option.none_or]
      · rw [if_neg (by omega), if_neg (by omega), if_neg (by omega), if_pos (by omega),
          Option.none_or, Option.none_or, Option.or_none]
      · rw [others count (by omega) (by omega) (by omega), if_neg (by omega),
          if_neg (by omega), if_neg (by omega), if_neg (by omega)]
        rfl

/-- Layers that differ by their inputs. -/
theorem latest_map {Input : Type _} (layer : Input → Nat → Option Item) (inputs : List Input)
    (place : Nat)
    : latest (inputs.map layer) place
      = inputs.reverse.findSome? fun input => layer input place := by
  rw [latest, ← List.map_reverse, List.findSome?_map]
  rfl

/-- Items laid from a block on reach no other block when they are no longer than it. -/
theorem laid_block {size : Nat} {items : List Item} (short : items.length ≤ size)
    {lane : Nat} (inside : lane < size) (index other : Nat)
    : laid (size * index) items (size * other + lane)
      = if index = other then items[lane]? else none := by
  rcases Nat.lt_trichotomy index other with earlier | rfl | later
  · have ends := block_end size earlier
    rw [laid, if_pos (by omega), if_neg (by omega), List.getElem?_eq_none (by omega)]
  · rw [laid, if_pos (by omega), if_pos rfl, Nat.add_sub_cancel_left]
  · have ends := block_end size later
    rw [laid, if_neg (by omega), if_neg (by omega)]

/-- Nothing is written. -/
theorem Overwrites.refl (items : List Item) : Overwrites (fun _ => none) items items :=
  ⟨rfl, fun _ => rfl⟩

/-- Of two layers the later one counts. -/
theorem Overwrites.trans {first second : Nat → Option Item} {before middle after : List Item}
    (lower : Overwrites first before middle) (upper : Overwrites second middle after)
    : Overwrites (fun place => (second place).or (first place)) before after := by
  refine ⟨upper.length.trans lower.length, ?_⟩
  intro place
  rw [upper.held, lower.held, Option.or_assoc]

theorem Overwrites.congr {first second : Nat → Option Item} {before after : List Item}
    (written : Overwrites first before after) (same : ∀ place, first place = second place)
    : Overwrites second before after :=
  ⟨written.length, fun place => same place ▸ written.held place⟩

theorem patch_overwrites {items new : List Item} {start : Nat}
    (inside : start + new.length ≤ items.length)
    : Overwrites (laid start new) items (patch items start new) := by
  refine ⟨patch_length inside, ?_⟩
  intro place
  rw [getElem?_patch inside, laid]
  split
  · rename_i within
    rw [if_pos within.1, List.getElem?_eq_getElem (by omega), Option.some_or]
  · rename_i outside
    split
    · have beyond : new[place - start]? = none := List.getElem?_eq_none (by omega)
      rw [beyond, Option.none_or]
    · rw [Option.none_or]

/-- A counting loop whose rounds each write a layer. Its state is made of the number of
rounds and the memory.
-/
theorem foldlM_range_overwrites {round : State → Nat → Except Error State}
    (state : Nat → List Item → State) {layer : Nat → Nat → Option Item} {count : Nat}
    {items : List Item}
    (step
      : ∀ index < count, ∀ current : List Item, current.length = items.length
        → ∃ next,
            round (state index current) index = .ok (state (index + 1) next)
            ∧ Overwrites (layer index) current next)
    : ∃ final,
        (List.range count).foldlM round (state 0 items) = .ok (state count final)
        ∧ Overwrites (latest ((List.range count).map layer)) items final := by
  let holds (index : Nat) (reached : State) : Prop :=
    ∃ current,
      reached = state index current
      ∧ Overwrites (latest ((List.range index).map layer)) items current
  have next (index : Nat) (inside : index < count) (reached : State)
      (invariant : holds index reached)
      : ∃ next, round reached index = .ok next ∧ holds (index + 1) next := by
    obtain ⟨current, rfl, written⟩ := invariant
    obtain ⟨next, ran, more⟩ := step index inside current written.length
    refine ⟨_, ran, next, rfl, (written.trans more).congr ?_⟩
    intro place
    exact (latest_range_succ layer index place).symm
  obtain ⟨_, ran, final, rfl, written⟩ :=
    foldlM_range_ok next (⟨items, rfl, .refl items⟩ : holds 0 (state 0 items))
  exact ⟨final, ran, written⟩

/-- A loop over inputs that each write a layer, by induction on the inputs. -/
theorem foldlM_overwrites {Input : Type _} {round : List Item → Input → Except Error (List Item)}
    {layer : Input → Nat → Option Item} {inputs : List Input} {items : List Item}
    (step
      : ∀ input ∈ inputs, ∀ current : List Item, current.length = items.length
        → ∃ next, round current input = .ok next ∧ Overwrites (layer input) current next)
    : ∃ final,
        inputs.foldlM round items = .ok final
        ∧ Overwrites (latest (inputs.map layer)) items final := by
  induction inputs generalizing items with
  | nil => exact ⟨items, rfl, .refl items⟩
  | cons input rest ih =>
      obtain ⟨next, ran, written⟩ := step input List.mem_cons_self items rfl
      obtain ⟨final, later, more⟩ := ih fun other member current same =>
        step other (List.mem_cons_of_mem input member) current (same.trans written.length)
      refine ⟨final, ?_, (written.trans more).congr ?_⟩
      · rw [List.foldlM_cons, ran]
        exact later
      · intro place
        exact (latest_cons (layer input) (rest.map layer) place).symm

/-- The same for rounds that cannot fail. -/
theorem foldl_overwrites {Input : Type _} {round : List Item → Input → List Item}
    {layer : Input → Nat → Option Item} {inputs : List Input} {items : List Item}
    (step
      : ∀ input ∈ inputs, ∀ current : List Item, current.length = items.length
        → Overwrites (layer input) current (round current input))
    : Overwrites (latest (inputs.map layer)) items (inputs.foldl round items) := by
  have rounds
      : ∀ input ∈ inputs, ∀ current : List Item, current.length = items.length
        → ∃ next,
            (.ok (round current input) : Except Unit (List Item)) = .ok next
            ∧ Overwrites (layer input) current next :=
    fun input member current same => ⟨_, rfl, step input member current same⟩
  obtain ⟨final, ran, written⟩ := foldlM_overwrites rounds
  have pure : inputs.foldlM (fun current input => (.ok (round current input) : Except Unit _)) items
      = .ok (inputs.foldl round items) := List.foldlM_pure
  obtain rfl := Except.ok.inj (pure.symm.trans ran)
  exact written

end DummyDrivers.Overwriting
