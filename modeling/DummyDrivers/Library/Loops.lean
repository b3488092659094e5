import DummyDrivers.Library.Blocks

/-! Loops whose rounds may fail. -/

namespace DummyDrivers.Loops

open DummyDrivers.Blocks

variable {Error State Input : Type*}

@[simp] theorem ok_bind {Result : Type _} (state : State) (next : State → Except Error Result)
    : (Except.ok state >>= next) = next state := rfl

theorem bind_eq_ok {Result : Type _} {first : Except Error State}
    {next : State → Except Error Result} {result : Result}
    : (first >>= next) = .ok result ↔ ∃ state, first = .ok state ∧ next state = .ok result := by
  cases first with
  | error error =>
      constructor
      · exact nofun
      · rintro ⟨_, failed, _⟩
        contradiction
  | ok state => simp

/-- A counting loop whose rounds succeed and carry an invariant on succeeds and ends in it,
by induction on the number of rounds.
-/
theorem foldlM_range_ok {round : State → Nat → Except Error State}
    {holds : Nat → State → Prop} {count : Nat}
    (step
      : ∀ index < count, ∀ state, holds index state
        → ∃ next, round state index = .ok next ∧ holds (index + 1) next)
    {start : State} (initial : holds 0 start)
    : ∃ final, (List.range count).foldlM round start = .ok final ∧ holds count final := by
  induction count with
  | zero => exact ⟨start, rfl, initial⟩
  | succ count ih =>
      obtain ⟨state, ran, invariant⟩ := ih fun index earlier => step index (by omega)
      obtain ⟨final, last, carried⟩ := step count (by omega) state invariant
      refine ⟨final, ?_, carried⟩
      rw [List.range_succ, List.foldlM_append, ran]
      change List.foldlM round state [count] = _
      rw [List.foldlM_cons, last]
      rfl

/-- A loop with an input on which every round fails has no result, by induction on the
inputs. What the failing round needs of its state is kept by the rounds before it.
-/
theorem foldlM_ne_ok {round : State → Input → Except Error State} {keeps : State → Prop}
    {bad : Input} (fails : ∀ state next, keeps state → round state bad ≠ .ok next)
    (kept : ∀ state input next, keeps state → round state input = .ok next → keeps next)
    {inputs : List Input} (member : bad ∈ inputs) {state : State} (start : keeps state)
    (result : State)
    : inputs.foldlM round state ≠ .ok result := by
  induction inputs generalizing state with
  | nil => contradiction
  | cons input inputs ih =>
      rw [List.foldlM_cons]
      cases ran : round state input with
      | error error => exact nofun
      | ok next =>
          rcases List.mem_cons.mp member with rfl | later
          · exact absurd ran (fails state next start)
          · exact ih later (kept state input next start ran)

/-- A loop whose every round succeeds is its pure counterpart, by induction on the list. -/
theorem mapM_ok {Output : Type _} {body : Input → Except Error Output}
    {result : Input → Output} {inputs : List Input}
    (ok : ∀ input ∈ inputs, body input = .ok (result input))
    : inputs.mapM body = .ok (inputs.map result) := by
  induction inputs with
  | nil => rfl
  | cons input inputs ih =>
      have rest := ih fun other member => ok other (List.mem_cons_of_mem _ member)
      rw [List.mapM_cons, ok input List.mem_cons_self, rest]
      rfl

/-- A loop that succeeds does so in every round, by induction on the list. -/
theorem exists_ok_of_mapM_ok {Output : Type _} {body : Input → Except Error Output}
    {inputs : List Input} {outputs : List Output} (ran : inputs.mapM body = .ok outputs)
    {input : Input} (member : input ∈ inputs)
    : ∃ output, body input = .ok output := by
  induction inputs generalizing outputs with
  | nil => contradiction
  | cons first inputs ih =>
      rw [List.mapM_cons] at ran
      obtain ⟨output, ok, rest⟩ := bind_eq_ok.mp ran
      obtain ⟨_, later, _⟩ := bind_eq_ok.mp rest
      rcases List.mem_cons.mp member with rfl | inside
      · exact ⟨output, ok⟩
      · exact ih later inside

/-- A loop that writes one block in each round leaves a list of these blocks, whatever the
list held before. Its state is made of the number of rounds and the list.
-/
theorem foldlM_range_blocks {Item : Type*} {round : State → Nat → Except Error State}
    (state : Nat → List Item → State) {content : Nat → List Item} {size count : Nat}
    (sized : ∀ index, (content index).length = size)
    (ok
      : ∀ index < count, ∀ items : List Item, items.length = size * count
        → round (state index items) index
          = .ok (state (index + 1) (patch items (size * index) (content index))))
    {items : List Item} (whole : items.length = size * count)
    : (List.range count).foldlM round (state 0 items)
      = .ok (state count ((List.range count).flatMap content)) := by
  let holds (index : Nat) (current : State) : Prop :=
    ∃ items,
      current = state index items
      ∧ items.length = size * count
      ∧ ∀ earlier < index, block size items earlier = content earlier
  have next (index : Nat) (inside : index < count) (current : State)
      (invariant : holds index current)
      : ∃ next, round current index = .ok next ∧ holds (index + 1) next := by
    obtain ⟨items, rfl, length, written⟩ := invariant
    have fits : size * index + size ≤ items.length := length ▸ block_end size inside
    have room : size * index + (content index).length ≤ items.length := (sized index).symm ▸ fits
    refine ⟨_, ok index inside items length, _, rfl, (patch_length room).trans length, ?_⟩
    intro earlier before
    rw [block_patch (sized index) fits]
    rcases Nat.lt_succ_iff_lt_or_eq.mp before with before | rfl
    · rw [if_neg before.ne, written earlier before]
    · rw [if_pos rfl]
  obtain ⟨_, ran, final, rfl, length, written⟩ :=
    foldlM_range_ok next (⟨items, rfl, whole, nofun⟩ : holds 0 (state 0 items))
  rw [ran]
  congr 2
  apply ext_blocks length (flatMap_range_length sized count)
  intro index inside
  rw [written index inside, block_flatMap sized inside]

/-- Loops whose rounds agree on one state seen in two ways agree, by induction on the inputs. -/
theorem foldlM_simulates {Other : Type _} {round : State → Input → Except Error State}
    {other : Other → Input → Except Error Other} (view : Other → State) {inputs : List Input}
    (step
      : ∀ input ∈ inputs, ∀ state, round (view state) input = view <$> other state input)
    (start : Other)
    : inputs.foldlM round (view start) = view <$> inputs.foldlM other start := by
  induction inputs generalizing start with
  | nil => rfl
  | cons input rest ih =>
      rw [List.foldlM_cons, List.foldlM_cons, step input List.mem_cons_self start]
      cases other start input with
      | error error => rfl
      | ok next =>
          exact ih (fun later member => step later (List.mem_cons_of_mem input member)) next

end DummyDrivers.Loops
