import DummyDrivers.Library.Pointers

/-! The match of a device with a driver on the dummy bus: the walk through the driver's
table of names.
-/

namespace DummyDrivers.Bus

open DummyDrivers.Loops
open DummyDrivers.Pointers

/-- `struct dummy_device_id`, with the bytes of its pointer. -/
structure DummyDeviceId where
  name : Vector UInt8 32
  data : Vector UInt8 8
  deriving DecidableEq

/-- `ids->name[0]`. -/
def DummyDeviceId.first (id : DummyDeviceId) : UInt8 := id.name[0]

/-- The bytes of an entry in memory. -/
def DummyDeviceId.bytes (id : DummyDeviceId) : List UInt8 := id.name.toList ++ id.data.toList

/-- What a match does: its value, the number of entries whose first byte it looks at, and
the number of bytes that each comparison reads.
-/
structure MatchRun where
  ret : Int
  looked : Nat
  compared : List Nat
  deriving DecidableEq, Repr

/-- The loop of `dummy_bus_match`, from the entry on to which `ids` points. -/
def matchFrom (devName : List UInt8) : List DummyDeviceId → Except Fault MatchRun
  | [] => .error .outside
  | id :: rest =>
      if id.first = 0 then
        .ok { ret := 0, looked := 1, compared := [] }
      else do
        let (value, reads) ← strcmp devName ((id :: rest).flatMap DummyDeviceId.bytes)
        if value = 0 then
          return { ret := 1, looked := 1, compared := [reads] }
        else
          let run ← matchFrom devName rest
          return { run with looked := run.looked + 1, compared := reads :: run.compared }

/-- `dummy_bus_match` on the memory of the table, or without one. -/
def dummyBusMatch (devName : List UInt8) (idTable : Option (List DummyDeviceId))
    : Except Fault MatchRun :=
  match idTable with
  | none => .ok { ret := 0, looked := 0, compared := [] }
  | some ids => matchFrom devName ids

/-- A table: the entries with a name, the one that ends it, and what follows in memory. -/
structure IdTable where
  entries : List DummyDeviceId
  stop : DummyDeviceId
  after : List DummyDeviceId
  named : ∀ id ∈ entries, id.first ≠ 0
  ended : stop.first = 0

def IdTable.memory (table : IdTable) : List DummyDeviceId :=
  table.entries ++ table.stop :: table.after

/-- The entries of a driver's table, none without one. -/
def entriesOf (table : Option IdTable) : List DummyDeviceId :=
  match table with
  | none => []
  | some table => table.entries

/-- The name of an entry. -/
def DummyDeviceId.string (id : DummyDeviceId) : List UInt8 := fieldString id.name.toList

/-- The match of a device name, on the memory of a table. -/
def matchTable (name : List UInt8) (table : Option IdTable) : Except Fault MatchRun :=
  dummyBusMatch (cString name) (table.map IdTable.memory)

/-- The match is right: it looks at no entry after the end, answers whether some entry has
the name, and reads no byte behind an entry's name.
-/
structure MatchRight (entries : List DummyDeviceId) (name : List UInt8) (run : MatchRun) : Prop
    where
  looked : run.looked ≤ entries.length + 1
  answer : run.ret = if ∃ id ∈ entries, id.string = name then 1 else 0
  inside : ∀ reads ∈ run.compared, reads ≤ 32

/-- The match is right for a table and a name, and its answer does not depend on the data in
the table.
-/
structure MatchesByName (table : Option IdTable) (name : List UInt8) : Prop where
  right : ∃ run, matchTable name table = .ok run ∧ MatchRight (entriesOf table) name run
  names
    : ∀ other,
        (entriesOf other).map DummyDeviceId.name = (entriesOf table).map DummyDeviceId.name
        → ∃ run run',
            matchTable name table = .ok run
            ∧ matchTable name other = .ok run'
            ∧ run'.ret = run.ret

/-- No entry before the end of the table has an unterminated name with which the device name
starts.
-/
def NoneRunsOver (entries : List DummyDeviceId) (name : List UInt8) : Prop :=
  ∀ id ∈ entries, ¬ RunsOver id.name.toList name

variable {name : List UInt8}

/-- What `strcmp` sees of the memory from an entry on. -/
theorem flatMap_bytes (id : DummyDeviceId) (rest : List DummyDeviceId)
    : (id :: rest).flatMap DummyDeviceId.bytes
      = id.name.toList ++ (id.data.toList ++ rest.flatMap DummyDeviceId.bytes) := by
  rw [List.flatMap_cons, DummyDeviceId.bytes, List.append_assoc]

/-- The first round on an entry with a name. -/
theorem matchFrom_cons {id : DummyDeviceId} (named : id.first ≠ 0)
    (devName : List UInt8) (rest : List DummyDeviceId)
    : matchFrom devName (id :: rest)
      = (do
          let (value, reads) ← strcmp devName
            (id.name.toList ++ (id.data.toList ++ rest.flatMap DummyDeviceId.bytes))
          if value = 0 then
            return { ret := 1, looked := 1, compared := [reads] }
          else
            let run ← matchFrom devName rest
            return { run with looked := run.looked + 1, compared := reads :: run.compared }) := by
  rw [matchFrom, if_neg named, flatMap_bytes]

/-- The walk is right where no name runs over its entry, by induction on the entries. -/
theorem matchFrom_right {entries after : List DummyDeviceId} {stop : DummyDeviceId}
    (ended : 0 ∉ name) (named : ∀ id ∈ entries, id.first ≠ 0) (last : stop.first = 0)
    (bounded : NoneRunsOver entries name)
    : ∃ run,
        matchFrom (cString name) (entries ++ stop :: after) = .ok run
        ∧ MatchRight entries name run := by
  induction entries with
  | nil =>
      refine ⟨{ ret := 0, looked := 1, compared := [] }, ?_, ?_⟩
      · rw [List.nil_append, matchFrom, if_pos last]
      · constructor <;> simp
  | cons id entries ih =>
      obtain ⟨value, reads, ran, inside, equal⟩ :=
        strcmp_field ended (bounded id List.mem_cons_self)
          (id.data.toList ++ (entries ++ stop :: after).flatMap DummyDeviceId.bytes)
      rw [Vector.length_toList] at inside
      rw [List.cons_append, matchFrom_cons (named id List.mem_cons_self), ran, ok_bind]
      dsimp only
      by_cases found : value = 0
      · rw [if_pos found]
        refine ⟨_, rfl, ?_⟩
        have string : id.string = name := equal.mp found
        constructor
        case looked => exact Nat.le_add_left 1 _
        case answer => rw [if_pos ⟨id, List.mem_cons_self, string⟩]
        case inside => simpa using inside
      · rw [if_neg found]
        obtain ⟨run, walked, right⟩ := ih
          (fun other member => named other (List.mem_cons_of_mem _ member))
          (fun other member => bounded other (List.mem_cons_of_mem _ member))
        rw [walked]
        refine ⟨_, rfl, ?_⟩
        have string : ¬ id.string = name := equal.not.mp found
        constructor
        case looked => exact Nat.succ_le_succ right.looked
        case answer =>
          rw [right.answer]
          simp [string]
        case inside =>
          intro count member
          rcases List.mem_cons.mp member with rfl | later
          · exact inside
          · exact right.inside count later

/-- A walk whose comparisons stay inside the names has no name that runs over its entry, by
induction on the entries: the first such name would be compared, since no name before it can
be that long.
-/
theorem noneRunsOver_of_inside {entries after : List DummyDeviceId} {stop : DummyDeviceId}
    (ended : 0 ∉ name) (named : ∀ id ∈ entries, id.first ≠ 0) {run : MatchRun}
    (walked : matchFrom (cString name) (entries ++ stop :: after) = .ok run)
    (inside : ∀ reads ∈ run.compared, reads ≤ 32)
    : NoneRunsOver entries name := by
  induction entries generalizing run with
  | nil => exact fun _ absent => absurd absent List.not_mem_nil
  | cons id entries ih =>
      rw [List.cons_append, matchFrom_cons (named id List.mem_cons_self)] at walked
      obtain ⟨⟨value, reads⟩, ran, rest⟩ := bind_eq_ok.mp walked
      dsimp only at rest
      have compared : reads ∈ run.compared := by
        split at rest
        · obtain rfl := Except.ok.inj rest
          exact List.mem_singleton_self reads
        · obtain ⟨later, _, joined⟩ := bind_eq_ok.mp rest
          obtain rfl := Except.ok.inj joined
          exact List.mem_cons_self
      have first : ¬ RunsOver id.name.toList name := by
        intro overrun
        have behind := strcmp_over overrun ran
        rw [Vector.length_toList] at behind
        have within := inside reads compared
        omega
      intro other member overrun
      rcases List.mem_cons.mp member with rfl | later
      · exact first overrun
      · obtain ⟨value', reads', ran', _, equal⟩ := strcmp_field ended first
          (id.data.toList ++ (entries ++ stop :: after).flatMap DummyDeviceId.bytes)
        obtain ⟨rfl, rfl⟩ := Prod.mk.inj (Except.ok.inj (ran'.symm.trans ran))
        by_cases found : value' = 0
        · have long := overrun.2.length_le
          rw [Vector.length_toList] at long
          refine first (runsOver_of_string ended (equal.mp found) ?_)
          rwa [Vector.length_toList]
        · rw [if_neg found] at rest
          obtain ⟨run', walk, joined⟩ := bind_eq_ok.mp rest
          obtain rfl := Except.ok.inj joined
          refine ih ?_ walk ?_ other later overrun
          · exact fun id member => named id (List.mem_cons_of_mem _ member)
          · exact fun reads member => inside reads (List.mem_cons_of_mem _ member)

theorem matchTable_right {table : Option IdTable} (ended : 0 ∉ name)
    (bounded : NoneRunsOver (entriesOf table) name)
    : ∃ run, matchTable name table = .ok run ∧ MatchRight (entriesOf table) name run := by
  cases table with
  | none =>
      refine ⟨{ ret := 0, looked := 0, compared := [] }, rfl, ?_⟩
      constructor <;> simp [entriesOf]
  | some table => exact matchFrom_right ended table.named table.ended bounded

/-- Where a string is bounded depends on the names only. -/
theorem noneRunsOver_congr {entries others : List DummyDeviceId}
    (names : others.map DummyDeviceId.name = entries.map DummyDeviceId.name)
    (bounded : NoneRunsOver entries name)
    : NoneRunsOver others name := by
  intro other member
  have listed : other.name ∈ entries.map DummyDeviceId.name :=
    names ▸ List.mem_map_of_mem member
  obtain ⟨id, inside, same⟩ := List.mem_map.mp listed
  rw [← same]
  exact bounded id inside

theorem exists_string_congr {entries others : List DummyDeviceId}
    (names : others.map DummyDeviceId.name = entries.map DummyDeviceId.name)
    : (∃ id ∈ others, id.string = name) ↔ ∃ id ∈ entries, id.string = name := by
  have strings (ids : List DummyDeviceId)
      : (∃ id ∈ ids, id.string = name)
        ↔ ∃ field ∈ ids.map DummyDeviceId.name, fieldString field.toList = name := by
    simp [DummyDeviceId.string]
  rw [strings, strings, names]

/-- The match goes by the names alone exactly where none of them is unterminated with the
bytes that the device name starts with.
-/
theorem matchesByName_iff (table : Option IdTable) (ended : 0 ∉ name)
    : MatchesByName table name ↔ NoneRunsOver (entriesOf table) name := by
  constructor
  · intro byName
    obtain ⟨run, walked, right⟩ := byName.right
    cases table with
    | none => exact fun _ absent => absurd absent List.not_mem_nil
    | some table => exact noneRunsOver_of_inside ended table.named walked right.inside
  · intro bounded
    obtain ⟨run, walked, right⟩ := matchTable_right ended bounded
    refine ⟨⟨run, walked, right⟩, ?_⟩
    intro other names
    obtain ⟨run', walked', right'⟩ := matchTable_right ended (noneRunsOver_congr names bounded)
    refine ⟨run, run', walked, walked', ?_⟩
    rw [right.answer, right'.answer]
    simp only [exists_string_congr names]

/-- An entry with a name in its field and a pointer of equal bytes. -/
def dummyId (name : List UInt8) (byte : UInt8) : DummyDeviceId :=
  { name := Vector.ofFn fun index => name.getD index 0, data := Vector.replicate 8 byte }

/-- A table of entries with these names, all with a pointer of equal bytes. -/
def namesTable (names : List (List UInt8)) (byte : UInt8)
    (named : ∀ name ∈ names, name.getD 0 0 ≠ 0) : IdTable where
  entries := names.map fun name => dummyId name byte
  stop := dummyId [] 0
  after := []
  named := by simpa [DummyDeviceId.first, dummyId] using named
  ended := by simp [DummyDeviceId.first, dummyId]

/-- Witness: a name with room for its end, behind a shorter name and behind 32 bytes without
an end that are other bytes.
-/
theorem matchesByName_short
    : MatchesByName
        (some (namesTable [[0x61], List.replicate 32 0x62, [0x61, 0x62]] 1 (by decide)))
        [0x61, 0x62] := by
  refine (matchesByName_iff _ (by decide)).mpr ?_
  intro id member overrun
  obtain ⟨name, listed, rfl⟩ := List.mem_map.mp member
  simp only [List.mem_cons, List.not_mem_nil, or_false] at listed
  rcases listed with rfl | rfl | rfl
  · exact overrun.1 (by decide)
  · exact absurd overrun.2 (by decide)
  · exact overrun.1 (by decide)

/-- A device name of 32 bytes is compared with the data of an entry that has the same name. -/
theorem matchesByName_full_fails
    : ¬ ∀ (table : Option IdTable) (name : List UInt8), 0 ∉ name → MatchesByName table name := by
  intro right
  have ended : 0 ∉ List.replicate 32 (0x61 : UInt8) := by decide
  let table := namesTable [List.replicate 32 0x61] 1 (by decide)
  obtain ⟨run, walked, found⟩ := (right (some table) _ ended).right
  have bounded := noneRunsOver_of_inside ended table.named walked found.inside
  exact bounded _ (List.mem_singleton_self _) ⟨by decide, by decide⟩

end DummyDrivers.Bus
