import DummyDrivers.Library.Loops

/-! Reads through C pointers: of a number of bytes, and of strings that are compared. A
pointer is the memory from where it points to the end of its object.
-/

namespace DummyDrivers.Pointers

open DummyDrivers.Loops

/-- A read that no object answers. -/
inductive Fault where
  | nullPointer
  | outside
  deriving DecidableEq, Repr

/-- A pointer that may be null. -/
abbrev Pointer := Option (List UInt8)

def readByte (pointer : Pointer) (index : Nat) : Except Fault UInt8 :=
  match pointer with
  | none => .error .nullPointer
  | some bytes =>
      match bytes[index]? with
      | some byte => .ok byte
      | none => .error .outside

/-- The bytes from a pointer on, read one after the other. -/
def readBytes (pointer : Pointer) (count : Nat) : Except Fault (List UInt8) :=
  (List.range count).mapM (readByte pointer)

theorem readByte_some {bytes : List UInt8} {index : Nat} (inside : index < bytes.length)
    : readByte (some bytes) index = .ok (bytes.getD index 0) := by
  simp [readByte, inside]

/-- A read succeeds if it is of nothing or stays inside an object. -/
theorem readBytes_ok_iff (pointer : Pointer) (count : Nat)
    : (∃ bytes, readBytes pointer count = .ok bytes)
      ↔ count = 0 ∨ ∃ bytes, pointer = some bytes ∧ count ≤ bytes.length := by
  constructor
  · intro read
    obtain ⟨bytes, ran⟩ := read
    rcases Nat.eq_zero_or_pos count with none | positive
    · exact .inl none
    · right
      have member := List.mem_range.mpr (Nat.sub_one_lt_of_lt positive)
      obtain ⟨last, ok⟩ := exists_ok_of_mapM_ok ran member
      cases pointer with
      | none => contradiction
      | some object =>
          refine ⟨object, rfl, ?_⟩
          by_contra short
          have outside : object[count - 1]? = none := List.getElem?_eq_none (by omega)
          simp [readByte, outside] at ok
  · intro condition
    rcases condition with rfl | ⟨object, rfl, enough⟩
    · exact ⟨[], rfl⟩
    · refine ⟨_, mapM_ok fun index member => readByte_some ?_⟩
      exact (List.mem_range.mp member).trans_le enough

/-- `strcmp` on two strings in memory, with the number of bytes that it reads of each. -/
def strcmp : List UInt8 → List UInt8 → Except Fault (Int × Nat)
  | c1 :: cs, c2 :: ct =>
      if c1 ≠ c2 then
        .ok (if c1 < c2 then -1 else 1, 1)
      else if c1 = 0 then
        .ok (0, 1)
      else do
        let (value, reads) ← strcmp cs ct
        return (value, reads + 1)
  | _, _ => .error .outside

/-- A string with its end. -/
def cString (name : List UInt8) : List UInt8 := name ++ [0]

/-- The string in a field of some bytes: up to its first zero, or all of them. -/
def fieldString (field : List UInt8) : List UInt8 := field.takeWhile (· ≠ 0)

/-- A field without an end whose bytes are those that a string starts with. -/
def RunsOver (field name : List UInt8) : Prop := 0 ∉ field ∧ field <+: name

theorem runsOver_cons (byte : UInt8) (field name : List UInt8)
    : RunsOver (byte :: field) (byte :: name) ↔ byte ≠ 0 ∧ RunsOver field name := by
  unfold RunsOver
  rw [List.cons_prefix_cons, List.mem_cons, not_or]
  constructor
  · rintro ⟨⟨some, unended⟩, _, starts⟩
    exact ⟨fun none => some none.symm, unended, starts⟩
  · rintro ⟨some, unended, starts⟩
    exact ⟨⟨fun none => some none.symm, unended⟩, rfl, starts⟩

/-- A string that fills its field runs over it. -/
theorem runsOver_of_string {field name : List UInt8} (ended : 0 ∉ name)
    (string : fieldString field = name) (long : field.length ≤ name.length)
    : RunsOver field name := by
  have start : name <+: field := by
    rw [← string]
    exact List.takeWhile_prefix _
  obtain rfl := start.eq_of_length_le long
  exact ⟨ended, List.prefix_rfl⟩

theorem strcmp_of_ne {first second : UInt8} (different : first ≠ second)
    (left right : List UInt8)
    : ∃ value, strcmp (first :: left) (second :: right) = .ok (value, 1) ∧ value ≠ 0 := by
  rw [strcmp, if_pos different]
  refine ⟨_, rfl, ?_⟩
  split <;> decide

/-- Equal bytes before the ends are read one by one. -/
theorem strcmp_same {byte : UInt8} (some : byte ≠ 0) (left right : List UInt8)
    : strcmp (byte :: left) (byte :: right)
      = (do
          let (value, reads) ← strcmp left right
          return (value, reads + 1)) := by
  rw [strcmp, if_neg (not_not.mpr rfl), if_neg some]

/-- Compared with a field that the string does not run over, `strcmp` stays in the field and
is zero exactly for the string in it. By induction on the field with the string generalized.
-/
theorem strcmp_field {field name : List UInt8} (ended : 0 ∉ name)
    (bounded : ¬ RunsOver field name) (rest : List UInt8)
    : ∃ value reads,
        strcmp (cString name) (field ++ rest) = .ok (value, reads)
        ∧ reads ≤ field.length
        ∧ (value = 0 ↔ fieldString field = name) := by
  induction field generalizing name with
  | nil => exact absurd ⟨List.not_mem_nil, List.nil_prefix⟩ bounded
  | cons byte field ih =>
      cases name with
      | nil =>
          by_cases last : byte = 0
          · subst last
            exact ⟨0, 1, rfl, Nat.le_add_left 1 _, by simp [fieldString]⟩
          · obtain ⟨value, ran, other⟩ := strcmp_of_ne (Ne.symm last) [] (field ++ rest)
            exact ⟨value, 1, ran, Nat.le_add_left 1 _, by simp [other, fieldString, last]⟩
      | cons first name =>
          rw [List.mem_cons, not_or] at ended
          obtain ⟨some, later⟩ := ended
          by_cases same : first = byte
          · subst same
            rw [runsOver_cons] at bounded
            obtain ⟨value, reads, ran, inside, equal⟩ :=
              ih later fun overrun => bounded ⟨Ne.symm some, overrun⟩
            refine ⟨value, reads + 1, ?_, Nat.succ_le_succ inside, ?_⟩
            · change strcmp (first :: cString name) (first :: (field ++ rest)) = _
              rw [strcmp_same (Ne.symm some), ran]
              rfl
            · rw [equal]
              simp [fieldString, Ne.symm some]
          · obtain ⟨value, ran, other⟩ := strcmp_of_ne same (cString name) (field ++ rest)
            refine ⟨value, 1, ran, Nat.le_add_left 1 _, ?_⟩
            by_cases last : byte = 0
            · simp [other, fieldString, last]
            · simp [other, fieldString, last, Ne.symm same]

/-- Every comparison reads something. -/
theorem strcmp_reads_pos {left right : List UInt8} {value : Int} {reads : Nat}
    (ran : strcmp left right = .ok (value, reads))
    : 0 < reads := by
  unfold strcmp at ran
  split at ran
  · split at ran
    · simp only [Except.ok.injEq, Prod.mk.injEq] at ran
      omega
    · split at ran
      · simp only [Except.ok.injEq, Prod.mk.injEq] at ran
        omega
      · obtain ⟨state, _, last⟩ := bind_eq_ok.mp ran
        simp only [pure, Except.pure, Except.ok.injEq, Prod.mk.injEq] at last
        omega
  · contradiction

/-- Compared with a field that the string runs over, `strcmp` reads behind the field, by
induction on the field with the string generalized.
-/
theorem strcmp_over {field name rest : List UInt8} (overrun : RunsOver field name) {value : Int}
    {reads : Nat} (ran : strcmp (cString name) (field ++ rest) = .ok (value, reads))
    : field.length < reads := by
  induction field generalizing name value reads with
  | nil => exact strcmp_reads_pos ran
  | cons byte field ih =>
      cases name with
      | nil => exact absurd overrun.2 (by simp)
      | cons first name =>
          obtain rfl := (List.cons_prefix_cons.mp overrun.2).1
          obtain ⟨some, later⟩ := (runsOver_cons _ _ _).mp overrun
          change strcmp (byte :: cString name) (byte :: (field ++ rest)) = _ at ran
          rw [strcmp_same some] at ran
          obtain ⟨⟨value', reads'⟩, inner, last⟩ := bind_eq_ok.mp ran
          simp only [pure, Except.pure, Except.ok.injEq, Prod.mk.injEq] at last
          have deeper := ih later inner
          rw [List.length_cons]
          omega

end DummyDrivers.Pointers
