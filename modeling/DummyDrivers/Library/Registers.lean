import Mathlib.Data.List.Induction
import Mathlib.Data.Vector.Basic

/-! Registers whose words are made of bit fields, written one after the other. -/

namespace DummyDrivers.Registers

/-- A place of some bits in a word, counted from the least significant one. -/
structure BitField where
  offset : Nat
  length : Nat
  deriving DecidableEq, Repr

def BitField.Covers (field : BitField) (bit : Nat) : Prop :=
  field.offset ≤ bit ∧ bit < field.offset + field.length

def BitField.Disjoint (field other : BitField) : Prop :=
  ∀ bit, field.Covers bit → ¬ other.Covers bit

theorem BitField.disjoint_of_le {field other : BitField}
    (apart : other.offset + other.length ≤ field.offset)
    : field.Disjoint other := by
  intro bit covered both
  obtain ⟨above, _⟩ := covered
  obtain ⟨_, below⟩ := both
  omega

/-- The value of a field in a word. -/
def BitField.get {width : Nat} (field : BitField) (word : BitVec width) : BitVec field.length :=
  word.extractLsb' field.offset field.length

/-- A word with a value in one field and zeros everywhere else. -/
def BitField.place (width : Nat) (field : BitField) (value : BitVec field.length)
    : BitVec width :=
  value.setWidth width <<< field.offset

/-- A field with its value. -/
structure Part where
  field : BitField
  value : BitVec field.length

/-- A word made of parts. -/
def assemble (width : Nat) (parts : List Part) : BitVec width :=
  parts.foldr (fun part word => part.field.place width part.value ||| word) (BitVec.ofNat width 0)

variable {width : Nat}

theorem BitField.getLsbD_place (field : BitField) (value : BitVec field.length) {bit : Nat}
    (inside : bit < width)
    : (field.place width value).getLsbD bit
      = (decide (field.offset ≤ bit) && value.getLsbD (bit - field.offset)) := by
  rw [place, BitVec.getLsbD_shiftLeft, BitVec.getLsbD_setWidth]
  have low : bit - field.offset < width := by omega
  have above : (!decide (bit < field.offset)) = decide (field.offset ≤ bit) := by
    rw [← decide_not, decide_eq_decide, Nat.not_lt]
  simp [inside, low, above]

/-- A placed value has no bits outside its field. -/
theorem BitField.getLsbD_place_outside {field : BitField} (value : BitVec field.length)
    {bit : Nat} (outside : ¬ field.Covers bit)
    : (field.place width value).getLsbD bit = false := by
  by_cases inside : bit < width
  · rw [field.getLsbD_place value inside]
    by_cases above : field.offset ≤ bit
    · have past : field.length ≤ bit - field.offset := by
        have high : ¬ bit < field.offset + field.length := fun below => outside ⟨above, below⟩
        omega
      simp [BitVec.getLsbD_of_ge _ _ past]
    · simp [above]
  · exact BitVec.getLsbD_of_ge _ _ (Nat.le_of_not_lt inside)

@[simp] theorem assemble_nil : assemble width [] = BitVec.ofNat width 0 := rfl

theorem assemble_cons (part : Part) (parts : List Part)
    : assemble width (part :: parts)
      = (part.field.place width part.value ||| assemble width parts) := rfl

/-- The bits that no part covers are zero, by induction on the parts. -/
theorem assemble_outside {parts : List Part} {bit : Nat}
    (outside : ∀ part ∈ parts, ¬ part.field.Covers bit)
    : (assemble width parts).getLsbD bit = false := by
  induction parts with
  | nil => exact BitVec.getLsbD_zero
  | cons part parts ih =>
      have first : (part.field.place width part.value).getLsbD bit = false :=
        BitField.getLsbD_place_outside part.value (outside part List.mem_cons_self)
      have rest := ih fun other member => outside other (List.mem_cons_of_mem _ member)
      rw [assemble_cons, BitVec.getLsbD_or, first, rest]
      rfl

/-- Every part of disjoint ones is read back, by induction on them: the parts before it and
those after it have no bits in its field.
-/
theorem get_assemble {parts : List Part}
    (disjoint : parts.Pairwise fun part other => part.field.Disjoint other.field) {part : Part}
    (member : part ∈ parts) (inside : part.field.offset + part.field.length ≤ width)
    : part.field.get (assemble width parts) = part.value := by
  apply BitVec.eq_of_getLsbD_eq
  intro bit low
  have covered : part.field.Covers (part.field.offset + bit) := ⟨by omega, by omega⟩
  rw [BitField.get, BitVec.getLsbD_extractLsb']
  simp only [low, decide_true, Bool.true_and]
  induction parts with
  | nil => contradiction
  | cons first parts ih =>
      obtain ⟨apart, rest⟩ := List.pairwise_cons.mp disjoint
      rw [assemble_cons, BitVec.getLsbD_or]
      rcases List.mem_cons.mp member with rfl | later
      · rw [part.field.getLsbD_place part.value (by omega),
          assemble_outside fun other after => apart other after _ covered]
        simp
      · have outside : ¬ first.field.Covers (part.field.offset + bit) :=
          fun both => apart part later _ both covered
        rw [BitField.getLsbD_place_outside first.value outside, ih rest later, Bool.false_or]

section Writes

variable {Call Value : Type*} {count : Nat} (address : Call → Option (Fin count))
  (value : Call → Value)

/-- One write, or none where a call addresses no register. -/
def write (registers : Vector Value count) (call : Call) : Vector Value count :=
  match address call with
  | some register => registers.set register (value call)
  | none => registers

/-- The last call that addresses a register. -/
def lastCall (calls : List Call) (register : Fin count) : Option Call :=
  (calls.filter fun call => address call = some register).getLast?

/-- A later call at the register counts before the ones up to it. -/
theorem lastCall_concat (calls : List Call) (call : Call) (register : Fin count)
    : lastCall address (calls ++ [call]) register
      = if address call = some register then some call else lastCall address calls register := by
  by_cases addressed : address call = some register <;>
    simp [lastCall, List.filter_append, addressed]

/-- After any writes a register holds what the last one to it stored, by induction on the
calls from the last one.
-/
theorem foldl_write (calls : List Call) (registers : Vector Value count) (register : Fin count)
    : (calls.foldl (write address value) registers)[register]
      = match lastCall address calls register with
        | some call => value call
        | none => registers[register] := by
  induction calls using List.reverseRecOn with
  | nil => rfl
  | append_singleton calls call ih =>
      rw [List.foldl_concat, lastCall_concat, write]
      cases addressed : address call with
      | none => simpa using ih
      | some other =>
          by_cases same : other = register
          · rw [same, if_pos rfl]
            simp
          · have apart : (other : Nat) ≠ register := fun equal => same (Fin.ext equal)
            rw [if_neg (by simpa using same), ← ih]
            simp [apart]

end Writes

end DummyDrivers.Registers
