import DummyDrivers.Library.Blocks
import DummyDrivers.Library.LittleEndian

/-! Python's operations on bytes, as far as a program that decodes pixels uses them, and what
its statements for exceptions do with what was written.
-/

namespace DummyDrivers.Python

open DummyDrivers.Blocks
open DummyDrivers.LittleEndian

inductive PyError where
  | structError
  | valueError
  | indexError
  | runtimeError (message : String)
  | zeroDivisionError
  | overflowError
  | keyboardInterrupt
  deriving DecidableEq, Repr

/-- `x << n`, which raises for a negative count. -/
def shiftLeft (x : Nat) (n : Int) : Except PyError Nat :=
  if n < 0 then .error .valueError else .ok (x <<< n.toNat)

/-- `data[k]` for a position from the front. -/
def getByte (data : List UInt8) (k : Nat) : Except PyError UInt8 :=
  match data[k]? with
  | some byte => .ok byte
  | none => .error .indexError

/-- `out[k] = value` on a bytearray. -/
def setByte (out : List UInt8) (k value : Nat) : Except PyError (List UInt8) :=
  if out.length ≤ k then
    .error .indexError
  else if 255 < value then
    .error .valueError
  else
    .ok (out.set k (UInt8.ofNat value))

/-- `struct.unpack` of `count` unsigned little-endian words, which raises unless the data
has exactly their size.
-/
def unpackWords (size count : Nat) (data : List UInt8) : Except PyError (List Nat) :=
  if data.length = size * count then
    .ok ((List.range count).map fun index => leWord (block size data index))
  else
    .error .structError

/-- The number of positions `start, start + step, ..` below a length. -/
def strideCount (length start step : Nat) : Nat := (length - start + step - 1) / step

/-- `data[start::step]` for a positive step. -/
def stride (data : List UInt8) (start step : Nat) : List UInt8 :=
  (List.range (strideCount data.length start step)).map
    fun index => data.getD (start + step * index) 0

/-- `out[start::step] = values`, which raises unless the sizes agree. -/
def assignStride (out : List UInt8) (start step : Nat) (values : List UInt8)
    : Except PyError (List UInt8) :=
  if values.length = strideCount out.length start step then
    .ok (out.mapIdx fun position byte =>
      if start ≤ position ∧ (position - start) % step = 0 then
        values.getD ((position - start) / step) 0
      else
        byte)
  else
    .error .valueError

/-- `x / y` on floats. -/
def trueDiv (x y : Float) : Except PyError Float :=
  if y == 0 then .error .zeroDivisionError else .ok (x / y)

/-- `time.sleep`, as long as no signal comes. It counts nanoseconds in 64 bits, and rounds
them away from zero.
-/
def sleep (secs : Float) : Except PyError Unit :=
  let exact := secs * 1e9
  let nanoseconds := if exact < 0 then exact.floor else exact.ceil
  if secs.isNaN then
    .error .valueError
  else if ¬ (-9223372036854775808 ≤ nanoseconds ∧ nanoseconds < 9223372036854775808) then
    .error .overflowError
  else if nanoseconds < 0 then
    .error .valueError
  else
    .ok ()

/-- What a statement writes, and the exception that it ends with, if any. -/
structure Effect where
  text : String
  raised : Option PyError
  deriving DecidableEq, Repr

def Effect.write (text : String) : Effect := { text, raised := none }

/-- One statement and then another. -/
def Effect.andThen (first next : Effect) : Effect :=
  match first.raised with
  | some _ => first
  | none => { text := first.text ++ next.text, raised := next.raised }

/-- The statement as far as it comes before an interrupt, given by the number of characters
that it has written by then.
-/
def Effect.interrupted (effect : Effect) : Option Nat → Effect
  | none => effect
  | some reached =>
      {
        text := String.ofList (effect.text.toList.take reached)
        raised := some .keyboardInterrupt
      }

/-- `try: .. except kind: pass`. -/
def Effect.passing (effect : Effect) (kind : PyError) : Effect :=
  if effect.raised = some kind then { effect with raised := none } else effect

/-- `try: .. finally: ..`: the last statement runs in every case, and its exception goes
before the other.
-/
def Effect.ensuring (effect last : Effect) : Effect :=
  { text := effect.text ++ last.text, raised := last.raised.or effect.raised }

theorem Effect.passing_text (effect : Effect) (kind : PyError)
    : (effect.passing kind).text = effect.text := by
  rw [Effect.passing]
  split <;> rfl

theorem getByte_ok {data : List UInt8} {k : Nat} (inside : k < data.length)
    : getByte data k = .ok data[k] := by
  rw [getByte, List.getElem?_eq_getElem inside]

/-- Three bytes stored one after the other are a patch. -/
theorem setByte_three {out : List UInt8} {k first second third : Nat}
    (inside : k + 3 ≤ out.length) (small : first ≤ 255 ∧ second ≤ 255 ∧ third ≤ 255)
    : (do
        let out ← setByte out k first
        let out ← setByte out (k + 1) second
        setByte out (k + 2) third)
      = .ok (patch out k [UInt8.ofNat first, UInt8.ofNat second, UInt8.ofNat third]) := by
  obtain ⟨firstSmall, secondSmall, thirdSmall⟩ := small
  have stored : ((out.set k (UInt8.ofNat first)).set (k + 1) (UInt8.ofNat second)).set (k + 2)
        (UInt8.ofNat third)
      = patch out k [UInt8.ofNat first, UInt8.ofNat second, UInt8.ofNat third] :=
    set_three_eq_patch inside
  rw [← stored]
  simp only [setByte]
  rw [if_neg (by omega), if_neg (by omega)]
  simp only [bind, Except.bind, List.length_set]
  rw [if_neg (by omega), if_neg (by omega)]
  simp only [List.length_set]
  rw [if_neg (by omega), if_neg (by omega)]

theorem map_getD_range (words : List Nat)
    : (List.range words.length).map (fun index => words.getD index 0) = words := by
  apply List.ext_getElem?
  intro index
  by_cases inside : index < words.length
  · simp [inside]
  · rw [List.getElem?_eq_none (by simpa using inside), List.getElem?_eq_none (by omega)]

/-- Words of one size are unpacked from their bytes as they were. -/
theorem unpackWords_leBytes {size : Nat} {words : List Nat}
    (small : ∀ word ∈ words, word < 256 ^ size)
    : unpackWords size words.length (words.flatMap (leBytes size)) = .ok words := by
  have packed : words.flatMap (leBytes size)
      = (List.range words.length).flatMap fun index => leBytes size (words.getD index 0) := by
    conv_lhs => rw [← map_getD_range words]
    rw [List.flatMap_map]
  have sized (index : Nat) : (leBytes size (words.getD index 0)).length = size :=
    leBytes_length size _
  rw [unpackWords, packed, if_pos (flatMap_range_length sized words.length)]
  congr 1
  conv_rhs => rw [← map_getD_range words]
  apply List.map_congr_left
  intro index member
  have inside : index < words.length := List.mem_range.mp member
  have word : words.getD index 0 < 256 ^ size := by
    rw [List.getD_eq_getElem?_getD, List.getElem?_eq_getElem inside]
    exact small _ (List.getElem_mem inside)
  rw [block_flatMap sized inside, leWord_leBytes, Nat.mod_eq_of_lt word]

end DummyDrivers.Python
