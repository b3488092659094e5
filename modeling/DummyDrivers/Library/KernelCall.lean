import Mathlib.Data.Nat.Notation

/-! Results of kernel calls that may fail with any error number. -/

namespace DummyDrivers

/-- A positive error number, as the kernel's `E...` constants are. -/
structure Errno where
  code : ℕ
  positive : 0 < code

def enomem : Int := 12

def enodev : Int := 19

def einval : Int := 22

theorem neg_enodev_ne : -enodev ≠ 0 := by decide

/-- `ENOMEM` as an error number. -/
theorem enomem_code_pos : 0 < 12 := by decide

/-- A kernel call succeeds or fails with an error. -/
abbrev KernelCall := Option Errno

/-- The `int` a call returns: zero, or the negated error number. -/
def KernelCall.ret : KernelCall → Int
  | none => 0
  | some error => -error.code

/-- Whether a call fails: `IS_ERR` of the pointer it returns, NULL for an allocation, or a
negative result.
-/
def KernelCall.failed : KernelCall → Bool := Option.isSome

@[simp] theorem KernelCall.ret_none : KernelCall.ret none = 0 := rfl

@[simp] theorem KernelCall.failed_none : KernelCall.failed none = false := rfl

@[simp] theorem KernelCall.failed_some (error : Errno)
    : KernelCall.failed (some error) = true :=
  rfl

theorem KernelCall.ret_some_neg (error : Errno) : KernelCall.ret (some error) < 0 :=
  Int.neg_neg_of_pos (Int.natCast_pos.mpr error.positive)

theorem KernelCall.ret_neg {call : KernelCall} : call.ret < 0 ↔ call ≠ none := by
  cases call with
  | none => simp [KernelCall.ret]
  | some error => exact iff_of_true (ret_some_neg error) nofun

theorem KernelCall.ret_eq_zero {call : KernelCall} : call.ret = 0 ↔ call = none := by
  cases call with
  | none => exact iff_of_true rfl rfl
  | some error => exact iff_of_false (Int.ne_of_lt (ret_some_neg error)) nofun

end DummyDrivers
