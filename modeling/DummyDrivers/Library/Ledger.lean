import Mathlib.Data.Finset.Basic

/-! A ledger of acquired and released resources. Posting an entry that does not fit the
current holdings, such as a release of something that is not held, is recorded as a fault
and changes nothing else.
-/

namespace DummyDrivers.Ledger

variable {Resource : Type*}

inductive Entry (Resource : Type*) where
  | acquire (resource : Resource)
  | release (resource : Resource)
  deriving DecidableEq, Repr

/-- What is held after some entries, and which of them did not fit. -/
structure Account (Resource : Type*) where
  held : Finset Resource
  faults : List (Entry Resource)

def Account.empty : Account Resource := { held := ∅, faults := [] }

/-- A resource is acquired only while it is not held and released only while it is. -/
def Account.post [DecidableEq Resource] (account : Account Resource)
    : Entry Resource → Account Resource
  | .acquire resource =>
      if resource ∈ account.held then
        { account with faults := account.faults ++ [.acquire resource] }
      else
        { account with held := insert resource account.held }
  | .release resource =>
      if resource ∈ account.held then
        { account with held := account.held.erase resource }
      else
        { account with faults := account.faults ++ [.release resource] }

def Account.posts [DecidableEq Resource] (account : Account Resource)
    (entries : List (Entry Resource)) : Account Resource :=
  entries.foldl Account.post account

section Lemmas

variable [DecidableEq Resource] {account : Account Resource} {resource : Resource}

theorem Account.post_acquire (free : resource ∉ account.held)
    : account.post (.acquire resource)
      = { account with held := insert resource account.held } :=
  if_neg free

theorem Account.post_release (held : resource ∈ account.held)
    : account.post (.release resource)
      = { account with held := account.held.erase resource } :=
  if_pos held

end Lemmas

end DummyDrivers.Ledger
