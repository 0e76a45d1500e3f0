import CertRegistry.Text.Basic

/-!
# Accounts

Who acts: an account with its id and its name, or nobody who is known. Administrators are the
accounts of the staff.
-/

namespace CertRegistry

/-- An account of a user. Accounts are stored as well, so the name of an account has no surrogates:
what notes the name of a caller need not ask whether it can be stored. Only a program may hand over
an account that was never stored, and what it submits for that account is checked. -/
structure Account where
  id : Int
  name : Text
  isStaff : Bool := false
deriving DecidableEq

/-- Who makes a call. -/
inductive Caller
  | anonymous
  | user (account : Account)
deriving DecidableEq

namespace Caller

/-- The name of a caller; one who is not known has an empty name. -/
def name : Caller → Text
  | anonymous => []
  | user a => a.name

/-- The id of a caller who is known. -/
def id? : Caller → Option Int
  | anonymous => none
  | user a => some a.id

end Caller

end CertRegistry
