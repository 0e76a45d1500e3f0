import CertRegistry.Request.Decision
import CertRegistry.Input.Field
import CertRegistry.Input.Query

/-!
# The change form of requests

An administrator adds a request or changes one by a form. Only what the requesting user said can
be changed, and only as long as the request is pending; the rest is shown and never read from the
form. Every fault of a field is reported by a code, and nothing is saved then.
-/

namespace CertRegistry.ChangeForm

/-- The columns of a certificate that cannot be changed by a form. -/
def readOnlyOfCertificate : List Text := ["created_at", "updated_at"]

/-- The columns of a request that a form never changes. -/
def alwaysReadOnly : List Text :=
  ["status", "approved_by", "approved_at", "rejected_by", "rejected_at", "rejected_reason",
    "created_at", "updated_at"]

/-- The columns of a request that a form changes while it is pending. -/
def changeable : List Text := ["user_name", "user_id", "type", "reason"]

/-- Whether a form can change a request: a new one, or one that is pending. -/
def isOpen : Option CertificateRequest → Bool
  | none => true
  | some r => r.isPending

/-- The columns of a request that cannot be changed by a form. -/
def readOnlyOfRequest (r? : Option CertificateRequest) : List Text :=
  if isOpen r? then alwaysReadOnly else alwaysReadOnly ++ changeable

/-- The names of the fields of a form, in alphabetical order. -/
def fieldNames (r? : Option CertificateRequest) : List Text :=
  if isOpen r? then ["reason", "type", "user_id", "user_name"] else []

/-- What is wrong with a field. -/
inductive Fault
  | required
  | invalid
  | invalidChoice
  | tooLong
  | hasZero
  | tooSmall
  | tooLarge
deriving DecidableEq, Repr

/-- The code of a fault. -/
def Fault.code : Fault → Text
  | required => "required"
  | invalid => "invalid"
  | invalidChoice => "invalid_choice"
  | tooLong => "max_length"
  | hasZero => "null_characters_not_allowed"
  | tooSmall => "min_value"
  | tooLarge => "max_value"

/-- What a form says about a request; a reason that is not there at all leaves the old one. -/
structure Entries where
  userName : Text
  userId : Nat
  kind : CertificateKind
  reason? : Option Text

/-- Reads the name of the user. -/
def readUserName (v : Option Text) : Except (List Fault) Text :=
  let t := (v.getD []).strip
  if t = [] then .error [.required]
  else
    match (if 150 < t.length then [Fault.tooLong] else []) ++ if 0 ∈ t then [.hasZero] else [] with
    | [] => .ok t
    | faults => .error faults

/-- Reads the id of the user. -/
def readUserId (v : Option Text) : Except (List Fault) Nat :=
  let t := v.getD []
  if t = [] then .error [.required]
  else
    match Integer.ofText (Input.dropWholePoint t) with
    | .error _ => .error [.invalid]
    | .ok n =>
      if n < 0 then .error [.tooSmall]
      else if (maxColumn : Int) < n then .error [.tooLarge]
      else .ok n.toNat

/-- Reads the kind of the certificate. -/
def readKind (v : Option Text) : Except (List Fault) CertificateKind :=
  let t := v.getD []
  if t = [] then .error [.required]
  else if t ∈ kindNames then .ok (.ofText t)
  else .error [.invalidChoice]

/-- Reads the reason, which may be missing or blank. -/
def readReason : Option Text → Except (List Fault) (Option Text)
  | none => .ok none
  | some t => if 0 ∈ t.strip then .error [.hasZero] else .ok (some t.strip)

/-- The faults of a field, if it has any. -/
def faultsOf {α : Type} (name : Text) : Except (List Fault) α → List (Text × List Fault)
  | .ok _ => []
  | .error faults => [(name, faults)]

/-- Reads a form: its entries, or the faults of its fields. -/
def read (fields : List (Text × Text)) : Except (List (Text × List Fault)) Entries :=
  let value (name : Text) := Text.Query.get? fields name
  let userName := readUserName (value "user_name")
  let userId := readUserId (value "user_id")
  let kind := readKind (value "type")
  let reason := readReason (value "reason")
  match userName, userId, kind, reason with
  | .ok userName, .ok userId, .ok kind, .ok reason? => .ok { userName, userId, kind, reason? }
  | _, _, _, _ =>
    .error (faultsOf "user_name" userName ++ faultsOf "user_id" userId ++ faultsOf "type" kind
      ++ faultsOf "reason" reason)

/-- The entries of a form, if they can be stored. -/
def Entries.stored (e : Entries) : Except Failure Entries := do
  let userName ← storedText e.userName
  let reason? ← e.reason?.mapM storedText
  return { e with userName, reason? }

/-- A request with the entries of a form. -/
def Entries.apply (e : Entries) (r : CertificateRequest) : CertificateRequest :=
  { r with
    userName := e.userName, userId := e.userId, kind := e.kind, reason := e.reason?.getD r.reason }

/-- A new request with the entries of a form. -/
def Entries.toRequest (e : Entries) : CertificateRequest where
  userName := e.userName
  userId := e.userId
  kind := e.kind
  status := .pending
  reason := e.reason?.getD []

/-- What came of a form: the id of the saved request, or the faults of the fields. -/
abbrev Result := Except (List (Text × List Fault)) Int

/-- The request that a form changes, if it is not for a new one. -/
def changed? (ctx : Context) (id? : Option Int) (s : Store) :
    Except Failure (Option (Row CertificateRequest)) :=
  match id? with
  | none => .ok none
  | some id => do
    ctx.reachFor minColumn (.ofInt id)
    match s.requests.find? id with
    | some row => return some row
    | none => throw (.noRow "CertificateRequest")

/-- Saves a form, as a change of a request or as a new one. -/
def save (ctx : Context) (id? : Option Int) (data : Text) (s : Store) :
    Except Failure (Done Result) := do
  let old ← changed? ctx id? s
  let fields ← Input.readFields ctx.settings data
  match old with
  | none =>
    match read fields with
    | .error faults => return { value := .error faults, store := s }
    | .ok e =>
      let (row, s') ← s.addRequest ctx do return (← e.stored).toRequest
      return { value := .ok row.id, store := s' }
  | some row =>
    if row.data.isPending then
      match read fields with
      | .error faults => return { value := .error faults, store := s }
      | .ok e =>
        let (row, s') ← s.saveRequest ctx row do return (← e.stored).apply row.data
        return { value := .ok row.id, store := s' }
    else
      let (row, s') ← s.saveRequest ctx row (.ok row.data)
      return { value := .ok row.id, store := s' }

end CertRegistry.ChangeForm
