import CertRegistry.Certificate.Basic

/-!
# Certificate requests

A tenant asks for a certificate; the request stays pending until an administrator approves or
rejects it, and that decision is final. The status of a stored request may be any text.
-/

namespace CertRegistry

/-- The declared statuses of a request by their stored text. -/
def requestStatusNames : List Text := ["pending", "valid", "rejected"]

/-- Whether and how a request was decided; an approved request has become valid. -/
inductive RequestStatus
  | pending
  | valid
  | rejected
  | other (text : Text) (undeclared : text ∉ requestStatusNames)
deriving DecidableEq

namespace RequestStatus

/-- The stored text of a status. -/
def toText : RequestStatus → Text
  | pending => "pending"
  | valid => "valid"
  | rejected => "rejected"
  | other t _ => t

/-- The status with a stored text. -/
def ofText (t : Text) : RequestStatus :=
  if h : t ∈ requestStatusNames then
    if t = "pending" then pending
    else if t = "valid" then valid
    else rejected
  else other t h

@[simp] theorem toText_ofText (t : Text) : (ofText t).toText = t := by
  unfold ofText
  split
  · next h =>
    simp only [requestStatusNames, List.mem_cons, List.not_mem_nil, or_false] at h
    rcases h with h | h | h <;> subst h <;> rfl
  · rfl

@[simp] theorem ofText_toText (s : RequestStatus) : ofText s.toText = s := by
  cases s with
  | other t h => simp [ofText, toText, h]
  | _ => rfl

/-- The declared statuses in order. -/
def declared : List RequestStatus := [pending, valid, rejected]

/-- The label of a status; an undeclared one is its own. -/
def label : RequestStatus → Text
  | pending => "待审核"
  | valid => "已批准"
  | rejected => "已拒绝"
  | other t _ => t

end RequestStatus

/-- A request as it is stored, with who decided it, when, and why it was rejected. -/
structure CertificateRequest where
  userName : Text
  userId : Nat
  kind : CertificateKind
  status : RequestStatus
  reason : Text
  approvedBy : Option Text := none
  approvedAt : Option Instant := none
  rejectedBy : Option Text := none
  rejectedAt : Option Instant := none
  rejectedReason : Option Text := none
deriving DecidableEq

namespace CertificateRequest

/-- A request that waits for a decision. -/
def isPending (r : CertificateRequest) : Bool := r.status = .pending

/-- The title of a request: its user, its kind and its status. -/
def title (r : CertificateRequest) : Text :=
  r.userName ++ " - " ++ r.kind.toText ++ " [" ++ r.status.toText ++ "]"

end CertificateRequest

end CertRegistry
