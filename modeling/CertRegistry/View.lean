import CertRegistry.Failure
import CertRegistry.Request.Basic
import CertRegistry.Table
import CertRegistry.Time.Moment

/-!
# Views of records

What the registry shows of its rows: every column, with dates as text in the registry's zone. A
row with a date past the year 9999 there cannot be shown.
-/

namespace CertRegistry

/-- The text of an instant in the registry's zone. -/
def zoneText (t : Instant) : Except Failure Text :=
  match Moment.ofInstant? t with
  | some m => .ok m.text
  | none => .error .zoneOverflow

/-- The text of an instant that may be missing. -/
def zoneText? : Option Instant → Except Failure (Option Text)
  | none => .ok none
  | some t => do return some (← zoneText t)

/-- What is shown of a certificate. -/
structure CertificateView where
  id : Int
  name : Text
  kind : Text
  status : Text
  owner : Text
  ownerId : Nat
  content : Text
  issued : Option Text
  expires : Text
  createdAt : Text
  updatedAt : Text
deriving DecidableEq

/-- What is shown of a request. -/
structure RequestView where
  id : Int
  userName : Text
  userId : Nat
  kind : Text
  status : Text
  reason : Text
  approvedBy : Option Text
  approvedAt : Option Text
  rejectedBy : Option Text
  rejectedAt : Option Text
  rejectedReason : Option Text
  createdAt : Text
  updatedAt : Text
deriving DecidableEq

/-- The view of a certificate. -/
def CertificateView.ofRow (r : Row Certificate) : Except Failure CertificateView := do
  let issued ← zoneText? r.data.issued
  let expires ← zoneText r.data.expires
  let createdAt ← zoneText r.createdAt
  let updatedAt ← zoneText r.updatedAt
  return {
    id := r.id, name := r.data.name, kind := r.data.kind.toText, status := r.data.status.toText
    owner := r.data.owner, ownerId := r.data.ownerId, content := r.data.content
    issued, expires, createdAt, updatedAt }

/-- The view of a request. -/
def RequestView.ofRow (r : Row CertificateRequest) : Except Failure RequestView := do
  let approvedAt ← zoneText? r.data.approvedAt
  let rejectedAt ← zoneText? r.data.rejectedAt
  let createdAt ← zoneText r.createdAt
  let updatedAt ← zoneText r.updatedAt
  return {
    id := r.id, userName := r.data.userName, userId := r.data.userId, kind := r.data.kind.toText
    status := r.data.status.toText, reason := r.data.reason, approvedBy := r.data.approvedBy
    approvedAt, rejectedBy := r.data.rejectedBy, rejectedAt
    rejectedReason := r.data.rejectedReason, createdAt, updatedAt }

/-- A text that may be missing, as JSON. -/
def Json.ofText? : Option Text → Json
  | some t => .text t
  | none => .null

/-- The members of the view of a certificate. -/
def CertificateView.toJson (v : CertificateView) : Json :=
  .object [("id", .int v.id), ("name", .text v.name), ("type", .text v.kind),
    ("status", .text v.status), ("owner", .text v.owner), ("owner_id", .int v.ownerId),
    ("content", .text v.content), ("issued_date", .ofText? v.issued),
    ("expiration_date", .text v.expires), ("created_at", .text v.createdAt),
    ("updated_at", .text v.updatedAt)]

/-- The members of the view of a request. -/
def RequestView.toJson (v : RequestView) : Json :=
  .object [("id", .int v.id), ("user_name", .text v.userName), ("user_id", .int v.userId),
    ("type", .text v.kind), ("status", .text v.status), ("reason", .text v.reason),
    ("approved_by", .ofText? v.approvedBy), ("approved_at", .ofText? v.approvedAt),
    ("rejected_by", .ofText? v.rejectedBy), ("rejected_at", .ofText? v.rejectedAt),
    ("rejected_reason", .ofText? v.rejectedReason), ("created_at", .text v.createdAt),
    ("updated_at", .text v.updatedAt)]

end CertRegistry
