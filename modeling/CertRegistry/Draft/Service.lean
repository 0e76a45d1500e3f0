import CertRegistry.Draft.Basic
import CertRegistry.Request.Decision

/-!
# Services on drafts

The operations of the registry as a program calls them that may give values of any type. What they
answer with is the draft, so the caller sees the values as they were given.
-/

namespace CertRegistry.Draft

/-- Records a certificate from given values. -/
def createCertificate (ctx : Context) (members : List (Text × Json)) (s : Store) :
    Except Failure (Done Draft) := do
  let d ← ofMembers certificateLayout members
  let (d, _, certificates) ← d.save certificateLayout ctx s.certificates
  let text := Store.recordedText d.id.shown (d.value "name").shown (d.value "owner_id").shown
  return { value := d, store := { s with certificates }, log := [.registry text] }

/-- Makes a request from given values; it is pending, whatever they say. -/
def createRequest (ctx : Context) (members : List (Text × Json)) (s : Store) :
    Except Failure (Done Draft) := do
  let d ← ofMembers requestLayout members
  let d := d.put "status" (.json (.text RequestStatus.pending.toText))
  let (d, _, requests) ← d.save requestLayout ctx s.requests
  let text := Store.requestedText d.id.shown (d.value "user_name").shown
  return { value := d, store := { s with requests }, log := [.registry text] }

/-- A stored certificate as a draft. -/
def ofCertificate (r : Row Certificate) : Draft where
  id := .int r.id
  values :=
    let text (t : Text) : Given := .json (.text t)
    let moment (t : Instant) : Given := .moment (.ofUtc t)
    certificateLayout.columns.zip [text r.data.name, text r.data.kind.toText,
      text r.data.status.toText, text r.data.owner, .json (.int r.data.ownerId),
      text r.data.content, r.data.issued.elim (.json .null) moment, moment r.data.expires,
      moment r.createdAt, moment r.updatedAt]

/-- Gives a stored certificate other values and saves all of it. With another id it is saved as
another certificate. -/
def updateCertificate (ctx : Context) (k : Key) (members : List (Text × Json)) (s : Store) :
    Except Failure (Done Draft) := do
  ctx.reachFor minColumn k
  let d ← (ofCertificate (← s.certificate k)).update certificateLayout members
  let (d, _, certificates) ← d.save certificateLayout ctx s.certificates
  return { value := d, store := { s with certificates } }

/-- Changes the name and the end of a certificate. -/
def updateDetails (ctx : Context) (k : Key) (name : Json) (expires : Given) (s : Store) :
    Except Failure (Done Draft) := do
  ctx.reachFor minColumn k
  let d := ((ofCertificate (← s.certificate k)).put "name" (.json name)).put "expiration_date"
    expires
  let (d, _, certificates) ← d.save certificateLayout ctx s.certificates
  let text := Store.updatedText k name.shown expires.shown
  return { value := d, store := { s with certificates }, log := [.registry text] }

/-- The draft of a request of a tenant. -/
def tenantRequest (tenant : Caller) (kind reason : Json) : Draft :=
  let values : List (Text × Json) :=
    [("user_name", .text tenant.name), ("user_id", tenant.id?.elim .null .int), ("type", kind),
      ("reason", reason)]
  values.foldl (fun d v => d.put v.1 (.json v.2)) (blank requestLayout)

/-- Submits a request of a tenant. -/
def submitRequest (ctx : Context) (tenant : Caller) (kind reason : Json) (s : Store) :
    Except Failure (Done Draft) := do
  ctx.reach
  s.checkTenant (.ofCaller tenant)
  let (d, row, requests) ← (tenantRequest tenant kind reason).insert requestLayout ctx s.requests
  let text := Store.submittedText tenant row.id kind.shown
  return { value := d, store := { s with requests }, log := [.registry text] }

/-- Approves the request with a given id. The storage is reached before the id is read. -/
def approveRequest (ctx : Context) (admin : Text) (id : Json) (s : Store) :
    Except Failure (Done (Row Certificate)) := do
  ctx.reach
  s.approveRequest ctx admin (← Key.ofJson "id" id)

/-- Rejects the request with a given id. The storage is reached before the id is read. -/
def rejectRequest (ctx : Context) (admin : Text) (id reason : Json) (s : Store) :
    Except Failure (Done (Row CertificateRequest)) := do
  ctx.reach
  let reason? := match reason with
    | .null => none
    | v => some v.shown
  s.rejectRequest ctx admin (← Key.ofJson "id" id) reason?

end CertRegistry.Draft
