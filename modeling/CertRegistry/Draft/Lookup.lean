import CertRegistry.Page
import CertRegistry.Request.Submission
import CertRegistry.View

/-!
# Look-ups by given values

The look-ups of the registry as a program calls them that may give a value of any type for an id or
an owner. The value is read first. What is found is answered as its view.
-/

namespace CertRegistry.Draft

/-! ### Certificates -/

/-- The certificate with a given id. -/
def certificateById (ctx : Context) (id : Json) (s : Store) : Except Failure CertificateView := do
  let k ← Key.ofJson "id" id
  ctx.reachFor minColumn k
  CertificateView.ofRow (← s.certificate k)

/-- The key of a given owner, once the storage is reached for it. -/
def ownerKey (ctx : Context) (owner : Json) : Except Failure Key := do
  let k ← Key.ofJson "owner_id" owner
  ctx.reachFor 0 k
  return k

/-- The latest certificate of a given owner. -/
def certificateByOwner (ctx : Context) (owner : Json) (s : Store) :
    Except Failure CertificateView := do
  CertificateView.ofRow (← s.certificateOf (← ownerKey ctx owner))

/-- The latest certificate of a given tenant, or none. -/
def tenantCertificate? (ctx : Context) (tenant : Json) (s : Store) :
    Except Failure (Option CertificateView) := do
  (s.tenantCertificate? (← ownerKey ctx tenant)).mapM CertificateView.ofRow

/-- The certificates of a page, and the number of all. -/
def certificatePage (ctx : Context) (page perPage : Json) (s : Store) :
    Except Failure (List CertificateView × Nat) := do
  let (rows, total) ← listPage ctx s.certificates.rows page perPage
  return (← rows.mapM CertificateView.ofRow, total)

/-! ### Requests -/

/-- The request with a given id. -/
def requestById (ctx : Context) (id : Json) (s : Store) : Except Failure RequestView := do
  let k ← Key.ofJson "id" id
  ctx.reachFor minColumn k
  RequestView.ofRow (← s.request k)

/-- The key of a given user, once the storage is reached for it. -/
def userKey (ctx : Context) (user : Json) : Except Failure Key := do
  let k ← Key.ofJson "user_id" user
  ctx.reachFor 0 k
  return k

/-- The requests of a given user, the newest first. -/
def tenantRequests (ctx : Context) (user : Json) (s : Store) :
    Except Failure (List RequestView) := do
  (s.tenantRequests (← userKey ctx user)).mapM RequestView.ofRow

/-- The first pending request of a given user, or none. -/
def pendingRequest? (ctx : Context) (user : Json) (s : Store) :
    Except Failure (Option RequestView) := do
  (s.pendingRequest? (← userKey ctx user)).mapM RequestView.ofRow

/-- The requests of a page, and the number of all. -/
def requestPage (ctx : Context) (page perPage : Json) (s : Store) :
    Except Failure (List RequestView × Nat) := do
  let (rows, total) ← listPage ctx s.requests.rows page perPage
  return (← rows.mapM RequestView.ofRow, total)

end CertRegistry.Draft
