import CertRegistry.Account
import CertRegistry.Certificate.Upkeep

/-!
# Submission of requests

A tenant may ask for a certificate while holding none that is active and while no other request
of the tenant is pending. An administrator may make a request for a user at any time. Either way
the request is pending.
-/

namespace CertRegistry

namespace Store

/-! ### Looking up -/

/-- The requests of a user, in the order of their ids. -/
def requestsOf (s : Store) (user : Key) : List (Row CertificateRequest) :=
  s.requests.rows.filter fun r => some (r.data.userId : Int) = user.id?

/-- A request comes before another one in the view of its user: it is newer, or as old and its id
is larger. -/
def isNewer (a b : Row CertificateRequest) : Bool :=
  decide (b.createdAt < a.createdAt) || (a.createdAt = b.createdAt && decide (b.id ≤ a.id))

/-- The requests of a user, the newest first. -/
def tenantRequests (s : Store) (user : Key) : List (Row CertificateRequest) :=
  (s.requestsOf user).mergeSort isNewer

/-- The first pending request of a user. -/
def pendingRequest? (s : Store) (user : Key) : Option (Row CertificateRequest) :=
  (s.requestsOf user).find? fun r => r.data.isPending

/-! ### Writing -/

/-- A pending request, if its columns can hold it. -/
def newRequest (userName : Text) (userId : Option Int) (kind : CertificateKind) (reason : Text) :
    Except Failure CertificateRequest :=
  match userId with
  | none => .error (.emptyColumn "certificate_request" "user_id")
  | some id => do
    let userId ← userColumn "user_id" id
    return { userName, userId, kind, status := .pending, reason }

/-- What the log says about a request that an administrator made. -/
def requestedText (id userName : Text) : Text :=
  "Created certificate request " ++ id ++ " for user " ++ userName

/-- Makes a request for a user, whatever the user holds. -/
def createRequest (ctx : Context) (r : Except Failure CertificateRequest) (s : Store) :
    Except Failure (Done (Row CertificateRequest)) := do
  let (row, s') ← s.addRequest ctx r
  let text := requestedText (.ofInt row.id) row.data.userName
  return { value := row, store := s', log := [.registry text] }

/-- Fails if a tenant holds an active certificate or has a pending request. -/
def checkTenant (tenant : Key) (s : Store) : Except Failure Unit :=
  if s.holdsActive tenant then .error .certificateExists
  else if (s.pendingRequest? tenant).isSome then .error .requestExists
  else .ok ()

/-- What the log says about a request that a tenant submitted. -/
def submittedText (tenant : Caller) (id : Int) (kind : Text) : Text :=
  "User " ++ tenant.name ++ " submitted certificate request " ++ Text.ofInt id
    ++ " (" ++ kind ++ ")"

/-- Submits a request of a tenant, unless the tenant holds an active certificate or has a pending
request. The kind is logged as it was given. The name of the tenant is that of an account, so it can
be stored. -/
def submitRequest (ctx : Context) (tenant : Caller) (kind : Text)
    (r : Except Failure CertificateRequest) (s : Store) :
    Except Failure (Done (Row CertificateRequest)) := do
  ctx.reach
  s.checkTenant (.ofCaller tenant)
  let (row, s') ← s.addRequest ctx r
  return { value := row, store := s', log := [.registry (submittedText tenant row.id kind)] }

end Store

end CertRegistry
