import CertRegistry.Http.Call
import CertRegistry.Http.Reply
import CertRegistry.Page
import CertRegistry.Request.Decision
import CertRegistry.Input.Schema

/-!
# Endpoints

How a call is answered. The caller is checked first, then the method; what follows may fail, and a
failure is answered with a refusal, noted in the log, and leaves the store alone. Only a view that
cannot be shown, or an origin that cannot be told, fails after the store has changed.
-/

namespace CertRegistry

namespace Route

/-- Whether only administrators may call a route. -/
def isForStaff : Route → Bool
  | download | submit | ownCertificate | ownRequests => false
  | _ => true

/-- The methods of a route. -/
def methods : Route → List Method
  | certificates | requests | download | ownCertificate | ownRequests => [.get]
  | updateCertificate _ => [.post, .put, .patch]
  | deleteCertificate _ => [.post, .delete]
  | _ => [.post]

/-- What a route does, as the log says it. -/
def action : Route → Text
  | certificates => "listing certificates"
  | newCertificate => "creating certificate"
  | updateCertificate id => "updating certificate " ++ Text.ofNat id
  | deleteCertificate id => "deleting certificate " ++ Text.ofNat id
  | revokeCertificate id => "revoking certificate " ++ Text.ofNat id
  | requests => "listing certificate requests"
  | newRequest => "creating certificate request"
  | approveRequest id => "approving certificate request " ++ Text.ofNat id
  | rejectRequest id => "rejecting certificate request " ++ Text.ofNat id
  | download => "downloading certificate"
  | submit => "creating tenant certificate request"
  | ownCertificate => "getting tenant certificate"
  | ownRequests => "getting tenant certificate requests"

end Route

namespace Endpoint

/-- The certificate that is handed out for download; it is the same for everybody. -/
def sampleCertificate : Text :=
  Text.ofString ("-----BEGIN CERTIFICATE-----\n"
    ++ "MIIBIjANBgkqhkiG9w0BAQEFAAOCAQ8AMIIBCgKCAQEA...\n"
    ++ "-----END CERTIFICATE-----")

/-- What comes of a call: a failure before anything happened, or a store with what was logged and
with a reply, or with a failure to show or to note what was done. -/
abbrev Outcome := Except Failure (Done (Except Failure Reply))

/-- A reply that leaves the store alone. -/
def unchanged (s : Store) (reply : Except Failure Reply) : Outcome :=
  .ok { value := reply, store := s }

/-- Answers for what was done, and notes in the log where the call came from. Where that cannot be
told, it fails after what was done. -/
def noted {α : Type} (d : Done α) (c : Call) (reply : Reply) (text : Text) :
    Done (Except Failure Reply) :=
  match c.origin with
  | .ok origin =>
    { d with
      value := .ok reply
      log := d.log ++ [⟨.info, .endpoints, text ++ " from " ++ origin⟩] }
  | .error f => { d with value := .error f }

/-- Reads the body by a schema and goes on with its values; a body that does not fit is answered
with what is wrong with it. -/
def withBody (schema : Input.Schema) (ctx : Context) (c : Call) (s : Store)
    (next : Input.Values → Outcome) : Outcome := do
  let members ← Input.readBody ctx.settings c.declaredSize c.body
  match ← schema.bind members with
  | .ok values => next values
  | .error es => unchanged s (.ok (.refused 400 (Input.errorsText es)))

/-- A certificate from the values of its submission. -/
def submittedCertificate (vs : Input.Values) : Except Failure Certificate := do
  let ownerId ← Store.userColumn "owner_id" (vs.number "owner_id")
  return {
    name := vs.text "name"
    kind := .ofText (vs.text "type")
    status := .valid
    owner := vs.text "owner"
    ownerId
    content := vs.text "content"
    issued := (vs.moment? "issued_date").map (·.instant)
    expires := ((vs.moment? "expiration_date").map (·.instant)).getD 0 }

/-- A view with its dates as they were submitted. -/
def asSubmitted (vs : Input.Values) (v : CertificateView) : CertificateView :=
  { v with
    issued := ((vs.moment? "issued_date").map (·.text)).or v.issued
    expires := ((vs.moment? "expiration_date").map (·.text)).getD v.expires }

/-- Answers with the certificates of a page. -/
def listCertificates (ctx : Context) (c : Call) (s : Store) : Except Failure Reply := do
  let (page, perPage) ← queryPage ctx.settings c.query
  let (rows, total) ← listPage ctx s.certificates.rows (.int page) perPage
  let views ← rows.mapM CertificateView.ofRow
  return .certificatePage views total

/-- Answers with the requests of a page. -/
def listRequests (ctx : Context) (c : Call) (s : Store) : Except Failure Reply := do
  let (page, perPage) ← queryPage ctx.settings c.query
  let (rows, total) ← listPage ctx s.requests.rows (.int page) perPage
  let views ← rows.mapM RequestView.ofRow
  return .requestPage views total

/-- Records a certificate and answers with it. -/
def create (ctx : Context) (c : Call) (s : Store) : Outcome :=
  withBody Input.certificateSchema ctx c s fun vs => do
    let d ← s.recordCertificate ctx (submittedCertificate vs)
    let view := (CertificateView.ofRow d.value).map (asSubmitted vs)
    return { d with value := view.map fun v => .certificate (some v) }

/-- Changes a certificate and answers with it. -/
def update (ctx : Context) (c : Call) (id : Nat) (s : Store) : Outcome :=
  withBody Input.changeSchema ctx c s fun vs => do
    let expires := (vs.moment? "expiration_date").getD (.ofUtc 0)
    let d ← s.updateCertificate ctx (.ofInt id) (vs.text "name") expires
    let view := (CertificateView.ofRow d.value).map (asSubmitted vs)
    return { d with value := view.map fun v => .certificate (some v) }

/-- Deletes a certificate. -/
def delete (ctx : Context) (id : Nat) (s : Store) : Outcome := do
  let d ← s.deleteCertificate ctx (.ofInt id)
  return { d with value := .ok (.done "Certificate deleted successfully") }

/-- Revokes a certificate. -/
def revoke (ctx : Context) (c : Call) (id : Nat) (s : Store) : Outcome := do
  let d ← s.revokeCertificate ctx (.ofInt id)
  return noted d c (.done "Certificate revoked successfully")
    ("Certificate " ++ Text.ofNat id ++ " revoked by " ++ c.caller.name)

/-- Makes a request for a user and answers with it. -/
def createRequest (ctx : Context) (c : Call) (s : Store) : Outcome :=
  withBody Input.requestSchema ctx c s fun vs => do
    let d ← s.createRequest ctx (Store.newRequest (vs.text "user_name")
      (some (vs.number "user_id")) (.ofText (vs.text "type")) (vs.text "reason"))
    return { d with value := (RequestView.ofRow d.value).map .request }

/-- Approves a request. -/
def approve (ctx : Context) (c : Call) (id : Nat) (s : Store) : Outcome := do
  let d ← s.approveRequest ctx c.caller.name (.ofInt id)
  return noted d c (.done "Certificate request approved successfully")
    ("Request " ++ Text.ofNat id ++ " approved")

/-- Rejects a request. -/
def reject (ctx : Context) (c : Call) (id : Nat) (s : Store) : Outcome :=
  withBody Input.rejectionSchema ctx c s fun vs => do
    let d ← s.rejectRequest ctx c.caller.name (.ofInt id) (some (vs.text "reason"))
    return { d with value := .ok (.done "Certificate request rejected successfully") }

/-- Submits a request of the caller and answers with it. -/
def submit (ctx : Context) (c : Call) (s : Store) : Outcome :=
  withBody Input.tenantRequestSchema ctx c s fun vs => do
    let kind := vs.text "type"
    let d ← s.submitRequest ctx c.caller kind (Store.newRequest c.caller.name c.caller.id?
      (.ofText kind) (vs.text "reason"))
    return { d with value := (RequestView.ofRow d.value).map .request }

/-- Answers with the latest certificate of the caller. -/
def ownCertificate (ctx : Context) (c : Call) (s : Store) : Except Failure Reply := do
  ctx.reachFor 0 (.ofCaller c.caller)
  let view? ← (s.tenantCertificate? (.ofCaller c.caller)).mapM CertificateView.ofRow
  return .certificate view?

/-- Answers with the requests of the caller. -/
def ownRequests (ctx : Context) (c : Call) (s : Store) : Except Failure Reply := do
  ctx.reachFor 0 (.ofCaller c.caller)
  let views ← (s.tenantRequests (.ofCaller c.caller)).mapM RequestView.ofRow
  return .requests views

/-- What a route does for a caller who may call it. -/
def perform (ctx : Context) (c : Call) (s : Store) : Route → Outcome
  | .certificates => unchanged s (listCertificates ctx c s)
  | .newCertificate => create ctx c s
  | .updateCertificate id => update ctx c id s
  | .deleteCertificate id => delete ctx id s
  | .revokeCertificate id => revoke ctx c id s
  | .requests => unchanged s (listRequests ctx c s)
  | .newRequest => createRequest ctx c s
  | .approveRequest id => approve ctx c id s
  | .rejectRequest id => reject ctx c id s
  | .download => unchanged s (.ok (.file sampleCertificate))
  | .submit => submit ctx c s
  | .ownCertificate => unchanged s (ownCertificate ctx c s)
  | .ownRequests => unchanged s (ownRequests ctx c s)

/-- The answer to what came of a call: a failure becomes a refusal and is noted in the log. -/
def conclude (ctx : Context) (action : Text) (s : Store) : Outcome → Done Reply
  | .error f => { value := .ofFailure ctx f, store := s, log := [f.record action] }
  | .ok d =>
    match d.value with
    | .ok reply => { value := reply, store := d.store, log := d.log }
    | .error f => { value := .ofFailure ctx f, store := d.store, log := d.log ++ [f.record action] }

/-- Why a caller may not call a route, if so, and what the log says about it. -/
def denial? (c : Call) (r : Route) : Option (Reply × List LogRecord) :=
  match c.caller with
  | .anonymous => some (.refused 401 "Authentication required", [])
  | .user a =>
    if r.isForStaff && !a.isStaff then
      some (.refused 403 "Permission denied",
        [⟨.warning, .access, "Non-staff user " ++ a.name ++ " denied access to " ++ c.path⟩])
    else none

/-- Whether a route is for a method that a text names. -/
def allows (r : Route) (method : Text) : Bool :=
  match Method.ofText? method with
  | some m => r.methods.contains m
  | none => false

/-- Answers a call to a route. -/
def answerRoute (ctx : Context) (c : Call) (r : Route) (s : Store) : Done Reply :=
  match denial? c r with
  | some (reply, log) => { value := reply, store := s, log }
  | none =>
    if allows r c.method then conclude ctx r.action s (perform ctx c s r)
    else { value := .wrongMethod r.methods, store := s }

/-- Answers a call, unless no route has its path. -/
def answer (ctx : Context) (c : Call) (s : Store) : Option (Done Reply) :=
  (Route.resolve c.path).map fun r => answerRoute ctx c r s

end Endpoint

end CertRegistry
