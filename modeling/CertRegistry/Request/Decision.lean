import CertRegistry.Request.Submission

/-!
# Decisions on requests

An administrator decides a pending request once. Approving it issues a certificate to the user who
asked for it, and rejecting it records a reason. The two writes of an approval happen together or
not at all.
-/

namespace CertRegistry

namespace CertificateRequest

/-- The certificate that is issued for a request. -/
def certificate (r : CertificateRequest) (now expires : Instant) : Certificate where
  name := r.userName ++ "-" ++ r.kind.toText ++ "-cert"
  kind := r.kind
  status := .valid
  owner := r.userName
  ownerId := r.userId
  content := []
  issued := some now
  expires := expires

/-- A request after its approval. -/
def approve (r : CertificateRequest) (admin : Text) (now : Instant) : CertificateRequest :=
  { r with status := .valid, approvedBy := some admin, approvedAt := some now }

/-- A request after its rejection. -/
def reject (r : CertificateRequest) (admin : Text) (now : Instant) (reason : Option Text) :
    CertificateRequest :=
  { r with
    status := .rejected
    rejectedBy := some admin
    rejectedAt := some now
    rejectedReason := reason }

end CertificateRequest

namespace Store

/-- The request that a key names, as long as it is pending. -/
def undecided (s : Store) (k : Key) : Except Failure (Row CertificateRequest) := do
  let row ← s.request k
  if row.data.isPending then return row else throw (.alreadyDecided row.data.status.toText)

/-- Approves a pending request and issues its certificate. The name of the administrator is that of
an account, so it can be stored. -/
def approveRequest (ctx : Context) (admin : Text) (k : Key) (s : Store) :
    Except Failure (Done (Row Certificate)) := do
  ctx.reach
  let row ← s.undecided k
  let expires ← ctx.clock.after (← spanOfDays ctx.settings.validityDays)
  let (cert, s') ← s.addCertificate ctx do
    return row.data.certificate (← ctx.now) (← expires.stored)
  let (_, s') ← s'.saveRequest ctx row do return row.data.approve admin (← ctx.now)
  let text := "Request " ++ k.shown ++ " approved by " ++ admin ++ ", issued certificate "
    ++ Text.ofInt cert.id ++ " (" ++ cert.data.name ++ ")"
  return { value := cert, store := s', log := [.registry text] }

/-- Rejects a pending request, if the reason can be stored. The name of the administrator, that of
an account, always can. -/
def rejectRequest (ctx : Context) (admin : Text) (k : Key) (reason : Option Text) (s : Store) :
    Except Failure (Done (Row CertificateRequest)) := do
  ctx.reach
  let row ← s.undecided k
  let (row, s') ← s.saveRequest ctx row do
    return row.data.reject admin (← ctx.now) (← reason.mapM storedText)
  let text := "Request " ++ k.shown ++ " rejected by " ++ admin ++ ": "
    ++ reason.getD Json.null.shown
  return { value := row, store := s', log := [.registry text] }

end Store

end CertRegistry
