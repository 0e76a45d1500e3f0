import CertRegistry.Store

/-!
# Upkeep of certificates

The operations on single certificates. An owner is shown the certificate with the largest id among
those held. Revoking is final: no operation here gives a certificate another status.
-/

namespace CertRegistry

/-- A certificate after its revocation. -/
def Certificate.revoke (c : Certificate) : Certificate := { c with status := .revoked }

namespace Store

/-! ### Looking up -/

/-- The certificates that an owner holds, the latest one first. -/
def certificatesOf (s : Store) (owner : Key) : List (Row Certificate) :=
  (s.certificates.rows.filter fun r => some (r.data.ownerId : Int) = owner.id?).reverse

/-- The latest certificate of a tenant, or none. -/
def tenantCertificate? (s : Store) (tenant : Key) : Option (Row Certificate) :=
  (s.certificatesOf tenant).head?

/-- The latest certificate of an owner. -/
def certificateOf (s : Store) (owner : Key) : Except Failure (Row Certificate) :=
  match s.tenantCertificate? owner with
  | some r => .ok r
  | none => .error (.certificateMissing ("owner_id=" ++ owner.shown))

/-- Whether an owner holds an active certificate. -/
def holdsActive (s : Store) (owner : Key) : Bool :=
  (s.certificatesOf owner).any fun r => r.data.isActive

/-! ### Writing -/

/-- A number as the id of a user, if its column can hold it. -/
def userColumn (column : Text) (id : Int) : Except Failure Nat :=
  if Integer.fits id then
    if 0 ≤ id then .ok id.toNat else .error (.negativeColumn column)
  else .error .columnOverflow

/-- What the log says about a certificate that was recorded. -/
def recordedText (id name owner : Text) : Text :=
  "Created certificate " ++ id ++ " (" ++ name ++ ") for owner " ++ owner

/-- Records a certificate that was issued elsewhere. -/
def recordCertificate (ctx : Context) (c : Except Failure Certificate) (s : Store) :
    Except Failure (Done (Row Certificate)) := do
  let (row, s') ← s.addCertificate ctx c
  let text := recordedText (.ofInt row.id) row.data.name (.ofNat row.data.ownerId)
  return { value := row, store := s', log := [.registry text] }

/-- What the log says about a certificate whose name and end were changed. -/
def updatedText (k : Key) (name expires : Text) : Text :=
  "Updated certificate " ++ k.shown ++ ": name=" ++ name ++ ", expiration_date=" ++ expires

/-- Changes the name and the end of a certificate; the end may lie in the past. -/
def updateCertificate (ctx : Context) (k : Key) (name : Text) (expires : Moment) (s : Store) :
    Except Failure (Done (Row Certificate)) := do
  ctx.reachFor minColumn k
  let row ← s.certificate k
  let (row, s') ← s.saveCertificate ctx row { row.data with name, expires := expires.instant }
  return { value := row, store := s', log := [.registry (updatedText k name expires.logText)] }

/-- Deletes a certificate; that there is none is noted in the log. -/
def deleteCertificate (ctx : Context) (k : Key) (s : Store) : Except Failure (Done Unit) := do
  ctx.pass .rowDelete
  ctx.reach
  match s.certificates.get? k with
  | some row =>
    return {
      value := ()
      store := { s with certificates := s.certificates.erase row.id }
      log := [.registry ("Deleted certificate " ++ k.shown)] }
  | none =>
    return {
      value := ()
      store := s
      log := [⟨.warning, .registry, "Delete requested for missing certificate " ++ k.shown⟩] }

/-- Revokes a certificate, whatever its status. -/
def revokeCertificate (ctx : Context) (k : Key) (s : Store) :
    Except Failure (Done (Row Certificate)) := do
  ctx.reachFor minColumn k
  let row ← s.certificate k
  let (row, s') ← s.saveCertificate ctx row row.data.revoke
  return { value := row, store := s', log := [.registry ("Revoked certificate " ++ k.shown)] }

end Store

end CertRegistry
