import CertRegistry.Time.Zone

/-!
# Certificates

A certificate says who holds it, of which kind it is and until when it holds. Its status moves
with time and by revocation. The kind and the status of a stored certificate may be any text, so
both types keep the texts that name none of the declared values.
-/

namespace CertRegistry

/-- The declared kinds by their stored text. -/
def kindNames : List Text :=
  ["client", "server", "code_signing", "email"]

/-- What a certificate is for. -/
inductive CertificateKind
  | client
  | server
  | codeSigning
  | email
  | other (text : Text) (undeclared : text ∉ kindNames)
deriving DecidableEq

namespace CertificateKind

/-- The stored text of a kind. -/
def toText : CertificateKind → Text
  | client => "client"
  | server => "server"
  | codeSigning => "code_signing"
  | email => "email"
  | other t _ => t

/-- The kind with a stored text. -/
def ofText (t : Text) : CertificateKind :=
  if h : t ∈ kindNames then
    if t = "client" then client
    else if t = "server" then server
    else if t = "code_signing" then codeSigning
    else email
  else other t h

@[simp] theorem toText_ofText (t : Text) : (ofText t).toText = t := by
  unfold ofText
  split
  · next h =>
    simp only [kindNames, List.mem_cons, List.not_mem_nil, or_false] at h
    rcases h with h | h | h | h <;> subst h <;> rfl
  · rfl

@[simp] theorem ofText_toText (k : CertificateKind) : ofText k.toText = k := by
  cases k with
  | other t h => simp [ofText, toText, h]
  | _ => rfl

/-- The declared kinds in order. -/
def declared : List CertificateKind := [client, server, codeSigning, email]

/-- The label of a kind; an undeclared one is its own. -/
def label : CertificateKind → Text
  | client => "客户端证书"
  | server => "服务器证书"
  | codeSigning => "代码签名证书"
  | email => "邮件证书"
  | other t _ => t

end CertificateKind

/-- The declared statuses of a certificate by their stored text. -/
def certificateStatusNames : List Text :=
  ["valid", "expiring", "expired", "revoked"]

/-- How far a certificate is in its life. -/
inductive CertificateStatus
  | valid
  | expiring
  | expired
  | revoked
  | other (text : Text) (undeclared : text ∉ certificateStatusNames)
deriving DecidableEq

namespace CertificateStatus

/-- The stored text of a status. -/
def toText : CertificateStatus → Text
  | valid => "valid"
  | expiring => "expiring"
  | expired => "expired"
  | revoked => "revoked"
  | other t _ => t

/-- The status with a stored text. -/
def ofText (t : Text) : CertificateStatus :=
  if h : t ∈ certificateStatusNames then
    if t = "valid" then valid
    else if t = "expiring" then expiring
    else if t = "expired" then expired
    else revoked
  else other t h

@[simp] theorem toText_ofText (t : Text) : (ofText t).toText = t := by
  unfold ofText
  split
  · next h =>
    simp only [certificateStatusNames, List.mem_cons, List.not_mem_nil, or_false] at h
    rcases h with h | h | h | h <;> subst h <;> rfl
  · rfl

@[simp] theorem ofText_toText (s : CertificateStatus) : ofText s.toText = s := by
  cases s with
  | other t h => simp [ofText, toText, h]
  | _ => rfl

/-- The declared statuses in order. -/
def declared : List CertificateStatus := [valid, expiring, expired, revoked]

/-- The label of a status; an undeclared one is its own. -/
def label : CertificateStatus → Text
  | valid => "有效"
  | expiring => "即将过期"
  | expired => "已过期"
  | revoked => "已吊销"
  | other t _ => t

/-- A certificate that can still be used. -/
def isActive : CertificateStatus → Bool
  | valid | expiring => true
  | _ => false

end CertificateStatus

/-- A certificate as it is stored. -/
structure Certificate where
  name : Text
  kind : CertificateKind
  status : CertificateStatus
  owner : Text
  ownerId : Nat
  content : Text
  issued : Option Instant
  expires : Instant
deriving DecidableEq

namespace Certificate

/-- A certificate that can still be used. -/
def isActive (c : Certificate) : Bool := c.status.isActive

/-- The title of a certificate: its name and the label of its status. -/
def title (c : Certificate) : Text := c.name ++ " (" ++ c.status.label ++ ")"

end Certificate

end CertRegistry
