import CertRegistry.Proofs.Step.Entitlement
import CertRegistry.Proofs.Step.Law

/-!
# The declared columns

The columns of a record declare which values they are for: kinds and statuses from a list, texts up
to a length, ids that a column can hold. The database checks none of the lists and lengths, so that
they hold rests on everything that writes a record: the schemas and the form check what they read,
and what is issued for a request is no longer than its parts allow.
-/

namespace CertRegistry

/-- The columns of a certificate hold what they are declared for. -/
structure Certificate.IsDeclared (c : Certificate) : Prop where
  kind : c.kind ∈ CertificateKind.declared
  status : c.status ∈ CertificateStatus.declared
  name : c.name.length ≤ 255
  owner : c.owner.length ≤ 150
  ownerId : c.ownerId ≤ maxColumn

/-- The columns of a request hold what they are declared for. -/
structure CertificateRequest.IsDeclared (r : CertificateRequest) : Prop where
  kind : r.kind ∈ CertificateKind.declared
  status : r.status ∈ RequestStatus.declared
  userName : r.userName.length ≤ 150
  approvedBy : ∀ admin ∈ r.approvedBy, admin.length ≤ 150
  rejectedBy : ∀ admin ∈ r.rejectedBy, admin.length ≤ 150
  userId : r.userId ≤ maxColumn

lemma CertificateKind.length_toText_le {k : CertificateKind} (h : k ∈ declared) :
    k.toText.length ≤ 12 := by
  revert k
  decide

namespace Endpoint

lemma submittedCertificate_isDeclared {vs : Input.Values} {c : Certificate}
    (hvs : Input.certificateSchema.Gives vs) (h : submittedCertificate vs = .ok c) :
    c.IsDeclared := by
  have hnames : (Input.certificateSchema.map Input.Field.name).Nodup := by decide
  have hkind := hvs.kind hnames (by simp [Input.certificateSchema])
  have hname : (vs.text "name").length ≤ 255 := hvs.length_le hnames List.mem_cons_self
  have howner : (vs.text "owner").length ≤ 150 :=
    hvs.length_le hnames (.tail _ (.tail _ List.mem_cons_self))
  simp only [submittedCertificate, bind_eq_ok_iff, Store.userColumn_eq_ok_iff, pure_eq_ok_iff] at h
  obtain ⟨id, ⟨-, hid⟩, rfl⟩ := h
  exact ⟨CertificateKind.ofText_mem_declared hkind, List.mem_cons_self, hname, howner, hid⟩

end Endpoint

namespace CertificateRequest

variable {r : CertificateRequest}

lemma isDeclared_of_newRequest {userName reason : Text} {userId : Option Int} {kind : Text}
    (hname : userName.length ≤ 150) (hkind : kind ∈ kindNames)
    (h : Store.newRequest userName userId (.ofText kind) reason = .ok r) : r.IsDeclared := by
  obtain ⟨id, -, hid, rfl⟩ := Store.newRequest_eq_ok_iff.1 h
  exact ⟨CertificateKind.ofText_mem_declared hkind, List.mem_cons_self, hname, nofun, nofun, hid⟩

/-- The certificate that is issued for a request has a name that fits: there is room for the longest
kind beside the longest name of a user. -/
lemma IsDeclared.certificate (h : r.IsDeclared) (now expires : Instant) :
    (r.certificate now expires).IsDeclared where
  kind := h.kind
  status := List.mem_cons_self
  name := by
    have hkind := CertificateKind.length_toText_le h.kind
    have huser := h.userName
    have hname : (r.certificate now expires).name.length
        = r.userName.length + (r.kind.toText.length + 5 + 1) := by
      simp [CertificateRequest.certificate, Text.ofString]
    rw [hname]
    omega
  owner := h.userName
  ownerId := h.userId

lemma IsDeclared.approve (h : r.IsDeclared) {admin : Text} (hadmin : admin.length ≤ 150)
    (now : Instant) : (r.approve admin now).IsDeclared where
  __ := h
  status := by simp [CertificateRequest.approve, RequestStatus.declared]
  approvedBy := fun _ ht => Option.mem_some.1 ht ▸ hadmin

lemma IsDeclared.reject (h : r.IsDeclared) {admin : Text} (hadmin : admin.length ≤ 150)
    (now : Instant) (reason : Option Text) : (r.reject admin now reason).IsDeclared where
  __ := h
  status := by simp [CertificateRequest.reject, RequestStatus.declared]
  rejectedBy := fun _ ht => Option.mem_some.1 ht ▸ hadmin

end CertificateRequest

/-- The columns hold what they are declared for. -/
def Law.declared : Law where
  certificate := Certificate.IsDeclared
  request := CertificateRequest.IsDeclared

/-- Those who act with names that fit keep the columns as they are declared. -/
lemma Law.declared_isKept : Law.declared.IsKept fun name => name.length ≤ 150 where
  record hvs hc := Endpoint.submittedCertificate_isDeclared hvs hc
  update expires hvs h := by
    have hname := hvs.length_le (by decide) List.mem_cons_self
    exact { h with name := hname }
  move hstatus h := { h with status := hstatus }
  issue now expires _ h := h.certificate now expires
  request hvs hr := by
    have hnames : (Input.requestSchema.map Input.Field.name).Nodup := by decide
    have hkind := hvs.kind hnames (by simp [Input.requestSchema])
    have hname := hvs.length_le hnames List.mem_cons_self
    exact CertificateRequest.isDeclared_of_newRequest hname hkind hr
  submit htenant hvs hr := by
    have hkind := hvs.kind (by decide) List.mem_cons_self
    exact CertificateRequest.isDeclared_of_newRequest htenant hkind hr
  add he := ⟨he.kind, List.mem_cons_self, he.userName, nofun, nofun, he.userId⟩
  edit he _ h := { h with userName := he.userName, userId := he.userId, kind := he.kind }
  approve now hadmin _ h := h.approve hadmin now
  reject now hadmin _ _ h := h.reject hadmin now _

namespace Step

/-- After any run from the empty store of those whose names fit, the columns hold what they are
declared for. -/
theorem runAll_declared {run : List (Context × Step)}
    (hrun : ∀ p ∈ run, p.2.actor.name.length ≤ 150) :
    (∀ row ∈ (runAll {} run).certificates.rows, row.data.IsDeclared) ∧
    ∀ row ∈ (runAll {} run).requests.rows, row.data.IsDeclared := by
  have h := runAll_obeys Law.declared_isKept hrun (Store.obeys_empty Law.declared)
  exact ⟨h.certificates, h.requests⟩

theorem declared_after_twoSubmissions :
    (∀ p ∈ twoSubmissions, p.2.actor.name.length ≤ 150) ∧
    (∃ row ∈ (runAll {} twoSubmissions).certificates.rows, row.data.IsDeclared) ∧
    ∃ row ∈ (runAll {} twoSubmissions).requests.rows, row.data.IsDeclared := by
  have hrun : ∀ p ∈ twoSubmissions, p.2.actor.name.length ≤ 150 := by decide
  have hcertificate : ∃ row, row ∈ (runAll {} twoSubmissions).certificates.rows :=
    List.exists_mem_of_ne_nil _ (by decide +kernel)
  have hrequest : ∃ row, row ∈ (runAll {} twoSubmissions).requests.rows :=
    List.exists_mem_of_ne_nil _ (by decide +kernel)
  obtain ⟨certificate, hcertificate⟩ := hcertificate
  obtain ⟨request, hrequest⟩ := hrequest
  have hdeclared := runAll_declared hrun
  exact ⟨hrun, ⟨certificate, hcertificate, hdeclared.1 certificate hcertificate⟩,
    request, hrequest, hdeclared.2 request hrequest⟩

end Step

end CertRegistry
