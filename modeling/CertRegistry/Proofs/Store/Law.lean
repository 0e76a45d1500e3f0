import CertRegistry.Http.Endpoint
import CertRegistry.Proofs.Admin.ChangeForm
import CertRegistry.Proofs.Certificate.Refresh
import CertRegistry.Proofs.Input.Values

/-!
# Laws for records

A law says what the certificates and the requests of a store are like, each on its own. It is kept
if everything obeys it that the registry writes for those who may act: what it reads from bodies and
forms, and what it makes of records that obey the law. An operation that writes such records leaves
a store that obeys the law.
-/

namespace CertRegistry

/-- Every row of a table records something of a kind. -/
def Table.All {α : Type} (P : α → Prop) (t : Table α) : Prop := ∀ row ∈ t.rows, P row.data

namespace Table.All

variable {α : Type} {P : α → Prop} {t u : Table α} {row : Row α} {now : Instant} {a : α}

lemma append? (h : t.All P) (ha : P a) (happ : t.append? now a = some (row, u)) : u.All P := by
  intro r hr
  rcases (Table.mem_rows_append? happ).1 hr with hr | rfl
  · exact h r hr
  · rw [Table.append?_row happ]
    exact ha

lemma change (h : t.All P) (ha : P a) : (t.change row now a).All P := by
  intro r hr
  rw [Table.rows_change, List.mem_map] at hr
  obtain ⟨old, hold, rfl⟩ := hr
  split_ifs
  · exact ha
  · exact h old hold

lemma erase (h : t.All P) (id : Int) : (t.erase id).All P := by
  intro r hr
  exact h r (Table.mem_rows_erase.1 hr).1

end Table.All

/-- A law for the records of a store. -/
structure Law where
  certificate : Certificate → Prop
  request : CertificateRequest → Prop

/-- All records of a store obey a law. -/
structure Store.Obeys (s : Store) (l : Law) : Prop where
  certificates : s.certificates.All l.certificate
  requests : s.requests.All l.request

/-- A law that the registry keeps, as long as those who act have names of some kind. -/
structure Law.IsKept (l : Law) (actor : Text → Prop) : Prop where
  /-- of a certificate that is recorded -/
  record {vs : Input.Values} {c : Certificate} : Input.certificateSchema.Gives vs →
    Endpoint.submittedCertificate vs = .ok c → l.certificate c
  /-- of a certificate whose name and end are changed -/
  update {vs : Input.Values} {c : Certificate} (expires : Instant) :
    Input.changeSchema.Gives vs → l.certificate c →
      l.certificate { c with name := vs.text "name", expires }
  /-- of a certificate that is revoked or refreshed -/
  move {c : Certificate} {status : CertificateStatus} : status ∈ CertificateStatus.declared →
    l.certificate c → l.certificate { c with status }
  /-- of a certificate that is issued for a request -/
  issue {r : CertificateRequest} (now expires : Instant) : r.isPending → l.request r →
    l.certificate (r.certificate now expires)
  /-- of a request that an administrator makes -/
  request {vs : Input.Values} {r : CertificateRequest} : Input.requestSchema.Gives vs →
    Store.newRequest (vs.text "user_name") (some (vs.number "user_id")) (.ofText (vs.text "type"))
      (vs.text "reason") = .ok r → l.request r
  /-- of a request that a tenant makes -/
  submit {vs : Input.Values} {tenant : Caller} {r : CertificateRequest} : actor tenant.name →
    Input.tenantRequestSchema.Gives vs →
    Store.newRequest tenant.name tenant.id? (.ofText (vs.text "type")) (vs.text "reason") = .ok r →
      l.request r
  /-- of a request that is added by a form -/
  add {e : ChangeForm.Entries} : e.IsRead → l.request e.toRequest
  /-- of a request that is changed by a form -/
  edit {e : ChangeForm.Entries} {r : CertificateRequest} : e.IsRead → r.isPending → l.request r →
    l.request (e.apply r)
  /-- of a request that is approved -/
  approve {admin : Text} {r : CertificateRequest} (now : Instant) : actor admin → r.isPending →
    l.request r → l.request (r.approve admin now)
  /-- of a request that is rejected, for a reason that is not blank -/
  reject {admin reason : Text} {r : CertificateRequest} (now : Instant) : actor admin →
    reason.strip ≠ [] → r.isPending → l.request r → l.request (r.reject admin now (some reason))

namespace Store

variable {l : Law} {actor : Text → Prop} {ctx : Context} {s : Store}

@[simp] lemma obeys_empty (l : Law) : ({} : Store).Obeys l :=
  ⟨fun _ hr => absurd hr List.not_mem_nil, fun _ hr => absurd hr List.not_mem_nil⟩

/-! ### Operations on certificates -/

lemma recordCertificate_obeys {c : Except Failure Certificate} {d : Done (Row Certificate)}
    (h : s.Obeys l) (hc : ∀ c', c = .ok c' → l.certificate c')
    (hd : s.recordCertificate ctx c = .ok d) : d.store.Obeys l := by
  obtain ⟨-, -, -, c', row, t, hc', happ, rfl⟩ := recordCertificate_eq_ok_iff.1 hd
  exact ⟨h.certificates.append? (hc c' hc') happ, h.requests⟩

lemma updateCertificate_obeys {k : Key} {name : Text} {expires : Moment}
    {d : Done (Row Certificate)} (h : s.Obeys l)
    (hc : ∀ c, l.certificate c → l.certificate { c with name, expires := expires.instant })
    (hd : s.updateCertificate ctx k name expires = .ok d) : d.store.Obeys l := by
  obtain ⟨-, row, hrow, -, -, rfl⟩ := updateCertificate_eq_ok_iff.1 hd
  have hold := h.certificates row (Table.get?_eq_some_iff.1 hrow).1
  exact ⟨h.certificates.change (hc _ hold), h.requests⟩

lemma revokeCertificate_obeys {k : Key} {d : Done (Row Certificate)} (hl : l.IsKept actor)
    (h : s.Obeys l) (hd : s.revokeCertificate ctx k = .ok d) : d.store.Obeys l := by
  obtain ⟨-, row, hrow, -, -, rfl⟩ := revokeCertificate_eq_ok_iff.1 hd
  have hold := h.certificates row (Table.get?_eq_some_iff.1 hrow).1
  exact ⟨h.certificates.change (hl.move (by decide) hold), h.requests⟩

lemma deleteCertificate_obeys {k : Key} {d : Done Unit} (h : s.Obeys l)
    (hd : s.deleteCertificate ctx k = .ok d) : d.store.Obeys l := by
  obtain ⟨-, -, ⟨row, -, rfl⟩ | ⟨-, rfl⟩⟩ := deleteCertificate_eq_ok_iff.1 hd
  · exact ⟨h.certificates.erase row.id, h.requests⟩
  · exact h

lemma refresh_obeys {reference : Option Moment} {dryRun : Bool} {d : Done RefreshCounts}
    (hl : l.IsKept actor) (h : s.Obeys l) (hd : s.refresh ctx reference dryRun = .ok d) :
    d.store.Obeys l := by
  obtain ⟨span, threshold, -, -, -, -, -, rfl⟩ := refresh_eq_ok_iff.1 hd
  cases dryRun with
  | true => exact h
  | false =>
    refine ⟨fun r hr => ?_, h.requests⟩
    have hr : r ∈ (Refresh.run _ threshold.instant s.certificates).2.rows := hr
    rw [Refresh.rows_run, List.mem_map] at hr
    obtain ⟨old, hold, rfl⟩ := hr
    rcases Refresh.refreshRow_cases _ threshold.instant old with heq | ⟨status, hmoves, heq⟩
    · rw [heq]
      exact h.certificates old hold
    · rw [heq]
      refine hl.move ?_ (h.certificates old hold)
      cases hmoves <;> decide

/-! ### Operations on requests -/

lemma createRequest_obeys {r : Except Failure CertificateRequest}
    {d : Done (Row CertificateRequest)} (h : s.Obeys l) (hr : ∀ r', r = .ok r' → l.request r')
    (hd : s.createRequest ctx r = .ok d) : d.store.Obeys l := by
  obtain ⟨-, -, -, r', row, t, hr', happ, rfl⟩ := createRequest_eq_ok_iff.1 hd
  exact ⟨h.certificates, h.requests.append? (hr r' hr') happ⟩

lemma submitRequest_obeys {tenant : Caller} {kind : Text} {r : Except Failure CertificateRequest}
    {d : Done (Row CertificateRequest)} (h : s.Obeys l) (hr : ∀ r', r = .ok r' → l.request r')
    (hd : s.submitRequest ctx tenant kind r = .ok d) : d.store.Obeys l := by
  obtain ⟨-, -, -, -, -, r', row, t, hr', happ, rfl⟩ := submitRequest_eq_ok_iff.1 hd
  exact ⟨h.certificates, h.requests.append? (hr r' hr') happ⟩

lemma approveRequest_obeys {admin : Text} {k : Key} {d : Done (Row Certificate)}
    (hl : l.IsKept actor) (hadmin : actor admin) (h : s.Obeys l)
    (hd : s.approveRequest ctx admin k = .ok d) : d.store.Obeys l := by
  obtain ⟨-, row, span, expires, cert, t, hrow, hpending, -, -, -, -, -, -, happ, rfl⟩ :=
    approveRequest_eq_ok_iff.1 hd
  have hold := h.requests row (Table.get?_eq_some_iff.1 hrow).1
  exact ⟨h.certificates.append? (hl.issue _ _ hpending hold) happ,
    h.requests.change (hl.approve _ hadmin hpending hold)⟩

lemma rejectRequest_obeys {admin reason : Text} {k : Key} {d : Done (Row CertificateRequest)}
    (hl : l.IsKept actor) (hadmin : actor admin) (hreason : reason.strip ≠ []) (h : s.Obeys l)
    (hd : s.rejectRequest ctx admin k (some reason) = .ok d) : d.store.Obeys l := by
  obtain ⟨-, row, reason', hrow, hpending, -, -, hstored, rfl⟩ := rejectRequest_eq_ok_iff.1 hd
  obtain rfl := ChangeForm.mapM_storedText_eq_ok hstored
  have hold := h.requests row (Table.get?_eq_some_iff.1 hrow).1
  exact ⟨h.certificates, h.requests.change (hl.reject _ hadmin hreason hpending hold)⟩

end Store

end CertRegistry
