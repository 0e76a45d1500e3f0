import CertRegistry.Proofs.Store.Log
import CertRegistry.Proofs.Store.Operations

/-!
# The deed of each operation

An operation that succeeds does one deed and logs it; only the deletion of a missing certificate
and a dry run do nothing. One that fails leaves no store behind.
-/

namespace CertRegistry

/-- The deeds that lead from a store to another one, and a log that tells of them. -/
structure Effect (now : Instant) (ds : List Deed) (s t : Store) (log : List LogRecord) : Prop where
  changes : Changes now ds s t
  told : Told log ds

namespace Effect

variable {now : Instant} {d : Deed} {ds es : List Deed} {s t u : Store}
  {log log' : List LogRecord}

lemma none (hquiet : ∀ r ∈ log, r.isNews = false) : Effect now [] s s log :=
  ⟨.nil s, .nil_of_forall hquiet⟩

lemma one {text : Text} (h : Change now d s t) (hlogged : d.isLogged) (htext : d.opening <+: text) :
    Effect now [d] s t [.registry text] :=
  ⟨.single h, .single hlogged htext⟩

lemma append (h : Effect now ds s t log) (h' : Effect now es t u log') :
    Effect now (ds ++ es) s u (log ++ log') :=
  ⟨h.changes.append h'.changes, h.told.append h'.told⟩

lemma append_quiet (h : Effect now ds s t log) (hquiet : ∀ r ∈ log', r.isNews = false) :
    Effect now ds s t (log ++ log') :=
  ⟨h.changes, h.told.append_quiet hquiet⟩

end Effect

namespace Store

variable {ctx : Context} {s : Store}

lemma recordCertificate_effect {c : Except Failure Certificate} {d : Done (Row Certificate)}
    (hc : ∀ c', c = .ok c' → c'.status = .valid) (h : s.recordCertificate ctx c = .ok d) :
    Effect ctx.clock.instant [.record] s d.store d.log := by
  obtain ⟨-, -, -, c', row, t, hc', happ, rfl⟩ := recordCertificate_eq_ok_iff.1 h
  refine .one (.record (hc c' hc') happ) rfl ?_
  simp only [Deed.opening, recordedText, List.append_assoc]
  exact List.prefix_append _ _

lemma updateCertificate_effect {id : Int} {name : Text} {expires : Moment}
    {d : Done (Row Certificate)} (h : s.updateCertificate ctx (.ofInt id) name expires = .ok d) :
    Effect ctx.clock.instant [.update id] s d.store d.log := by
  obtain ⟨-, row, hrow, -, -, rfl⟩ := updateCertificate_eq_ok_iff.1 h
  obtain ⟨hmem, hid⟩ := Table.get?_eq_some_iff.1 hrow
  obtain rfl : id = row.id := Option.some.inj hid
  refine .one (.update hmem name expires.instant) rfl ?_
  simp only [Deed.opening, updatedText, Key.ofInt, List.append_assoc, List.prefix_append_right_inj]
  exact List.prefix_append _ _

lemma revokeCertificate_effect {id : Int} {d : Done (Row Certificate)}
    (h : s.revokeCertificate ctx (.ofInt id) = .ok d) :
    Effect ctx.clock.instant [.revoke id] s d.store d.log := by
  obtain ⟨-, row, hrow, -, -, rfl⟩ := revokeCertificate_eq_ok_iff.1 h
  obtain ⟨hmem, hid⟩ := Table.get?_eq_some_iff.1 hrow
  obtain rfl : id = row.id := Option.some.inj hid
  exact .one (.revoke hmem) rfl (List.prefix_refl _)

/-- Deleting a certificate that is missing only warns. -/
lemma deleteCertificate_effect {id : Int} {d : Done Unit}
    (h : s.deleteCertificate ctx (.ofInt id) = .ok d) :
    Effect ctx.clock.instant [.delete id] s d.store d.log ∨
      s.certificates.find? id = none ∧ d.store = s ∧ ∀ r ∈ d.log, r.isNews = false := by
  obtain ⟨-, -, ⟨row, hrow, rfl⟩ | ⟨hnone, rfl⟩⟩ := deleteCertificate_eq_ok_iff.1 h
  · obtain ⟨hmem, hid⟩ := Table.get?_eq_some_iff.1 hrow
    obtain rfl : id = row.id := Option.some.inj hid
    exact Or.inl (.one (.delete hmem) rfl (List.prefix_refl _))
  · exact Or.inr ⟨hnone, rfl, by simp [LogRecord.isNews]⟩

lemma refresh_effect {dryRun : Bool} {d : Done RefreshCounts}
    (h : s.refresh ctx none dryRun = .ok d) :
    ∃ ds, ds.Sublist (if dryRun then [] else [.refresh]) ∧
      Effect ctx.clock.instant ds s d.store d.log := by
  obtain ⟨span, threshold, -, -, -, -, -, rfl⟩ := refresh_eq_ok_iff.1 h
  cases dryRun with
  | true => exact ⟨[], .refl _, .none (by simp)⟩
  | false =>
    exact ⟨[.refresh], .refl _, .one (.refresh threshold.instant) rfl (List.prefix_append _ _)⟩

lemma createRequest_effect {r : Except Failure CertificateRequest}
    {d : Done (Row CertificateRequest)} (hr : ∀ r', r = .ok r' → r'.IsNew)
    (h : s.createRequest ctx r = .ok d) :
    Effect ctx.clock.instant [.request false] s d.store d.log := by
  obtain ⟨-, -, -, r', row, t, hr', happ, rfl⟩ := createRequest_eq_ok_iff.1 h
  refine .one (.request false (hr r' hr') happ) rfl ?_
  simp only [Deed.opening, requestedText, List.append_assoc]
  exact List.prefix_append _ _

lemma submitRequest_effect {tenant : Caller} {kind : Text} {k : CertificateKind} {reason : Text}
    {d : Done (Row CertificateRequest)}
    (h : s.submitRequest ctx tenant kind (newRequest tenant.name tenant.id? k reason) = .ok d) :
    Effect ctx.clock.instant [.submit] s d.store d.log := by
  obtain ⟨hactive, hnone, -, -, -, r, row, t, hr, happ, rfl⟩ := submitRequest_eq_ok_iff.1 h
  obtain ⟨id, hid, -, rfl⟩ := newRequest_eq_ok_iff.1 hr
  have hkey : Key.ofCaller tenant = .ofInt id := by
    cases tenant with
    | anonymous => simp [Caller.id?] at hid
    | user a => simp [Caller.id?] at hid; simp [Key.ofCaller, hid]
  rw [hkey] at hactive hnone
  refine .one (.submit ⟨rfl, rfl, rfl, rfl, rfl, rfl⟩ hactive hnone happ) rfl ?_
  simp only [Deed.opening, submittedText, List.append_assoc]
  exact List.prefix_append _ _

lemma approveRequest_effect {admin : Text} {id : Int} {d : Done (Row Certificate)}
    (h : s.approveRequest ctx admin (.ofInt id) = .ok d) :
    Effect ctx.clock.instant [.approve id] s d.store d.log := by
  obtain ⟨-, row, span, expires, cert, t, hrow, hpending, -, -, -, -, -, -, happ, rfl⟩ :=
    approveRequest_eq_ok_iff.1 h
  obtain ⟨hmem, hid⟩ := Table.get?_eq_some_iff.1 hrow
  obtain rfl : id = row.id := Option.some.inj hid
  refine .one (.approve hmem hpending admin happ) rfl ?_
  simp only [Deed.opening, Deed.heading, approvedText, Key.ofInt, List.append_assoc,
    List.prefix_append_right_inj]
  exact List.prefix_append _ _

lemma rejectRequest_effect {admin : Text} {id : Int} {reason : Option Text}
    {d : Done (Row CertificateRequest)}
    (h : s.rejectRequest ctx admin (.ofInt id) reason = .ok d) :
    Effect ctx.clock.instant [.reject id] s d.store d.log := by
  obtain ⟨-, row, reason', hrow, hpending, -, -, -, rfl⟩ := rejectRequest_eq_ok_iff.1 h
  obtain ⟨hmem, hid⟩ := Table.get?_eq_some_iff.1 hrow
  obtain rfl : id = row.id := Option.some.inj hid
  refine .one (.reject hmem hpending admin reason') rfl ?_
  simp only [Deed.opening, Deed.heading, rejectedText, Key.ofInt, List.append_assoc,
    List.prefix_append_right_inj]
  exact List.prefix_append _ _

end Store

end CertRegistry
