import CertRegistry.Proofs.Store.Operations

/-!
# Faults of the operations

An operation on the store fails by a fault of the registry's own, be it that a row is missing, that
it has been decided already, that a column cannot hold a value, or that the storage breaks down. The
submission of a tenant is the only one that may also be refused. No operation fails because a date
cannot be shown: nothing is shown before the operation is done.
-/

namespace CertRegistry

variable {ctx : Context} {s : Store}

lemma Failure.ne_zoneOverflow_of_status {f : Failure} (h : f.status = 500) : f ≠ .zoneOverflow := by
  rintro rfl
  exact absurd h (by decide)

/-- A fault of the registry's own that is none of its rules. -/
def Failure.IsFault (f : Failure) : Prop := f.status = 500 ∧ f.isRule = false

/-! ### Guards and values -/

lemma Context.pass_failsWith (ctx : Context) (site : FaultSite) :
    FailsWith Failure.IsFault (ctx.pass site) := by
  simp only [Context.pass]
  split
  · split_ifs
    · exact .error ⟨rfl, rfl⟩
    · exact .ok _
  · exact .ok _

lemma Context.reach_failsWith (ctx : Context) : FailsWith Failure.IsFault ctx.reach := by
  simp only [Context.reach]
  split_ifs
  · exact .ok _
  · exact .error ⟨rfl, rfl⟩

lemma Context.reachFor_failsWith (ctx : Context) (least : Int) (k : Key) :
    FailsWith Failure.IsFault (ctx.reachFor least k) := by
  simp only [Context.reachFor]
  split_ifs
  · exact ctx.reach_failsWith
  · exact .ok _

lemma Moment.stored_failsWith (m : Moment) : FailsWith Failure.IsFault m.stored := by
  simp only [Moment.stored]
  split_ifs
  · exact .ok _
  · exact .error ⟨rfl, rfl⟩

lemma Context.now_failsWith (ctx : Context) : FailsWith Failure.IsFault ctx.now :=
  ctx.clock.stored_failsWith

lemma storedText_failsWith (t : Text) : FailsWith Failure.IsFault (storedText t) := by
  simp only [storedText]
  split_ifs
  · exact .error ⟨rfl, rfl⟩
  · exact .ok _

/-! ### Failures with the status of a fault -/

lemma Context.pass_faults (ctx : Context) (site : FaultSite) :
    FailsWith (·.status = 500) (ctx.pass site) :=
  (ctx.pass_failsWith site).mono fun _ => And.left

lemma Context.reach_faults (ctx : Context) : FailsWith (·.status = 500) ctx.reach :=
  ctx.reach_failsWith.mono fun _ => And.left

lemma Context.reachFor_faults (ctx : Context) (least : Int) (k : Key) :
    FailsWith (·.status = 500) (ctx.reachFor least k) :=
  (ctx.reachFor_failsWith least k).mono fun _ => And.left

lemma Moment.stored_faults (m : Moment) : FailsWith (·.status = 500) m.stored :=
  m.stored_failsWith.mono fun _ => And.left

lemma Context.now_faults (ctx : Context) : FailsWith (·.status = 500) ctx.now :=
  ctx.clock.stored_faults

lemma storedText_faults (t : Text) : FailsWith (·.status = 500) (storedText t) :=
  (storedText_failsWith t).mono fun _ => And.left

lemma Moment.after_faults (m : Moment) (span : Int) :
    FailsWith (·.status = 500) (m.after span) := by
  simp only [Moment.after]
  split_ifs
  · exact .ok _
  · exact .error rfl

lemma checkSpan_faults (span : Int) : FailsWith (·.status = 500) (checkSpan span) := by
  simp only [checkSpan]
  split_ifs
  · exact .error rfl
  · exact .error rfl
  · exact .ok _

lemma spanOfDays_faults (days : Json) : FailsWith (·.status = 500) (spanOfDays days) := by
  simp only [spanOfDays]
  split
  · exact checkSpan_faults _
  · exact checkSpan_faults _
  · exact .error rfl
  · exact .error rfl
  · exact checkSpan_faults _
  · exact .error rfl

namespace Store

/-! ### Rows -/

lemma userColumn_faults (column : Text) (id : Int) :
    FailsWith (·.status = 500) (userColumn column id) := by
  simp only [userColumn]
  split_ifs
  · exact .ok _
  · exact .error rfl
  · exact .error rfl

lemma newRequest_faults (userName : Text) (userId : Option Int) (kind : CertificateKind)
    (reason : Text) : FailsWith (·.status = 500) (newRequest userName userId kind reason) := by
  cases userId with
  | none => exact .error rfl
  | some id => exact (userColumn_faults _ id).bind fun _ => .ok _

lemma certificate_faults (k : Key) : FailsWith (·.status = 500) (s.certificate k) := by
  simp only [certificate]
  split
  · exact .ok _
  · exact .error rfl

lemma request_faults (k : Key) : FailsWith (·.status = 500) (s.request k) := by
  simp only [request]
  split
  · exact .ok _
  · exact .error rfl

lemma undecided_faults (k : Key) : FailsWith (·.status = 500) (s.undecided k) := by
  refine (request_faults k).bind fun row => ?_
  split_ifs
  · exact .ok _
  · exact .error rfl

lemma addCertificate_faults {c : Except Failure Certificate} (hc : FailsWith (·.status = 500) c) :
    FailsWith (·.status = 500) (s.addCertificate ctx c) := by
  refine (ctx.pass_faults _).bind fun _ => ctx.reach_faults.bind fun _ => ?_
  refine ctx.now_faults.bind fun _ => hc.bind fun _ => ?_
  split
  · exact .ok _
  · exact .error rfl

lemma addRequest_faults {r : Except Failure CertificateRequest}
    (hr : FailsWith (·.status = 500) r) : FailsWith (·.status = 500) (s.addRequest ctx r) := by
  refine (ctx.pass_faults _).bind fun _ => ctx.reach_faults.bind fun _ => ?_
  refine ctx.now_faults.bind fun _ => hr.bind fun _ => ?_
  split
  · exact .ok _
  · exact .error rfl

lemma saveCertificate_failsWith (row : Row Certificate) (c : Certificate) :
    FailsWith Failure.IsFault (s.saveCertificate ctx row c) :=
  (ctx.pass_failsWith _).bind fun _ => ctx.now_failsWith.bind fun _ => .ok _

lemma saveCertificate_faults (row : Row Certificate) (c : Certificate) :
    FailsWith (·.status = 500) (s.saveCertificate ctx row c) :=
  (saveCertificate_failsWith row c).mono fun _ => And.left

lemma saveRequest_faults (row : Row CertificateRequest) {r : Except Failure CertificateRequest}
    (hr : FailsWith (·.status = 500) r) : FailsWith (·.status = 500) (s.saveRequest ctx row r) :=
  (ctx.pass_faults _).bind fun _ => ctx.now_faults.bind fun _ => hr.bind fun _ => .ok _

/-! ### Operations on certificates -/

lemma recordCertificate_faults {c : Except Failure Certificate}
    (hc : FailsWith (·.status = 500) c) : FailsWith (·.status = 500) (s.recordCertificate ctx c) :=
  (addCertificate_faults hc).bind fun _ => .ok _

lemma updateCertificate_faults (k : Key) (name : Text) (expires : Moment) :
    FailsWith (·.status = 500) (s.updateCertificate ctx k name expires) := by
  refine (ctx.reachFor_faults _ k).bind fun _ => (certificate_faults k).bind fun row => ?_
  exact (saveCertificate_faults row _).bind fun _ => .ok _

lemma revokeCertificate_faults (k : Key) :
    FailsWith (·.status = 500) (s.revokeCertificate ctx k) := by
  refine (ctx.reachFor_faults _ k).bind fun _ => (certificate_faults k).bind fun row => ?_
  exact (saveCertificate_faults row _).bind fun _ => .ok _

/-- No rule keeps a certificate that is there from being revoked. -/
lemma revokeCertificate_failsWith_of_stored {k : Key} {row : Row Certificate}
    (hrow : s.certificates.get? k = some row) :
    FailsWith Failure.IsFault (s.revokeCertificate ctx k) := by
  refine (ctx.reachFor_failsWith _ k).bind fun _ => ?_
  rw [certificate_eq_ok_iff.2 hrow]
  exact (saveCertificate_failsWith row _).bind fun _ => .ok _

lemma deleteCertificate_faults (k : Key) :
    FailsWith (·.status = 500) (s.deleteCertificate ctx k) := by
  refine (ctx.pass_faults _).bind fun _ => ctx.reach_faults.bind fun _ => ?_
  split
  · exact .ok _
  · exact .ok _

/-! ### Operations on requests -/

lemma createRequest_faults {r : Except Failure CertificateRequest}
    (hr : FailsWith (·.status = 500) r) : FailsWith (·.status = 500) (s.createRequest ctx r) :=
  (addRequest_faults hr).bind fun _ => .ok _

lemma approveRequest_faults (admin : Text) (k : Key) :
    FailsWith (·.status = 500) (s.approveRequest ctx admin k) := by
  refine ctx.reach_faults.bind fun _ => (undecided_faults k).bind fun row => ?_
  refine (spanOfDays_faults _).bind fun span => (ctx.clock.after_faults span).bind fun expires => ?_
  refine (addCertificate_faults ?_).bind fun cert => (saveRequest_faults row ?_).bind fun _ => .ok _
  · exact ctx.now_faults.bind fun _ => expires.stored_faults.bind fun _ => .ok _
  · exact ctx.now_faults.bind fun _ => .ok _

lemma rejectRequest_faults (admin : Text) (k : Key) (reason : Option Text) :
    FailsWith (·.status = 500) (s.rejectRequest ctx admin k reason) := by
  refine ctx.reach_faults.bind fun _ => (undecided_faults k).bind fun row => ?_
  refine (saveRequest_faults row (ctx.now_faults.bind fun _ => ?_)).bind fun _ => .ok _
  cases reason with
  | none => exact .ok _
  | some t => exact ((storedText_faults t).bind fun _ => .ok _).bind fun _ => .ok _

/-- A submission may be refused, too. -/
lemma submitRequest_ne_zoneOverflow (tenant : Caller) (kind : Text)
    {r : Except Failure CertificateRequest} (hr : FailsWith (·.status = 500) r) :
    FailsWith (· ≠ .zoneOverflow) (s.submitRequest ctx tenant kind r) := by
  have hne (f : Failure) := f.ne_zoneOverflow_of_status
  refine (ctx.reach_faults.mono hne).bind fun _ => FailsWith.bind ?_ fun _ => ?_
  · unfold checkTenant
    split_ifs
    · exact .error Failure.noConfusion
    · exact .error Failure.noConfusion
    · exact .ok _
  · exact ((addRequest_faults hr).mono hne).bind fun _ => .ok _

end Store

end CertRegistry
