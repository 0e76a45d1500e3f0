import CertRegistry.Proofs.Step.Law

/-!
# The audit of requests

A request names who decided it, when, and why it was rejected. The fields for that agree with its
status: nothing is said of a decision that was not made, and all of it is said of one that was. A
request comes into being as pending and only a pending one is decided, so that the two halves are
never filled both.
-/

namespace CertRegistry

namespace CertificateRequest

/-- Nothing is said of an approval. -/
def LacksApproval (r : CertificateRequest) : Prop := r.approvedBy = none ∧ r.approvedAt = none

/-- Nothing is said of a rejection. -/
def LacksRejection (r : CertificateRequest) : Prop :=
  r.rejectedBy = none ∧ r.rejectedAt = none ∧ r.rejectedReason = none

/-- What is said of the decision is what the status demands. -/
def IsAudited (r : CertificateRequest) : Prop :=
  match r.status with
  | .pending => r.LacksApproval ∧ r.LacksRejection
  | .valid => r.approvedBy.isSome ∧ r.approvedAt.isSome ∧ r.LacksRejection
  | .rejected =>
    r.LacksApproval ∧ r.rejectedBy.isSome ∧ r.rejectedAt.isSome ∧
      ∃ reason, r.rejectedReason = some reason ∧ reason.strip ≠ []
  | .other _ _ => False

variable {r : CertificateRequest}

lemma isAudited_of_isPending (h : r.isPending) :
    r.IsAudited ↔ r.LacksApproval ∧ r.LacksRejection := by
  have hstatus : r.status = .pending := of_decide_eq_true h
  simp only [IsAudited, hstatus]

/-- A request that was just made says nothing of a decision. -/
lemma isAudited_of_newRequest {userName reason : Text} {userId : Option Int}
    {kind : CertificateKind} (h : Store.newRequest userName userId kind reason = .ok r) :
    r.IsAudited := by
  obtain ⟨id, -, -, rfl⟩ := Store.newRequest_eq_ok_iff.1 h
  exact ⟨⟨rfl, rfl⟩, rfl, rfl, rfl⟩

lemma IsAudited.approve (h : r.IsAudited) (hpending : r.isPending) (admin : Text) (now : Instant) :
    (r.approve admin now).IsAudited :=
  ⟨rfl, rfl, ((isAudited_of_isPending hpending).1 h).2⟩

lemma IsAudited.reject (h : r.IsAudited) (hpending : r.isPending) (admin : Text) (now : Instant)
    {reason : Text} (hreason : reason.strip ≠ []) :
    (r.reject admin now (some reason)).IsAudited :=
  ⟨((isAudited_of_isPending hpending).1 h).1, rfl, rfl, reason, rfl, hreason⟩

end CertificateRequest

/-- Requests agree with their status in what they say of their decision. -/
def Law.audit : Law where
  certificate _ := True
  request := CertificateRequest.IsAudited

/-- Whoever acts, the audit agrees. -/
lemma Law.audit_isKept : Law.audit.IsKept fun _ => True where
  record _ _ := trivial
  update _ _ _ := trivial
  move _ _ := trivial
  issue _ _ _ _ := trivial
  request _ hr := CertificateRequest.isAudited_of_newRequest hr
  submit _ _ hr := CertificateRequest.isAudited_of_newRequest hr
  add _ := ⟨⟨rfl, rfl⟩, rfl, rfl, rfl⟩
  edit _ _ h := h
  approve now _ hpending h := h.approve hpending _ now
  reject now _ hreason hpending h := h.reject hpending _ now hreason

namespace Step

/-- After any run from the empty store, every request is pending, approved or rejected, and it says
of its decision what that demands. -/
theorem runAll_audited (run : List (Context × Step)) :
    ∀ row ∈ (runAll {} run).requests.rows, row.data.IsAudited :=
  (runAll_obeys Law.audit_isKept (fun _ _ => trivial) (Store.obeys_empty Law.audit)).requests

/-- A request is made by the form and rejected. -/
def formAndRejection : List (Context × Step) :=
  let ctx : Context := { clock := .ofUtc (utc 2026 1 15 4 30) }
  [(ctx, .form none "user_name=ann&user_id=7&type=client&reason=access"),
    (ctx, .bulk .reject [1] (.user { id := 1, name := "root", isStaff := true }))]

theorem audited_after_formAndRejection :
    ∃ row ∈ (runAll {} formAndRejection).requests.rows,
      row.data.status = .rejected ∧ row.data.IsAudited := by
  have hrejected : ∃ row ∈ (runAll {} formAndRejection).requests.rows,
      row.data.status = .rejected := by decide +kernel
  obtain ⟨row, hrow, hstatus⟩ := hrejected
  exact ⟨row, hrow, hstatus, runAll_audited formAndRejection row hrow⟩

end Step

end CertRegistry
