import CertRegistry.Proofs.Step.Effect

/-!
# Resolved requests

A request is resolved once it is not pending any more. No step takes a resolved request away or
changes it; only the form, when it saves that very request, notes the time. A request becomes
resolved by a decision, and the log tells of each decision, so it tells of one at most.
-/

namespace CertRegistry

namespace Store

/-- A resolved request with an id. -/
def isResolvedAs (id : Int) (r : Row CertificateRequest) : Bool := r.id = id && !r.data.isPending

lemma isResolvedAs_change {id : Int} {row : Row CertificateRequest} {now : Instant}
    {r : CertificateRequest} :
    isResolvedAs id (row.change now r) = (decide (row.id = id) && !r.isPending) := rfl

/-- How many resolved requests have an id. -/
def resolved (s : Store) (id : Int) : Nat := s.requests.rows.countP (isResolvedAs id)

/-- An id belongs to one request at most. -/
lemma resolved_le_one (s : Store) (id : Int) : s.resolved id ≤ 1 := by
  refine le_trans (List.countP_mono_left fun r _ h => ?_) (s.requests.countP_id_le_one id)
  simp only [isResolvedAs, Bool.and_eq_true] at h
  exact h.1

section Count

variable {s : Store} {id : Int} {now : Instant} {row : Row CertificateRequest}
  {r : CertificateRequest}

lemma countP_resolved_of_decision (hrow : row ∈ s.requests.rows) (hpending : row.data.isPending)
    (hr : r.isPending = false) :
    (s.requests.change row now r).rows.countP (isResolvedAs id) =
      s.resolved id + if decide (row.id = id) then 1 else 0 := by
  have hcount := Table.countP_change (isResolvedAs id) hrow now r
  have hbefore : isResolvedAs id row = false := by simp [isResolvedAs, hpending]
  have hafter : isResolvedAs id (row.change now r) = decide (row.id = id) := by
    rw [isResolvedAs_change, hr, Bool.not_false, Bool.and_true]
  rw [hbefore, hafter, if_neg Bool.false_ne_true] at hcount
  exact hcount

lemma countP_resolved_of_same (hrow : row ∈ s.requests.rows)
    (hr : r.isPending = row.data.isPending) :
    (s.requests.change row now r).rows.countP (isResolvedAs id) = s.resolved id := by
  have hcount := Table.countP_change (isResolvedAs id) hrow now r
  have hkeep : isResolvedAs id (row.change now r) = isResolvedAs id row := by
    rw [isResolvedAs_change, hr]
    rfl
  rw [hkeep] at hcount
  exact Nat.add_right_cancel hcount

lemma countP_resolved_of_new {t : Table CertificateRequest} (hr : r.IsNew)
    (happ : s.requests.append? now r = some (row, t)) :
    t.rows.countP (isResolvedAs id) = s.resolved id := by
  have hpending : isResolvedAs id row = false := by
    rw [Table.append?_row happ]
    simp [isResolvedAs, CertificateRequest.isPending, hr.status]
  rw [Table.countP_append? happ, hpending]
  rfl

end Count

end Store

namespace Change

variable {now : Instant} {d : Deed} {s t : Store}

/-- No deed changes a resolved request, except that a form may note the time. -/
lemma mem_of_resolved (h : Change now d s t) {r : Row CertificateRequest}
    (hr : r ∈ s.requests.rows) (hresolved : r.data.isPending = false) :
    r ∈ t.requests.rows ∨
      (d = .touch r.id ∧ { r with updatedAt := now } ∈ t.requests.rows) := by
  -- a change of another request, which is still pending, leaves this one alone
  have hother {row : Row CertificateRequest} (hrow : row ∈ s.requests.rows)
      (hpending : row.data.isPending) (a : CertificateRequest) :
      r ∈ (s.requests.change row now a).rows := by
    refine (Table.mem_rows_change hrow).2 (Or.inl ⟨hr, fun hid => ?_⟩)
    rw [Table.eq_of_id_eq hr hrow hid, hpending] at hresolved
    exact Bool.true_eq_false_eq_False hresolved
  cases h with
  | record | update | delete | revoke | refresh => exact Or.inl hr
  | request byForm hnew happ => exact Or.inl ((Table.mem_rows_append? happ).2 (Or.inl hr))
  | submit hnew hactive hpending happ => exact Or.inl ((Table.mem_rows_append? happ).2 (Or.inl hr))
  | approve hrow hpending admin happ => exact Or.inl (hother hrow hpending _)
  | reject hrow hpending admin reason => exact Or.inl (hother hrow hpending _)
  | edit hrow hpending e => exact Or.inl (hother hrow hpending _)
  | @touch _ row hrow hdecided =>
    by_cases hid : r.id = row.id
    · obtain rfl := Table.eq_of_id_eq hr hrow hid
      exact Or.inr ⟨rfl, (Table.mem_rows_change hrow).2 (Or.inr rfl)⟩
    · exact Or.inl ((Table.mem_rows_change hrow).2 (Or.inl ⟨hr, hid⟩))

/-- A request becomes resolved by a decision and by nothing else, and it stays so. -/
lemma resolved_eq (h : Change now d s t) (id : Int) :
    t.resolved id = s.resolved id + if d.decides id then 1 else 0 := by
  cases h with
  | record | update | delete | revoke | refresh => rfl
  | request byForm hnew happ => exact Store.countP_resolved_of_new hnew happ
  | submit hnew hactive hpending happ => exact Store.countP_resolved_of_new hnew happ
  | approve hrow hpending admin happ => exact Store.countP_resolved_of_decision hrow hpending rfl
  | reject hrow hpending admin reason =>
    exact Store.countP_resolved_of_decision hrow hpending rfl
  | edit hrow hpending e => exact Store.countP_resolved_of_same hrow rfl
  | touch hrow hdecided => exact Store.countP_resolved_of_same hrow rfl

end Change

namespace Changes

variable {now : Instant} {ds : List Deed} {s t : Store}

/-- A row whose time a form noted may be noted again, so the row is followed through the deeds. -/
lemma mem_of_resolved (h : Changes now ds s t) {r : Row CertificateRequest}
    (hr : r ∈ s.requests.rows) (hresolved : r.data.isPending = false) :
    r ∈ t.requests.rows ∨
      (.touch r.id ∈ ds ∧ { r with updatedAt := now } ∈ t.requests.rows) := by
  induction h generalizing r with
  | nil => exact Or.inl hr
  | cons head _ ih =>
    rcases head.mem_of_resolved hr hresolved with hmem | ⟨rfl, hmem⟩
    · rcases ih hmem hresolved with hmem | ⟨htouch, hmem⟩
      · exact Or.inl hmem
      · exact Or.inr ⟨List.mem_cons_of_mem _ htouch, hmem⟩
    · rcases ih hmem hresolved with hmem | ⟨-, hmem⟩
      · exact Or.inr ⟨List.mem_cons_self, hmem⟩
      · exact Or.inr ⟨List.mem_cons_self, hmem⟩

lemma resolved_eq (h : Changes now ds s t) (id : Int) :
    t.resolved id = s.resolved id + ds.countP (Deed.decides id) := by
  induction h with
  | nil => rfl
  | cons head _ ih =>
    rw [ih, head.resolved_eq id, List.countP_cons]
    omega

end Changes

namespace Step

variable (ctx : Context) (s : Store)

/-- Only a form does so little as to note the time, and only for its own request. -/
lemma MayDo.eq_form {step : Step} {id : Int} (h : step.MayDo (.touch id)) :
    ∃ data, step = .form (some id) data := by
  cases step with
  | call c =>
    obtain ⟨r, -, -, -, hd⟩ := h
    cases r <;> simp [Route.deeds] at hd
  | bulk a ids admin =>
    obtain ⟨id, -, hd⟩ := h
    cases a <;> simp [BulkAction.deed] at hd
  | form id? data =>
    cases id? with
    | none => simp [MayDo, ChangeForm.deeds] at h
    | some i =>
      simp only [MayDo, ChangeForm.deeds, List.mem_cons, reduceCtorEq, Deed.touch.injEq,
        List.not_mem_nil, or_false, false_or] at h
      exact ⟨data, by rw [h]⟩
  | refresh options => exact Deed.noConfusion h.1

/-- A resolved request is the same after a step, or the form that saved it noted the time. -/
lemma next_resolved {step : Step} {r : Row CertificateRequest} (hr : r ∈ s.requests.rows)
    (hresolved : r.data.status ≠ .pending) :
    r ∈ (step.next ctx s).requests.rows ∨
      ((∃ data, step = .form (some r.id) data) ∧
        { r with updatedAt := ctx.clock.instant } ∈ (step.next ctx s).requests.rows) := by
  obtain ⟨ds, hmay, -, heffect⟩ := run_effect ctx s step
  rcases heffect.changes.mem_of_resolved hr (decide_eq_false hresolved) with hmem | ⟨htouch, hmem⟩
  · exact Or.inl hmem
  · exact Or.inr ⟨(hmay _ htouch).eq_form, hmem⟩

/-- The log of a step tells of a decision just where the request becomes resolved. -/
lemma next_resolved_eq (step : Step) (id : Int) :
    (step.next ctx s).resolved id =
      s.resolved id + (step.run ctx s).log.countP (LogRecord.decides id) := by
  obtain ⟨ds, -, -, heffect⟩ := run_effect ctx s step
  rw [heffect.told.countP_decides id]
  exact heffect.changes.resolved_eq id

/-- The log of a run. -/
def logAll : Store → List (Context × Step) → List LogRecord
  | _, [] => []
  | s, (ctx, step) :: rest => (step.run ctx s).log ++ logAll (step.next ctx s) rest

variable {s}

/-- Over a run a resolved request stays as it is, up to the time of its last change. -/
lemma runAll_resolved {run : List (Context × Step)} {r : Row CertificateRequest}
    (hr : r ∈ s.requests.rows) (hresolved : r.data.status ≠ .pending) :
    ∃ time, { r with updatedAt := time } ∈ (runAll s run).requests.rows := by
  refine runAll_invariant (P := fun t => ∃ time, { r with updatedAt := time } ∈ t.requests.rows)
    ?_ ⟨r.updatedAt, hr⟩
  rintro p - t ⟨time, hmem⟩
  rcases next_resolved p.1 t hmem hresolved with hmem | ⟨-, hmem⟩
  · exact ⟨time, hmem⟩
  · exact ⟨_, hmem⟩

lemma runAll_resolved_eq (s : Store) (run : List (Context × Step)) (id : Int) :
    (runAll s run).resolved id = s.resolved id + (logAll s run).countP (LogRecord.decides id) := by
  induction run generalizing s with
  | nil => rfl
  | cons p rest ih =>
    obtain ⟨ctx, step⟩ := p
    simp only [runAll, logAll, ih, next_resolved_eq, List.countP_append]
    omega

/-- A resolved request is frozen. A step keeps its row with every field, except that a form which
saves that request notes the time. Over a run the row stays, up to that time, and each request is
decided once at most: the log tells of a decision just where a request becomes resolved. -/
theorem resolved_frozen (s : Store) :
    (∀ (ctx : Context) (step : Step), ∀ r ∈ s.requests.rows, r.data.status ≠ .pending →
      r ∈ (step.next ctx s).requests.rows ∨
        ((∃ data, step = .form (some r.id) data) ∧
          { r with updatedAt := ctx.clock.instant } ∈ (step.next ctx s).requests.rows)) ∧
    ∀ run : List (Context × Step),
      (∀ r ∈ s.requests.rows, r.data.status ≠ .pending →
        ∃ time, { r with updatedAt := time } ∈ (runAll s run).requests.rows) ∧
      ∀ id : Int,
        (runAll s run).resolved id =
          s.resolved id + (logAll s run).countP (LogRecord.decides id) ∧
        (logAll s run).countP (LogRecord.decides id) ≤ 1 := by
  refine ⟨fun ctx step r hr => next_resolved ctx s hr, fun run => ⟨?_, fun id => ?_⟩⟩
  · exact fun r hr => runAll_resolved hr
  · have hresolved := runAll_resolved_eq s run id
    have hone := (runAll s run).resolved_le_one id
    exact ⟨hresolved, by omega⟩

/-- A request that was rejected. -/
def rejectedRow : Row CertificateRequest where
  id := 1
  createdAt := 0
  updatedAt := 0
  data := {
    userName := "ann"
    userId := 7
    kind := .client
    status := .rejected
    reason := "access"
    rejectedBy := some "root"
    rejectedAt := some 0
    rejectedReason := some "no" }

theorem resolved_frozen_rejectedRow :
    let ctx : Context := { clock := .ofUtc (utc 2026 1 15 4 30) }
    let s : Store := { requests := {
      rows := [rejectedRow], lastId := 1, bounded := List.forall_mem_singleton.2 (by decide) } }
    let run : List (Context × Step) := [
      (ctx, .form (some 1) "user_name=bob&user_id=8&type=server&status=pending"),
      (ctx, .bulk .approve [1] (.user { id := 1, name := "root", isStaff := true }))]
    ∃ time, { rejectedRow with updatedAt := time } ∈ (runAll s run).requests.rows := by
  intro ctx s run
  exact ((resolved_frozen s).2 run).1 rejectedRow (List.mem_singleton_self _) (by decide)

end Step

end CertRegistry
