import CertRegistry.Proofs.Store.Agreement
import CertRegistry.Proofs.Store.Transaction

/-!
# Rulings

A decision on a request is first ruled on and then entered. The ruling goes by the request alone,
and by whether there is an id left for the certificate that is to be issued; it says what becomes of
the request and what the certificate is, or why there is none. The entry changes the one request and
appends the one certificate, under the next id. So decisions on different requests have nothing to
do with one another, but for the ids that they use up.
-/

namespace CertRegistry

/-- What an administrator may decide about a request. -/
inductive Verdict
  | approve
  | reject (reason : Option Text)

/-- The decision of an administrator about the request with an id. -/
structure Decision where
  id : Int
  admin : Text
  verdict : Verdict

/-- What comes of a decision: the certificate that was issued, or the request that was rejected. -/
inductive Decision.Result
  | issued (cert : Row Certificate)
  | rejected (row : Row CertificateRequest)

/-- What a decision is to write: what becomes of a request, and the certificate that is issued for
it, if one is. -/
structure Ruling where
  row : Row CertificateRequest
  request : CertificateRequest
  certificate? : Option Certificate := none

namespace Ruling

/-- Whether a certificate is issued. -/
def issues (w : Ruling) : Bool := w.certificate?.isSome

/-- What comes of a ruling at a time, if `n` was the last id of a certificate. -/
def result (now : Instant) (n : ℕ) (w : Ruling) : Decision.Result :=
  match w.certificate? with
  | some c => .issued ⟨n + 1, now, now, c⟩
  | none => .rejected (w.row.change now w.request)

/-- A ruling has been entered into a store at a time, and that came to a result. -/
structure Entered (now : Instant) (w : Ruling) (s : Store) (x : Done Decision.Result) : Prop where
  value : x.value = w.result now s.certificates.lastId
  requests : x.store.requests = s.requests.change w.row now w.request
  certificates : x.store.certificates.rows = s.certificates.rows ++
    w.certificate?.toList.map fun c => ⟨s.certificates.lastId + 1, now, now, c⟩
  lastId : x.store.certificates.lastId =
    s.certificates.lastId + if w.issues then 1 else 0

end Ruling

namespace Decision

variable {ctx : Context} {s t : Store} {d : Decision} {w : Ruling}

/-- Carries a decision out. -/
def execute (ctx : Context) (s : Store) (d : Decision) : Except Failure (Done Result) :=
  match d.verdict with
  | .approve =>
    (s.approveRequest ctx d.admin (.ofInt d.id)).map fun x => { x with value := .issued x.value }
  | .reject reason =>
    (s.rejectRequest ctx d.admin (.ofInt d.id) reason).map fun x =>
      { x with value := .rejected x.value }

/-- What a decision is to write by the request that it is about. -/
def finding (ctx : Context) (s : Store) (d : Decision) : Except Failure Ruling := do
  ctx.reach
  let row ← s.undecided (.ofInt d.id)
  match d.verdict with
  | .approve =>
    let expires ← ctx.clock.after (← spanOfDays ctx.settings.validityDays)
    let now ← ctx.now
    let certificate := row.data.certificate now (← expires.stored)
    return { row, request := row.data.approve d.admin now, certificate? := some certificate }
  | .reject reason =>
    let now ← ctx.now
    return { row, request := row.data.reject d.admin now (← reason.mapM storedText) }

/-- What a decision is to write, as long as there is an id left for the certificate. -/
def ruling (ctx : Context) (s : Store) (d : Decision) : Except Failure Ruling := do
  let w ← d.finding ctx s
  if w.issues ∧ ¬ s.certificates.lastId < maxColumn then throw .tableFull else return w

/-! ### A decision is a ruling and its entry -/

/-- The checks of an approval come in the order of its ruling, up to the one for an id. -/
lemma approveRequest_alike (hfault : ctx.fault = none) (hverdict : d.verdict = .approve) :
    Alike (fun w x => w.Entered ctx.clock.instant s { x with value := .issued x.value })
      (d.ruling ctx s) (s.approveRequest ctx d.admin (.ofInt d.id)) := by
  have hpass (site : FaultSite) : ctx.pass site = .ok () := by simp [Context.pass, hfault]
  simp only [ruling, finding, hverdict, bind_assoc, pure_bind, Store.approveRequest,
    Store.addCertificate, Store.saveRequest, hpass]
  refine .bind_self fun _ hreach => .bind_self fun row _ => .bind_self fun span _ =>
    .bind_self fun expires _ => ?_
  simp only [hreach, bind, Except.bind]
  cases hnow : ctx.now with
  | error f => exact .error f
  | ok now =>
    obtain ⟨-, rfl⟩ := Context.now_eq_ok_iff.1 hnow
    cases hstored : expires.stored with
    | error f => exact .error f
    | ok e =>
      let certificate := row.data.certificate ctx.clock.instant e
      by_cases hroom : s.certificates.lastId < maxColumn
      · obtain ⟨cert, u, happ⟩ := Table.exists_append? hroom ctx.clock.instant certificate
        obtain ⟨-, rfl, hrows, hlast⟩ := Table.append?_eq_some_iff.1 happ
        simp only [hroom, not_true_eq_false, and_false, if_false, happ, certificate]
        exact .ok ⟨rfl, rfl, hrows, hlast⟩
      · have happ : s.certificates.append? ctx.clock.instant certificate = none := dif_neg hroom
        simp only [Ruling.issues, Option.isSome_some, hroom, not_false_eq_true, and_self, if_true,
          happ, certificate]
        exact .error _

/-- The checks of a rejection are those of its ruling. -/
lemma rejectRequest_alike {reason : Option Text} (hfault : ctx.fault = none)
    (hverdict : d.verdict = .reject reason) :
    Alike (fun w x => w.Entered ctx.clock.instant s { x with value := .rejected x.value })
      (d.ruling ctx s) (s.rejectRequest ctx d.admin (.ofInt d.id) reason) := by
  have hpass (site : FaultSite) : ctx.pass site = .ok () := by simp [Context.pass, hfault]
  simp only [ruling, finding, hverdict, bind_assoc, pure_bind, Store.rejectRequest,
    Store.saveRequest, hpass]
  refine .bind_self fun _ _ => .bind_self fun row _ => ?_
  simp only [bind, Except.bind]
  cases hnow : ctx.now with
  | error f => exact .error f
  | ok now =>
    obtain ⟨-, rfl⟩ := Context.now_eq_ok_iff.1 hnow
    cases reason.mapM storedText with
    | error f => exact .error f
    | ok reason' =>
      have hrows : s.certificates.rows = s.certificates.rows ++ [] := (List.append_nil _).symm
      exact .ok ⟨rfl, rfl, hrows, rfl⟩

/-- A decision is a ruling and its entry. -/
theorem execute_alike (hfault : ctx.fault = none) (s : Store) (d : Decision) :
    Alike (fun w x => w.Entered ctx.clock.instant s x) (d.ruling ctx s) (d.execute ctx s) := by
  unfold execute
  split
  · next hverdict => exact (approveRequest_alike hfault hverdict).map_right fun _ _ h => h
  · next reason hverdict => exact (rejectRequest_alike hfault hverdict).map_right fun _ _ h => h

lemma execute_of_error (hfault : ctx.fault = none) {f : Failure} (h : d.ruling ctx s = .error f) :
    d.execute ctx s = .error f := by
  have halike := execute_alike hfault s d
  rw [h] at halike
  generalize d.execute ctx s = y at halike
  cases halike
  rfl

lemma execute_of_ok (hfault : ctx.fault = none) (h : d.ruling ctx s = .ok w) :
    ∃ x, d.execute ctx s = .ok x ∧ w.Entered ctx.clock.instant s x := by
  have halike := execute_alike hfault s d
  rw [h] at halike
  generalize d.execute ctx s = y at halike
  cases halike with
  | ok hentered => exact ⟨_, rfl, hentered⟩

/-! ### What a ruling goes by -/

lemma finding_row (h : d.finding ctx s = .ok w) :
    w.row ∈ s.requests.rows ∧ w.row.id = d.id := by
  simp only [finding, bind_eq_ok_iff] at h
  obtain ⟨-, -, row, hrow, h⟩ := h
  obtain ⟨hmem, hid⟩ := Table.get?_eq_some_iff.1 (Store.undecided_eq_ok_iff.1 hrow).1
  have hw : w.row = row := by
    split at h
    · simp only [bind_eq_ok_iff, pure_eq_ok_iff] at h
      obtain ⟨-, -, -, -, -, -, -, -, rfl⟩ := h
      rfl
    · simp only [bind_eq_ok_iff, pure_eq_ok_iff] at h
      obtain ⟨-, -, -, -, rfl⟩ := h
      rfl
  exact ⟨hw ▸ hmem, hw ▸ (Option.some.inj hid).symm⟩

/-- A decision is ruled on by the request that it is about. -/
lemma finding_congr (h : t.requests.find? d.id = s.requests.find? d.id) :
    d.finding ctx t = d.finding ctx s := by
  have hget : t.requests.get? (.ofInt d.id) = s.requests.get? (.ofInt d.id) := h
  have hund : t.undecided (.ofInt d.id) = s.undecided (.ofInt d.id) := by
    simp only [Store.undecided, Store.request, hget]
  simp only [finding, hund]

lemma ruling_eq_ok_iff : d.ruling ctx s = .ok w ↔
    d.finding ctx s = .ok w ∧ (w.issues → s.certificates.lastId < maxColumn) := by
  simp only [ruling, bind_eq_ok_iff]
  constructor
  · rintro ⟨w', hw', h⟩
    split_ifs at h with hfull
    · obtain rfl := pure_eq_ok_iff.1 h
      exact ⟨hw', by simpa using hfull⟩
  · rintro ⟨hw, hroom⟩
    refine ⟨w, hw, ?_⟩
    rw [if_neg (by simpa using hroom)]
    rfl

/-- Whether a decision, taken alone, issues a certificate. -/
def issues (ctx : Context) (s : Store) (d : Decision) : Bool :=
  match d.execute ctx s with
  | .ok x =>
    match x.value with
    | .issued _ => true
    | .rejected _ => false
  | .error _ => false

lemma issues_eq (hfault : ctx.fault = none) (s : Store) (d : Decision) :
    d.issues ctx s = (d.ruling ctx s).toOption.any Ruling.issues := by
  unfold issues
  cases h : d.ruling ctx s with
  | error f =>
    rw [execute_of_error hfault h]
    rfl
  | ok w =>
    obtain ⟨x, hx, hentered⟩ := execute_of_ok hfault h
    rw [hx]
    simp only [hentered.value, Ruling.result, Except.toOption, Option.any_some, Ruling.issues]
    cases w.certificate? <;> rfl

/-- A ruling holds later on, as long as the request is as it was, and an id is left if one is
needed. -/
lemma ruling_congr (hfind : t.requests.find? d.id = s.requests.find? d.id)
    (hle : s.certificates.lastId ≤ t.certificates.lastId)
    (hroom : (d.ruling ctx s).toOption.any Ruling.issues → t.certificates.lastId < maxColumn) :
    d.ruling ctx t = d.ruling ctx s := by
  have hfinding : d.finding ctx t = d.finding ctx s := finding_congr hfind
  cases h : d.finding ctx s with
  | error f => simp only [ruling, hfinding, h, bind, Except.bind]
  | ok w =>
    by_cases hissues : w.issues ∧ s.certificates.lastId < maxColumn
    · have hs : d.ruling ctx s = .ok w := ruling_eq_ok_iff.2 ⟨h, fun _ => hissues.2⟩
      rw [hs] at hroom ⊢
      exact ruling_eq_ok_iff.2 ⟨hfinding.trans h, fun _ => hroom hissues.1⟩
    · have hiff : (w.issues ∧ ¬ t.certificates.lastId < maxColumn) ↔
          (w.issues ∧ ¬ s.certificates.lastId < maxColumn) := by
        refine and_congr_right fun hw => ?_
        have hfull : ¬ s.certificates.lastId < maxColumn := fun hlt => hissues ⟨hw, hlt⟩
        omega
      simp only [ruling, hfinding, h, bind, Except.bind, hiff]

end Decision

end CertRegistry
