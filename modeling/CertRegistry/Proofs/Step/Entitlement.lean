import CertRegistry.Proofs.Certificate.Refresh
import CertRegistry.Proofs.Step.Effect

/-!
# Entitlements

A user is entitled to something by a pending request and by an active certificate. A tenant gets no
second entitlement while one stands: a submission asks for none, an approval turns the request into
the certificate, and nothing else makes an entitlement. Only the creations and the form of the
administrators, which ask for nothing, can give a user more than one.
-/

namespace CertRegistry

namespace Store

/-- A pending request of a user. -/
def isPendingOf (u : Nat) (r : Row CertificateRequest) : Bool :=
  r.data.isPending && r.data.userId = u

/-- An active certificate of a user. -/
def isActiveOf (u : Nat) (r : Row Certificate) : Bool := r.data.isActive && r.data.ownerId = u

/-- How many pending requests and active certificates a user has. -/
def entitlements (s : Store) (u : Nat) : Nat :=
  s.requests.rows.countP (isPendingOf u) + s.certificates.rows.countP (isActiveOf u)

variable {s : Store} {u : Nat}

@[simp] lemma entitlements_empty : ({} : Store).entitlements u = 0 := rfl

/-- A user who holds nothing active and has nothing pending is entitled to nothing. -/
lemma entitlements_eq_zero (hactive : s.holdsActive (.ofInt u) = false)
    (hpending : s.pendingRequest? (.ofInt u) = none) : s.entitlements u = 0 := by
  have hrequests : s.requests.rows.countP (isPendingOf u) = 0 := by
    rw [List.countP_eq_zero]
    intro r hr h
    simp only [isPendingOf, Bool.and_eq_true, decide_eq_true_eq] at h
    have hnone := List.find?_eq_none.1 hpending r (List.mem_filter.2 ⟨hr, by simp [Key.ofInt, h.2]⟩)
    exact hnone h.1
  have hcertificates : s.certificates.rows.countP (isActiveOf u) = 0 := by
    rw [List.countP_eq_zero]
    intro r hr h
    simp only [isActiveOf, Bool.and_eq_true, decide_eq_true_eq] at h
    have hnone := List.any_eq_false.1 hactive r
      (List.mem_reverse.2 (List.mem_filter.2 ⟨hr, by simp [Key.ofInt, h.2]⟩))
    exact hnone h.1
  rw [entitlements, hrequests, hcertificates]

/-- A pending request and an active certificate of a user are two entitlements. -/
lemma two_le_entitlements {q : Row CertificateRequest} {r : Row Certificate}
    (hq : q ∈ s.requests.rows) (hpending : q.data.isPending) (hr : r ∈ s.certificates.rows)
    (hactive : r.data.isActive) (howner : r.data.ownerId = q.data.userId) :
    2 ≤ s.entitlements q.data.userId := by
  have hrequests : 0 < s.requests.rows.countP (isPendingOf q.data.userId) :=
    List.countP_pos_iff.2 ⟨q, hq, by simp [isPendingOf, hpending]⟩
  have hcertificates : 0 < s.certificates.rows.countP (isActiveOf q.data.userId) :=
    List.countP_pos_iff.2 ⟨r, hr, by simp [isActiveOf, hactive, howner]⟩
  unfold entitlements
  omega

end Store

/-- A row that is refreshed counts as active only if it did before. -/
lemma Refresh.Refreshes.countP_isActiveOf_le {t t' : Table Certificate} (h : Refreshes t t')
    (u : Nat) : t'.rows.countP (Store.isActiveOf u) ≤ t.rows.countP (Store.isActiveOf u) := by
  obtain ⟨f, hf, hf'⟩ := h
  rw [hf, List.countP_map]
  refine List.countP_mono_left fun r _ h => ?_
  simp only [Function.comp, Store.isActiveOf, Bool.and_eq_true, decide_eq_true_eq] at h ⊢
  have howner : (f r).data.ownerId = r.data.ownerId := by rw [(hf' r).data]
  exact ⟨(hf' r).active h.1, howner ▸ h.2⟩

namespace Deed

/-- A deed that asks what a user holds, or that makes no entitlement. -/
def isGuarded : Deed → Bool
  | record | request _ | edit _ => false
  | _ => true

end Deed

namespace Change

variable {now : Instant} {d : Deed} {s t : Store}

/-- A submission gives its user the one entitlement, and the other guarded deeds give none. -/
lemma entitlements_le (h : Change now d s t) (hguarded : d.isGuarded) {u : Nat}
    (hs : s.entitlements u ≤ 1) : t.entitlements u ≤ 1 := by
  cases h with
  | record | request | edit => simp [Deed.isGuarded] at hguarded
  | update hrow name expires =>
    refine le_trans (Nat.add_le_add_left (Table.countP_change_le hrow ?_) _) hs
    exact fun hactive => hactive
  | delete hrow => exact le_trans (Nat.add_le_add_left (Table.countP_erase_le _) _) hs
  | revoke hrow =>
    refine le_trans (Nat.add_le_add_left (Table.countP_change_le hrow ?_) _) hs
    exact fun hactive => absurd hactive Bool.false_ne_true
  | refresh threshold =>
    have hcount := (Refresh.refreshes_run now threshold s.certificates).countP_isActiveOf_le u
    exact le_trans (Nat.add_le_add_left hcount _) hs
  | @submit _ r row t hnew hactive hpending happ =>
    have hcount := Table.countP_append? happ (Store.isPendingOf u)
    simp only [Store.entitlements] at hs ⊢
    split_ifs at hcount with hrow
    · rw [Table.append?_row happ] at hrow
      simp only [Store.isPendingOf, Bool.and_eq_true, decide_eq_true_eq] at hrow
      have hzero := Store.entitlements_eq_zero hactive hpending
      rw [hrow.2, Store.entitlements] at hzero
      omega
    · omega
  | @approve _ row hrow hpending admin expires cert t happ =>
    have hrequests :=
      Table.countP_change (Store.isPendingOf u) hrow now (row.data.approve admin now)
    have hcertificates := Table.countP_append? happ (Store.isActiveOf u)
    have hdone : Store.isPendingOf u (row.change now (row.data.approve admin now)) = false := rfl
    -- the new certificate is active for just the user whose request was pending
    have hmoved : Store.isActiveOf u cert = Store.isPendingOf u row := by
      rw [Table.append?_row happ]
      simp only [Store.isActiveOf, Store.isPendingOf, hpending]
      rfl
    rw [hdone, if_neg Bool.false_ne_true] at hrequests
    rw [hmoved] at hcertificates
    simp only [Store.entitlements] at hs ⊢
    omega
  | reject hrow hpending admin reason =>
    refine le_trans (Nat.add_le_add_right (Table.countP_change_le hrow ?_) _) hs
    exact fun hpending' => absurd hpending' Bool.false_ne_true
  | touch hrow hdecided =>
    refine le_trans (Nat.add_le_add_right (Table.countP_change_le hrow ?_) _) hs
    exact fun hpending => hpending

end Change

lemma Route.isGuarded_of_mem_deeds {r : Route} (hcertificate : r ≠ .newCertificate)
    (hrequest : r ≠ .newRequest) {d : Deed} (hd : d ∈ r.deeds) : d.isGuarded := by
  cases r with
  | newCertificate => exact absurd rfl hcertificate
  | newRequest => exact absurd rfl hrequest
  | certificates | requests | download | ownCertificate | ownRequests =>
    exact absurd hd List.not_mem_nil
  | _ =>
    obtain rfl := List.mem_singleton.1 hd
    rfl

namespace Step

/-- Whether a step may make something for a user without asking what the user holds: the creations
of the administrators, and their form. -/
def isUnchecked : Step → Bool
  | call c =>
    (Route.resolve c.path = some .newCertificate || Route.resolve c.path = some .newRequest)
      && Method.ofText? c.method = some .post
  | form _ _ => true
  | bulk _ _ _ | refresh _ => false

lemma MayDo.isGuarded {step : Step} {d : Deed} (h : step.MayDo d)
    (hstep : step.isUnchecked = false) : d.isGuarded := by
  cases step with
  | call c =>
    obtain ⟨r, hroute, -, hallows, hd⟩ := h
    -- the routes of the creations are for one method only, which is excluded
    have hpost (hr : r.methods = [.post]) : Method.ofText? c.method = some .post := by
      unfold Endpoint.allows at hallows
      split at hallows
      · next m hm => simpa [hr, hm] using hallows
      · exact absurd hallows Bool.false_ne_true
    refine Route.isGuarded_of_mem_deeds ?_ ?_ hd <;> rintro rfl
    · simp [isUnchecked, hroute, hpost rfl] at hstep
    · simp [isUnchecked, hroute, hpost rfl] at hstep
  | bulk a ids admin =>
    obtain ⟨id, -, rfl⟩ := h
    cases a <;> rfl
  | form id? data => exact absurd hstep.symm Bool.false_ne_true
  | refresh options =>
    rw [h.1]
    rfl

variable {s : Store}

/-- Nobody gets a second entitlement in a step that asks. -/
lemma next_entitlements_le {ctx : Context} {step : Step} (hstep : step.isUnchecked = false)
    (hs : ∀ u, s.entitlements u ≤ 1) (u : Nat) : (step.next ctx s).entitlements u ≤ 1 := by
  refine next_invariant (P := fun s => ∀ u, s.entitlements u ≤ 1) (fun d s t hd h hs u => ?_) hs u
  exact h.entitlements_le (hd.isGuarded hstep) (hs u)

/-- In a run without unchecked steps, everybody has at most one pending request or active
certificate at any time, if it was so at the start. -/
theorem runAll_entitlements_le_one {run : List (Context × Step)}
    (hrun : ∀ p ∈ run, p.2.isUnchecked = false) (hs : ∀ u, s.entitlements u ≤ 1) (u : Nat) :
    (runAll s run).entitlements u ≤ 1 :=
  runAll_invariant (P := fun s => ∀ u, s.entitlements u ≤ 1)
    (fun p hp _ hs => next_entitlements_le (hrun p hp) hs) hs u

/-- A tenant submits a request, which is approved, and submits another one, which is refused. -/
def twoSubmissions : List (Context × Step) :=
  let ctx : Context := { clock := .ofUtc (utc 2026 1 15 4 30) }
  let submission : Step := .call {
    caller := .user { id := 7, name := "ann" }
    method := "POST"
    path := "/certificates/tenant/request/"
    body := Text.Utf8.encode "\x7b\"type\": \"client\", \"reason\": \"access\"\x7d" }
  [(ctx, submission),
    (ctx, .bulk .approve [1] (.user { id := 1, name := "root", isStaff := true })),
    (ctx, submission)]

theorem entitlements_after_twoSubmissions :
    (∀ p ∈ twoSubmissions, p.2.isUnchecked = false) ∧ (∀ u, ({} : Store).entitlements u ≤ 1) ∧
    (runAll {} twoSubmissions).entitlements 7 ≤ 1 := by
  have hrun : ∀ p ∈ twoSubmissions, p.2.isUnchecked = false := by decide
  have hempty : ∀ u, ({} : Store).entitlements u ≤ 1 := by simp
  exact ⟨hrun, hempty, runAll_entitlements_le_one hrun hempty 7⟩

end Step

end CertRegistry
