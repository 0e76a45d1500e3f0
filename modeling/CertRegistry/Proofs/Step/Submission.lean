import CertRegistry.Proofs.Request.Submission
import CertRegistry.Proofs.Step.Entitlement
import CertRegistry.Proofs.Store.Lifecycle

/-!
# What decides a submission

A tenant is shown the latest certificate, whatever its status, and a submission asks for any active
one. The two agree, since an active certificate is the latest one of its owner: who holds one gets
no other one before it has become inactive. So what a tenant is shown decides whether a submission
is refused, and a submission that is not refused makes the request if the storage takes it.
-/

namespace CertRegistry

namespace Store

/-- Every active certificate is the latest one of its owner. -/
def ActiveLast (s : Store) : Prop :=
  ∀ r ∈ s.certificates.rows, r.data.isActive →
    ∀ r' ∈ s.certificates.rows, r'.data.ownerId = r.data.ownerId → r'.id ≤ r.id

/-- A tenant is shown an active certificate. -/
def ShowsActive (s : Store) (tenant : Int) : Prop :=
  ∃ r, s.tenantCertificate? (.ofInt tenant) = some r ∧ r.data.isActive

/-- A tenant is shown a pending request. -/
def ShowsPending (s : Store) (tenant : Int) : Prop :=
  ∃ r ∈ s.tenantRequests (.ofInt tenant), r.data.isPending

variable {s t : Store} {now : Instant} {d : Deed} {tenant : Int} {k : Key}

/-! ### What is shown and what is asked for -/

lemma mem_certificatesOf {r : Row Certificate} : r ∈ s.certificatesOf k ↔
    r ∈ s.certificates.rows ∧ some (r.data.ownerId : Int) = k.id? := by
  simp [certificatesOf]

lemma pairwise_certificatesOf (s : Store) (k : Key) :
    (s.certificatesOf k).Pairwise fun a b => b.id < a.id :=
  List.pairwise_reverse.2 (s.certificates.sorted.filter _)

lemma holdsActive_iff (hlast : s.ActiveLast) :
    s.holdsActive (.ofInt tenant) = true ↔ s.ShowsActive tenant := by
  unfold holdsActive ShowsActive tenantCertificate?
  rw [List.any_eq_true]
  constructor
  · rintro ⟨r, hr, hactive⟩
    cases hrows : s.certificatesOf (.ofInt tenant) with
    | nil =>
      rw [hrows] at hr
      exact absurd hr List.not_mem_nil
    | cons first rest =>
      refine ⟨first, rfl, ?_⟩
      have hfirst : first ∈ s.certificatesOf (.ofInt tenant) := hrows ▸ List.mem_cons_self
      obtain ⟨hmem, howner⟩ := mem_certificatesOf.1 hr
      obtain ⟨hmem', howner'⟩ := mem_certificatesOf.1 hfirst
      have hsame : first.data.ownerId = r.data.ownerId := by
        have := howner'.trans howner.symm
        simpa using this
      -- the latest row comes first, and no row of the tenant is later than the active one
      have hle := hlast r hmem hactive first hmem' hsame
      have hsorted := s.pairwise_certificatesOf (.ofInt tenant)
      rw [hrows] at hr hsorted
      rcases List.mem_cons.1 hr with rfl | hr
      · exact hactive
      · exact absurd (List.rel_of_pairwise_cons hsorted hr) (not_lt.2 hle)
  · rintro ⟨r, hr, hactive⟩
    exact ⟨r, List.mem_of_mem_head? hr, hactive⟩

lemma isSome_pendingRequest?_iff :
    (s.pendingRequest? (.ofInt tenant)).isSome ↔ s.ShowsPending tenant := by
  unfold pendingRequest? ShowsPending tenantRequests
  rw [List.find?_isSome]
  simp only [List.mem_mergeSort]

lemma checkTenant_eq_certificateExists_iff :
    s.checkTenant k = .error .certificateExists ↔ s.holdsActive k = true := by
  unfold checkTenant
  split_ifs with hactive hpending <;> simp [hactive]

lemma checkTenant_eq_requestExists_iff :
    s.checkTenant k = .error .requestExists ↔
      s.holdsActive k = false ∧ (s.pendingRequest? k).isSome := by
  unfold checkTenant
  by_cases hactive : s.holdsActive k
  · simp [hactive]
  · by_cases hpending : (s.pendingRequest? k).isSome <;> simp [hactive, hpending]

/-- A submission that neither an active certificate nor a pending request forbids. -/
lemma checkTenant_eq_ok (hlast : s.ActiveLast) (hactive : ¬ s.ShowsActive tenant)
    (hpending : ¬ s.ShowsPending tenant) : s.checkTenant (.ofInt tenant) = .ok () := by
  rw [← holdsActive_iff hlast, Bool.not_eq_true] at hactive
  rw [← isSome_pendingRequest?_iff, Option.not_isSome_iff_eq_none] at hpending
  exact checkTenant_eq_ok_iff.2 ⟨hactive, hpending⟩

end Store

/-! ### Active certificates are the latest -/

/-- A guarded deed issues a certificate only for a pending request, and then its user holds no
active one. -/
lemma Change.activeLast {now : Instant} {d : Deed} {s t : Store} (h : Change now d s t)
    (hguarded : d.isGuarded) (hs : ∀ u, s.entitlements u ≤ 1) (hlast : s.ActiveLast) :
    t.ActiveLast := by
  intro r hr hactive r' hr' howner
  rcases h.certificates_cases with ⟨f, hrows, -, hf⟩ | ⟨id, -, ht⟩ | ⟨c, row, happ, hissued⟩
  · rw [hrows] at hr hr'
    obtain ⟨r₀, hr₀, rfl⟩ := List.mem_map.1 hr
    obtain ⟨r₁, hr₁, rfl⟩ := List.mem_map.1 hr'
    have hfollows := (hf r₀ hr₀).follows
    have hfollows' := (hf r₁ hr₁).follows
    rw [hfollows.issue.ownerId, hfollows'.issue.ownerId] at howner
    rw [hfollows.issue.id, hfollows'.issue.id]
    exact hlast r₀ hr₀ (hfollows.active hactive) r₁ hr₁ howner
  · rw [ht] at hr hr'
    exact hlast r (Table.mem_rows_erase.1 hr).1 hactive r' (Table.mem_rows_erase.1 hr').1 howner
  · have hnew := Table.append?_row happ
    rcases (Table.mem_rows_append? happ).1 hr with hr | rfl
    · rcases (Table.mem_rows_append? happ).1 hr' with hr' | rfl
      · exact hlast r hr hactive r' hr' howner
      · rcases hissued with rfl | ⟨q, hq, hpending, hq'⟩
        · exact absurd hguarded Bool.false_ne_true
        · -- the user of a pending request would hold an active certificate as well
          rw [hnew] at howner
          have htwo := Store.two_le_entitlements hq hpending hr hactive (howner.symm.trans hq')
          have hone := hs q.data.userId
          omega
    · rcases (Table.mem_rows_append? happ).1 hr' with hr' | rfl
      · have hle := Table.id_le_lastId hr'
        rw [hnew]
        exact hle.trans (Int.le_of_lt (Int.lt_succ _))
      · exact le_rfl

namespace Step

variable {s : Store} {run : List (Context × Step)}

lemma runAll_activeLast (hrun : ∀ p ∈ run, p.2.isUnchecked = false)
    (hs : ∀ u, s.entitlements u ≤ 1) (hlast : s.ActiveLast) : (runAll s run).ActiveLast := by
  refine (runAll_invariant (P := fun s => (∀ u, s.entitlements u ≤ 1) ∧ s.ActiveLast)
    (fun p hp s hs => ?_) ⟨hs, hlast⟩).2
  refine next_invariant (P := fun s => (∀ u, s.entitlements u ≤ 1) ∧ s.ActiveLast)
    (fun d s t hd h hs => ?_) hs
  have hguarded := hd.isGuarded (hrun p hp)
  exact ⟨fun u => h.entitlements_le hguarded (hs.1 u), h.activeLast hguarded hs.1 hs.2⟩

/-- In a run from the empty store without unchecked steps, an active certificate is at any time the
latest one of its owner. So a submission is refused for an active certificate just where the tenant
is shown one, and else for a pending request just where the tenant is shown one. Else it makes the
request, just where the storage takes it and there is an id left. -/
theorem submission_decided (hrun : ∀ p ∈ run, p.2.isUnchecked = false) :
    let s := runAll {} run
    s.ActiveLast ∧
    ∀ (ctx : Context) (a : Account) (kind reason : Text), ctx.settings.debug.isSome →
      let o := Draft.submitRequest ctx (.user a) (.text kind) (.text reason) s
      (o = .error .certificateExists ↔ s.ShowsActive a.id) ∧
      (¬ s.ShowsActive a.id → (o = .error .requestExists ↔ s.ShowsPending a.id)) ∧
      (¬ s.ShowsActive a.id → ¬ s.ShowsPending a.id →
        ((∃ d, o = .ok d) ↔
          Draft.Submittable ctx a kind reason ∧ s.requests.lastId < maxColumn) ∧
        ∀ d, o = .ok d → d.store.certificates = s.certificates ∧
          d.store.requests.rows = s.requests.rows ++ [⟨s.requests.lastId + 1, ctx.clock.instant,
            ctx.clock.instant, Draft.requestOf a kind reason⟩]) := by
  intro s
  have hempty : ({} : Store).ActiveLast := fun r hr => absurd hr List.not_mem_nil
  have hlast : s.ActiveLast := runAll_activeLast hrun (by simp) hempty
  refine ⟨hlast, fun ctx a kind reason hdebug => ?_⟩
  intro o
  have hactive : s.holdsActive (.ofInt a.id) = true ↔ s.ShowsActive a.id :=
    Store.holdsActive_iff hlast
  have hpending : (s.pendingRequest? (.ofInt a.id)).isSome ↔ s.ShowsPending a.id :=
    Store.isSome_pendingRequest?_iff
  refine ⟨?_, fun hnone => ?_, fun hnone hfree => ⟨⟨?_, ?_⟩, fun d hd => ?_⟩⟩
  · rw [← hactive, ← Store.checkTenant_eq_certificateExists_iff]
    exact Draft.submitRequest_eq_error_iff hdebug rfl
  · rw [← hactive, Bool.not_eq_true] at hnone
    rw [← hpending, ← and_iff_right (b := (s.pendingRequest? (.ofInt a.id)).isSome) hnone,
      ← Store.checkTenant_eq_requestExists_iff]
    exact Draft.submitRequest_eq_error_iff hdebug rfl
  · rintro ⟨d, hd⟩
    obtain ⟨-, -, hsubmittable, row, t, happ, rfl⟩ := Draft.submitRequest_eq_ok_iff.1 hd
    exact ⟨hsubmittable, (Table.append?_eq_some_iff.1 happ).1⟩
  · rintro ⟨hsubmittable, hroom⟩
    have hcheck := Store.checkTenant_eq_ok hlast hnone hfree
    obtain ⟨row, t, happ⟩ :=
      Table.exists_append? hroom ctx.clock.instant (Draft.requestOf a kind reason)
    exact ⟨_, Draft.submitRequest_eq_ok_iff.2 ⟨hdebug, hcheck, hsubmittable, row, t, happ, rfl⟩⟩
  · obtain ⟨-, -, -, row, t, happ, rfl⟩ := Draft.submitRequest_eq_ok_iff.1 hd
    exact ⟨rfl, by rw [Table.append?_rows happ, Table.append?_row happ]⟩

theorem submission_decided_twoSubmissions :
    let ctx : Context := { clock := .ofUtc (utc 2026 1 15 4 30) }
    let s := runAll {} twoSubmissions
    Draft.submitRequest ctx (.user { id := 7, name := "ann" }) (.text "client") (.text "more") s
      = .error .certificateExists ∧
    ∃ d, Draft.submitRequest ctx (.user { id := 8, name := "bob" }) (.text "client") (.text "more") s
      = .ok d := by
  intro ctx s
  have hrun : ∀ p ∈ twoSubmissions, p.2.isUnchecked = false := by decide
  obtain ⟨-, h⟩ := submission_decided hrun
  constructor
  · refine (h ctx { id := 7, name := "ann" } "client" "more" rfl).1.2 ?_
    have hshown : (s.tenantCertificate? (.ofInt 7)).any (fun r => r.data.isActive) = true := by
      decide +kernel
    obtain ⟨r, hr, hactive⟩ := (Option.any_eq_true _ _).1 hshown
    exact ⟨r, hr, hactive⟩
  · have hcertificates : s.tenantCertificate? (.ofInt 8) = none := by decide +kernel
    have hrequests : s.tenantRequests (.ofInt 8) = [] := by decide +kernel
    refine (((h ctx { id := 8, name := "bob" } "client" "more" rfl).2.2 ?_ ?_).1).2 ⟨?_, ?_⟩
    · rintro ⟨r, hr, -⟩
      exact absurd (hcertificates.symm.trans hr) nofun
    · rintro ⟨r, hr, -⟩
      rw [hrequests] at hr
      exact absurd hr List.not_mem_nil
    · exact ⟨rfl, by decide, by decide, by decide, by decide, by decide, by decide⟩
    · decide +kernel

/-- A tenant who is shown nothing may fail to make a request without any fault: the settings must
say whether to debug, and the time now, the texts and the id of the tenant must be storable. -/
theorem submission_not_made :
    let s := runAll {} []
    let ctx : Context := { clock := .ofUtc (utc 2026 1 15 4 30) }
    let early : Context := { clock := ⟨0, some hour⟩ }
    let ann : Caller := .user { id := 7, name := "ann" }
    ¬ s.ShowsActive 7 ∧ ¬ s.ShowsPending 7 ∧ ¬ s.ShowsActive (-7) ∧ ¬ s.ShowsPending (-7) ∧
    (Draft.submitRequest early ann (.text "client") (.text "more") s).isOk = false ∧
    (Draft.submitRequest { ctx with settings := { debug := none } } ann (.text "client")
      (.text "more") s).isOk = false ∧
    (Draft.submitRequest ctx ann (.text "client") (.text [0xD800]) s).isOk = false ∧
    (Draft.submitRequest ctx (.user { id := -7, name := "ann" }) (.text "client") (.text "more")
      s).isOk = false := by
  have hcertificates (u : Int) : ¬ ({} : Store).ShowsActive u := by
    rintro ⟨r, hr, -⟩
    cases hr
  have hrequests (u : Int) : ¬ ({} : Store).ShowsPending u := by
    rintro ⟨r, hr, -⟩
    exact absurd (List.mem_mergeSort.1 hr) List.not_mem_nil
  refine ⟨hcertificates 7, hrequests 7, hcertificates (-7), hrequests (-7), ?_⟩
  decide +kernel

end Step

end CertRegistry
