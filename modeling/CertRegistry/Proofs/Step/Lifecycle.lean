import CertRegistry.Proofs.Step.Answer
import CertRegistry.Proofs.Store.Lifecycle

/-!
# The life of a certificate over steps

A step deletes a certificate if it is a call that says so, and that call is answered as a success.
Otherwise the certificate stays with what it was issued with. Its name and its end change by an
update of it alone, and its status by a revocation that names it or by a refresh.
-/

namespace CertRegistry

open Moment (IsShown)

/-- A failure to show a date is answered as a bad request. -/
lemma Reply.status_ofFailure_zoneOverflow (ctx : Context) :
    (ofFailure ctx .zoneOverflow).status = 400 := rfl

namespace Step

/-- A call to the route of a certificate. -/
def CallsFor (route : Nat → Route) (id : Int) : Step → Prop
  | call c => ∃ n : Nat, (n : Int) = id ∧ Route.resolve c.path = some (route n)
  | _ => False

/-- A revocation that names a certificate: by its route, or in the selection of a bulk action. -/
def Revokes (id : Int) : Step → Prop
  | bulk a ids _ => a = .revoke ∧ id ∈ ids
  | step => step.CallsFor .revokeCertificate id

/-- What a step leaves of a certificate. -/
structure Leaves (ctx : Context) (s : Store) (step : Step) (r r' : Row Certificate) : Prop where
  issue : r.SameIssue r'
  /-- Only an update of the certificate gives it another name or end. It is answered as a success,
  unless the certificate cannot be shown. -/
  update : r'.data.name ≠ r.data.name ∨ r'.data.expires ≠ r.data.expires →
    step.CallsFor .updateCertificate r.id ∧
      ((step.run ctx s).value.status? = some 200 ∨
        (step.run ctx s).value.status? = some 400 ∧ ¬ (IsShown ctx.clock.instant ∧ r.ShowsIssue))
  status : r'.data.status = r.data.status ∨
    (r'.data.status = .revoked ∧ step.Revokes r.id) ∨
    ((∃ os, step = .refresh os) ∧ Refresh.Moves ctx.clock.instant r.data r'.data.status)

variable {ctx : Context} {s : Store} {step : Step} {id : Int} {d : Deed} {r r' : Row Certificate}

/-! ### Which step may do which deed -/

lemma MayDo.callsFor_delete (h : step.MayDo (.delete id)) :
    step.CallsFor .deleteCertificate id := by
  obtain ⟨c, r, rfl, hroute, hd⟩ := h.exists_call rfl
  cases r <;> simp [Route.deeds] at hd
  exact ⟨_, hd.symm, hroute⟩

lemma MayDo.callsFor_update (h : step.MayDo (.update id)) :
    step.CallsFor .updateCertificate id := by
  obtain ⟨c, r, rfl, hroute, hd⟩ := h.exists_call rfl
  cases r <;> simp [Route.deeds] at hd
  exact ⟨_, hd.symm, hroute⟩

lemma MayDo.revokes (h : step.MayDo (.revoke id)) : step.Revokes id := by
  cases step with
  | call c =>
    obtain ⟨r, hroute, -, -, hd⟩ := h
    cases r <;> simp [Route.deeds] at hd
    exact ⟨_, hd.symm, hroute⟩
  | bulk a ids admin =>
    obtain ⟨i, hi, hd⟩ := h
    cases a <;> simp [BulkAction.deed] at hd
    subst hd
    exact ⟨rfl, hi⟩
  | form id? data => cases id? <;> simp [MayDo, ChangeForm.deeds] at h
  | refresh os => exact Deed.noConfusion h.1

lemma MayDo.eq_refresh (h : step.MayDo .refresh) : ∃ os, step = .refresh os := by
  cases step with
  | call c =>
    obtain ⟨r, -, -, -, hd⟩ := h
    cases r <;> simp [Route.deeds] at hd
  | bulk a ids admin =>
    obtain ⟨i, -, hd⟩ := h
    cases a <;> exact Deed.noConfusion hd
  | form id? data => cases id? <;> simp [MayDo, ChangeForm.deeds] at h
  | refresh os => exact ⟨os, rfl⟩

/-- A step does one deed at most, or it is a bulk action. -/
lemma isSingle_or_isBulk (step : Step) : step.IsSingle ∨ ∀ d, step.MayDo d → d.isBulk := by
  cases step with
  | bulk a ids admin =>
    refine Or.inr fun d hd => ?_
    obtain ⟨id, -, rfl⟩ := hd
    cases a <;> rfl
  | call | form | refresh => exact Or.inl trivial

/-! ### Answers to deletions and updates -/

lemma CallsFor.exists_call {route : Nat → Route} (h : step.CallsFor route id) :
    ∃ (c : Call) (n : Nat), step = call c ∧ (n : Int) = id ∧
      Route.resolve c.path = some (route n) := by
  cases step with
  | call c =>
    obtain ⟨n, hn, hroute⟩ := h
    exact ⟨c, n, rfl, hn, hroute⟩
  | bulk | form | refresh => exact h.elim

/-- A deletion is answered as a success. -/
lemma status_of_deleted (h : step.CallsFor .deleteCertificate id) (hchanged : step.next ctx s ≠ s) :
    (step.run ctx s).value.status? = some 200 := by
  obtain ⟨c, n, rfl, -, hroute⟩ := h.exists_call
  obtain ⟨r, reply, hroute', -, -, -, hvalue, hreply⟩ := call_reported hchanged
  obtain rfl : Route.deleteCertificate n = r := Option.some.inj (hroute.symm.trans hroute')
  rw [hvalue]
  exact congrArg some (hreply.resolve_right fun h => h).status

lemma status_of_updated (h : step.CallsFor .updateCertificate r.id)
    (hr : r ∈ s.certificates.rows) (hchanged : step.next ctx s ≠ s) :
    (step.run ctx s).value.status? = some 200 ∨
      (step.run ctx s).value.status? = some 400 ∧
        ¬ (IsShown ctx.clock.instant ∧ r.ShowsIssue) := by
  obtain ⟨c, n, rfl, hid, hroute⟩ := h.exists_call
  obtain ⟨route, reply, hroute', -, -, -, hvalue, hreply⟩ := call_reported hchanged
  obtain rfl : Route.updateCertificate n = route := Option.some.inj (hroute.symm.trans hroute')
  rw [hvalue]
  rcases hreply with hsuccess | ⟨hhidden, rfl⟩
  · exact Or.inl (congrArg some hsuccess.status)
  · refine Or.inr ⟨congrArg some (Reply.status_ofFailure_zoneOverflow ctx), fun hshown => ?_⟩
    refine hhidden ⟨hshown.1, fun row hrow hrowId => ?_⟩
    rw [Table.eq_of_id_eq hrow hr (hrowId.trans hid)]
    exact hshown.2

/-! ### Steps and runs -/

/-- What a deed of a step leaves of a certificate. -/
lemma leaves_of_after (hr : r ∈ s.certificates.rows)
    (hr' : r' ∈ (step.next ctx s).certificates.rows) (hmay : step.MayDo d)
    (hafter : r.After ctx.clock.instant d r') : step.Leaves ctx s r r' where
  issue := hafter.sameIssue
  update := by
    intro hne
    obtain rfl := hafter.eq_update hne
    refine ⟨hmay.callsFor_update, status_of_updated hmay.callsFor_update hr fun hsame => ?_⟩
    -- in an unchanged store both rows are the one with this id
    rw [hsame] at hr'
    rw [Table.eq_of_id_eq hr' hr hafter.sameIssue.id] at hne
    simp at hne
  status := by
    rcases hafter.status_cases with hstatus | ⟨rfl, hstatus⟩ | ⟨rfl, hmoves⟩
    · exact Or.inl hstatus
    · exact Or.inr (Or.inl ⟨hstatus, hmay.revokes⟩)
    · exact Or.inr (Or.inr ⟨hmay.eq_refresh, hmoves⟩)

/-- A certificate that a step does not touch. -/
lemma leaves_self (ctx : Context) (s : Store) (step : Step) (r : Row Certificate) :
    step.Leaves ctx s r r :=
  ⟨.refl r, fun hne => by simp at hne, Or.inl rfl⟩

lemma next_certificate (ctx : Context) (step : Step) (hr : r ∈ s.certificates.rows) :
    ((∀ r' ∈ (step.next ctx s).certificates.rows, r'.id ≠ r.id) ∧
      step.CallsFor .deleteCertificate r.id ∧ (step.run ctx s).value.status? = some 200) ∨
    ∃ r' ∈ (step.next ctx s).certificates.rows, step.Leaves ctx s r r' := by
  obtain ⟨ds, hmay, hsingle, heffect⟩ := run_effect ctx s step
  have hds : ds.length ≤ 1 ∨ ∀ d ∈ ds, d.isBulk :=
    (isSingle_or_isBulk step).imp hsingle fun h d hd => h d (hmay d hd)
  rcases heffect.changes.exists_after hds hr with ⟨hdelete, hgone⟩ | ⟨r', hr', rfl | ⟨d, hd, hafter⟩⟩
  · -- a call that does a deed need not succeed, but one that removes a row has changed the store
    have hcall := (hmay _ hdelete).callsFor_delete
    refine Or.inl ⟨hgone, hcall, status_of_deleted hcall fun hsame => ?_⟩
    have hgone : ∀ r' ∈ (step.next ctx s).certificates.rows, r'.id ≠ r.id := hgone
    rw [hsame] at hgone
    exact hgone r hr rfl
  · exact Or.inr ⟨_, hr', leaves_self ctx s step _⟩
  · exact Or.inr ⟨r', hr', leaves_of_after hr hr' (hmay d hd) hafter⟩

lemma runAll_becomes (s : Store) (run : List (Context × Step)) : s.Becomes (runAll s run) := by
  refine runAll_invariant (P := s.Becomes) (fun p _ t ht => ?_) (.refl s)
  exact next_invariant (P := s.Becomes) (fun _ _ _ _ h hs => hs.trans h.becomes) ht

/-- The life of a certificate. A step deletes it by a call to its deletion that is answered as a
success, or it leaves the certificate with what it was issued with: the name and the end change by
an update of it, the status by a revocation or a refresh. So over a run a revoked certificate stays
revoked, an expired one can only be revoked, and an inactive one becomes active no more. -/
theorem certificate_lifecycle (s : Store) :
    (∀ (ctx : Context) (step : Step), ∀ r ∈ s.certificates.rows,
      ((∀ r' ∈ (step.next ctx s).certificates.rows, r'.id ≠ r.id) ∧
        step.CallsFor .deleteCertificate r.id ∧ (step.run ctx s).value.status? = some 200) ∨
      ∃ r' ∈ (step.next ctx s).certificates.rows, step.Leaves ctx s r r') ∧
    ∀ run : List (Context × Step), ∀ r ∈ s.certificates.rows,
      ∀ r' ∈ (runAll s run).certificates.rows, r'.id = r.id → r.Follows r' := by
  constructor
  · intro ctx step r hr
    exact next_certificate ctx step hr
  · intro run r hr r' hr' hid
    exact (runAll_becomes s run).follows_of_id_eq hr hr' hid

/-- A store with a certificate that was revoked. -/
def revokedStore : Store :=
  { heldStore with certificates := heldStore.certificates.change heldRow 0 heldRow.data.revoke }

/-- The end of a certificate is moved to a later time, and the statuses are refreshed. -/
def prolongation : List (Context × Step) :=
  let ctx : Context := { clock := .ofUtc (utc 2026 1 15 4 30) }
  [(ctx, .call changeCall), (ctx, .refresh {})]

theorem certificate_lifecycle_prolongation :
    (runAll revokedStore prolongation).certificates.rows.map (fun r => r.data.expires)
      = [utc 2030 1 1 0] ∧
    ∀ r ∈ (runAll revokedStore prolongation).certificates.rows, r.id = 1 →
      r.data.status = .revoked := by
  have hexpires : (runAll revokedStore prolongation).certificates.rows.map (fun r => r.data.expires)
      = [utc 2030 1 1 0] := by decide +kernel
  refine ⟨hexpires, fun r hr hid => ?_⟩
  have hmem : heldRow.change 0 heldRow.data.revoke ∈ revokedStore.certificates.rows := by decide
  exact ((certificate_lifecycle revokedStore).2 prolongation _ hmem r hr hid).revoked rfl

/-- An update four hours before the end of the year 9999, which is past that end in the zone, is
answered as a bad request and changes the certificate. -/
theorem hiddenChange_renames :
    let ctx : Context := { clock := .ofUtc (timeEnd - 4 * hour) }
    ((call changeCall).run ctx heldStore).value.status? ≠ some 200 ∧
    ∃ r ∈ ((call changeCall).next ctx heldStore).certificates.rows,
      r.id = heldRow.id ∧ r.data.name ≠ heldRow.data.name := by
  decide +kernel

end Step

end CertRegistry
