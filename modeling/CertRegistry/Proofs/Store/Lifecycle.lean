import CertRegistry.Proofs.Certificate.Refresh
import CertRegistry.Proofs.Store.Deed

/-!
# The life of a certificate

A deed leaves the table of certificates with the same rows, each of them as it was or changed in the
one way of the deed, or with one row less, or with one more. So from any store to a later one a
certificate keeps what it was issued with, and its status only moves on: no way leads back from
revoked, from expired to anything but revoked, or from inactive to active.
-/

namespace CertRegistry

namespace Deed

/-- A deed that a bulk action may do. -/
def isBulk : Deed → Bool
  | revoke _ | approve _ | reject _ => true
  | _ => false

end Deed

namespace Row

/-- What a certificate was issued with. -/
structure SameIssue (r r' : Row Certificate) : Prop where
  id : r'.id = r.id
  createdAt : r'.createdAt = r.createdAt
  kind : r'.data.kind = r.data.kind
  owner : r'.data.owner = r.data.owner
  ownerId : r'.data.ownerId = r.data.ownerId
  content : r'.data.content = r.data.content
  issued : r'.data.issued = r.data.issued

/-- A row that a certificate may have later on. -/
structure Follows (r r' : Row Certificate) : Prop where
  issue : r.SameIssue r'
  revoked : r.data.status = .revoked → r'.data.status = .revoked
  expired : r.data.status = .expired → r'.data.status = .expired ∨ r'.data.status = .revoked
  active : r'.data.isActive → r.data.isActive

/-- The row of a certificate after a deed. -/
inductive After (now : Instant) (r : Row Certificate) : Deed → Row Certificate → Prop
  | same (d : Deed) : After now r d r
  | update (name : Text) (expires : Instant) :
      After now r (.update r.id) (r.change now { r.data with name, expires })
  | revoke : After now r (.revoke r.id) (r.change now r.data.revoke)
  | refresh (threshold : Instant) : After now r .refresh (Refresh.refreshRow now threshold r)

variable {r r₁ r₂ r' : Row Certificate} {now : Instant} {d : Deed}

namespace SameIssue

lemma refl (r : Row Certificate) : r.SameIssue r := ⟨rfl, rfl, rfl, rfl, rfl, rfl, rfl⟩

lemma trans (h : r.SameIssue r₁) (h' : r₁.SameIssue r₂) : r.SameIssue r₂ where
  id := h'.id.trans h.id
  createdAt := h'.createdAt.trans h.createdAt
  kind := h'.kind.trans h.kind
  owner := h'.owner.trans h.owner
  ownerId := h'.ownerId.trans h.ownerId
  content := h'.content.trans h.content
  issued := h'.issued.trans h.issued

end SameIssue

namespace Follows

lemma refl (r : Row Certificate) : r.Follows r := ⟨.refl r, fun h => h, Or.inl, fun h => h⟩

lemma trans (h : r.Follows r₁) (h' : r₁.Follows r₂) : r.Follows r₂ where
  issue := h.issue.trans h'.issue
  revoked := h'.revoked ∘ h.revoked
  expired := by
    intro hr
    rcases h.expired hr with hexpired | hrevoked
    · exact h'.expired hexpired
    · exact Or.inr (h'.revoked hrevoked)
  active := h.active ∘ h'.active

/-- A certificate whose status stays. -/
lemma of_status_eq (h : r.SameIssue r') (hstatus : r'.data.status = r.data.status) :
    r.Follows r' := by
  refine ⟨h, hstatus.trans, fun hr => Or.inl (hstatus.trans hr), fun hactive => ?_⟩
  rw [Certificate.isActive, hstatus] at hactive
  exact hactive

lemma of_revoked (h : r.SameIssue r') (hstatus : r'.data.status = .revoked) : r.Follows r' := by
  refine ⟨h, fun _ => hstatus, fun _ => Or.inr hstatus, fun hactive => ?_⟩
  rw [Certificate.isActive, hstatus] at hactive
  exact absurd hactive Bool.false_ne_true

lemma of_moves (h : r.SameIssue r') (hmoves : Refresh.Moves now r.data r'.data.status) :
    r.Follows r' := by
  obtain ⟨hrevoked, hexpired⟩ := hmoves.status_ne
  exact ⟨h, fun hr => absurd hr hrevoked, fun hr => absurd hr hexpired, hmoves.isActive⟩

end Follows

namespace After

lemma sameIssue (h : r.After now d r') : r.SameIssue r' := by
  cases h with
  | same => exact .refl r
  | update name expires => exact ⟨rfl, rfl, rfl, rfl, rfl, rfl, rfl⟩
  | revoke => exact ⟨rfl, rfl, rfl, rfl, rfl, rfl, rfl⟩
  | refresh threshold =>
    rcases Refresh.refreshRow_cases now threshold r with heq | ⟨status, -, heq⟩
    · rw [heq]
      exact .refl r
    · rw [heq]
      exact ⟨rfl, rfl, rfl, rfl, rfl, rfl, rfl⟩

/-- Only an update gives a certificate another name or another end. -/
lemma eq_update (h : r.After now d r')
    (hne : r'.data.name ≠ r.data.name ∨ r'.data.expires ≠ r.data.expires) : d = .update r.id := by
  cases h with
  | update name expires => rfl
  | same => simp at hne
  | revoke => simp [Row.change, Certificate.revoke] at hne
  | refresh threshold =>
    rcases Refresh.refreshRow_cases now threshold r with heq | ⟨status, -, heq⟩ <;>
      simp [heq] at hne

/-- The status of a certificate stays, or the certificate is revoked, or a refresh moves it. -/
lemma status_cases (h : r.After now d r') :
    r'.data.status = r.data.status ∨ (d = .revoke r.id ∧ r'.data.status = .revoked) ∨
      (d = .refresh ∧ Refresh.Moves now r.data r'.data.status) := by
  cases h with
  | same => exact Or.inl rfl
  | update name expires => exact Or.inl rfl
  | revoke => exact Or.inr (Or.inl ⟨rfl, rfl⟩)
  | refresh threshold =>
    rcases Refresh.refreshRow_cases now threshold r with heq | ⟨status, hmoves, heq⟩
    · exact Or.inl (by rw [heq])
    · exact Or.inr (Or.inr ⟨rfl, by rw [heq]; exact hmoves⟩)

/-- Of the deeds of bulk actions, only the revocation of a certificate changes it. -/
lemma eq_of_isBulk (h : r.After now d r') (hd : d.isBulk) :
    r' = r ∨ (d = .revoke r.id ∧ r' = r.change now r.data.revoke) := by
  cases h with
  | same => exact Or.inl rfl
  | revoke => exact Or.inr ⟨rfl, rfl⟩
  | update | refresh => exact absurd hd Bool.false_ne_true

lemma follows (h : r.After now d r') : r.Follows r' := by
  rcases h.status_cases with hstatus | ⟨-, hstatus⟩ | ⟨-, hmoves⟩
  · exact .of_status_eq h.sameIssue hstatus
  · exact .of_revoked h.sameIssue hstatus
  · exact .of_moves h.sameIssue hmoves

end After

end Row

namespace Change

variable {now : Instant} {d : Deed} {s t : Store} {r r' : Row Certificate}

/-- What a deed does to the table of certificates: every row stays or changes in the way of the
deed, or one row is deleted, or one is appended, which is recorded or is for a pending request. -/
lemma certificates_cases (h : Change now d s t) :
    (∃ f : Row Certificate → Row Certificate,
      t.certificates.rows = s.certificates.rows.map f ∧
      t.certificates.lastId = s.certificates.lastId ∧
      ∀ r ∈ s.certificates.rows, r.After now d (f r)) ∨
    (∃ id, d = .delete id ∧ t.certificates = s.certificates.erase id) ∨
    ∃ c row, s.certificates.append? now c = some (row, t.certificates) ∧ (d = .record ∨
      ∃ q ∈ s.requests.rows, q.data.isPending ∧ c.ownerId = q.data.userId) := by
  have hchange {row : Row Certificate} (hrow : row ∈ s.certificates.rows) {c : Certificate}
      (hafter : row.After now d (row.change now c)) :
      ∃ f : Row Certificate → Row Certificate,
        (s.certificates.change row now c).rows = s.certificates.rows.map f ∧
        (s.certificates.change row now c).lastId = s.certificates.lastId ∧
        ∀ r ∈ s.certificates.rows, r.After now d (f r) := by
    refine ⟨_, Table.rows_change, rfl, fun r hr => ?_⟩
    split_ifs with hid
    · obtain rfl := Table.eq_of_id_eq hr hrow hid
      exact hafter
    · exact .same d
  cases h with
  | record hstatus happ => exact Or.inr (Or.inr ⟨_, _, happ, Or.inl rfl⟩)
  | approve hrow hpending admin happ =>
    exact Or.inr (Or.inr ⟨_, _, happ, Or.inr ⟨_, hrow, hpending, rfl⟩⟩)
  | delete hrow => exact Or.inr (Or.inl ⟨_, rfl, rfl⟩)
  | update hrow name expires => exact Or.inl (hchange hrow (.update name expires))
  | revoke hrow => exact Or.inl (hchange hrow .revoke)
  | refresh threshold =>
    exact Or.inl ⟨_, Refresh.rows_run now threshold _, rfl, fun r _ => .refresh threshold⟩
  | request | submit | reject | edit | touch =>
    exact Or.inl ⟨id, (List.map_id _).symm, rfl, fun r _ => .same _⟩

lemma certificates_lastId_le (h : Change now d s t) :
    s.certificates.lastId ≤ t.certificates.lastId := by
  rcases h.certificates_cases with ⟨f, -, hlast, -⟩ | ⟨id, -, ht⟩ | ⟨c, row, happ, -⟩
  · exact hlast.ge
  · rw [ht]
    exact le_rfl
  · rw [Table.append?_lastId happ]
    exact Nat.le_succ _

/-- A certificate is deleted, or there is what the deed has left of it. -/
lemma exists_after (h : Change now d s t) (hr : r ∈ s.certificates.rows) :
    (d = .delete r.id ∧ ∀ r' ∈ t.certificates.rows, r'.id ≠ r.id) ∨
      ∃ r' ∈ t.certificates.rows, r.After now d r' := by
  rcases h.certificates_cases with ⟨f, hrows, -, hf⟩ | ⟨id, rfl, ht⟩ | ⟨c, row, happ, -⟩
  · exact Or.inr ⟨f r, hrows ▸ List.mem_map_of_mem hr, hf r hr⟩
  · rw [ht]
    by_cases hid : r.id = id
    · subst hid
      exact Or.inl ⟨rfl, fun r' hr' => (Table.mem_rows_erase.1 hr').2⟩
    · exact Or.inr ⟨r, Table.mem_rows_erase.2 ⟨hr, hid⟩, .same _⟩
  · exact Or.inr ⟨r, (Table.mem_rows_append? happ).2 (Or.inl hr), .same d⟩

/-- A certificate is new, or it is what the deed has left of an old one. -/
lemma exists_before (h : Change now d s t) (hr' : r' ∈ t.certificates.rows) :
    (s.certificates.lastId : Int) < r'.id ∨ ∃ r ∈ s.certificates.rows, r.After now d r' := by
  rcases h.certificates_cases with ⟨f, hrows, -, hf⟩ | ⟨id, rfl, ht⟩ | ⟨c, row, happ, -⟩
  · rw [hrows] at hr'
    obtain ⟨r, hr, rfl⟩ := List.mem_map.1 hr'
    exact Or.inr ⟨r, hr, hf r hr⟩
  · rw [ht] at hr'
    exact Or.inr ⟨r', (Table.mem_rows_erase.1 hr').1, .same _⟩
  · rcases (Table.mem_rows_append? happ).1 hr' with hmem | rfl
    · exact Or.inr ⟨r', hmem, .same d⟩
    · rw [Table.append?_row happ]
      exact Or.inl (Int.lt_succ _)

end Change

namespace Changes

variable {now : Instant} {ds : List Deed} {s t : Store} {r : Row Certificate}

/-- The deeds of a bulk action leave a certificate as it was, or as one of them has revoked it. -/
lemma exists_after_of_isBulk (h : Changes now ds s t) (hds : ∀ d ∈ ds, d.isBulk)
    (hr : r ∈ s.certificates.rows) : r ∈ t.certificates.rows ∨
      (.revoke r.id ∈ ds ∧ r.change now r.data.revoke ∈ t.certificates.rows) := by
  induction h generalizing r with
  | nil => exact Or.inl hr
  | @cons d ds s t u head _ ih =>
    have hd := hds d List.mem_cons_self
    have ih {r : Row Certificate} := ih (r := r) fun d hd => hds d (List.mem_cons_of_mem _ hd)
    rcases head.exists_after hr with ⟨rfl, -⟩ | ⟨r', hr', hafter⟩
    · exact absurd hd Bool.false_ne_true
    rcases hafter.eq_of_isBulk hd with rfl | ⟨rfl, rfl⟩
    · exact (ih hr').imp_right (And.imp_left (List.mem_cons_of_mem _))
    · -- a second revocation at the same time would leave the row as the first one did
      refine Or.inr ⟨List.mem_cons_self, ?_⟩
      exact (ih hr').elim (fun hmem => hmem) And.right

/-- After one deed, or those of a bulk action, a certificate is deleted, or it is what one of the
deeds has left of it. -/
lemma exists_after (h : Changes now ds s t) (hds : ds.length ≤ 1 ∨ ∀ d ∈ ds, d.isBulk)
    (hr : r ∈ s.certificates.rows) :
    (.delete r.id ∈ ds ∧ ∀ r' ∈ t.certificates.rows, r'.id ≠ r.id) ∨
      ∃ r' ∈ t.certificates.rows, r' = r ∨ ∃ d ∈ ds, r.After now d r' := by
  rcases hds with hlength | hbulk
  · match ds, hlength, h with
    | [], _, h =>
      rw [h.eq_of_nil]
      exact Or.inr ⟨r, hr, Or.inl rfl⟩
    | [d], _, h =>
      rcases h.change_of_single.exists_after hr with ⟨rfl, hgone⟩ | ⟨r', hr', hafter⟩
      · exact Or.inl ⟨List.mem_singleton_self _, hgone⟩
      · exact Or.inr ⟨r', hr', Or.inr ⟨d, List.mem_singleton_self _, hafter⟩⟩
  · rcases h.exists_after_of_isBulk hbulk hr with hmem | ⟨hrevoke, hmem⟩
    · exact Or.inr ⟨r, hmem, Or.inl rfl⟩
    · exact Or.inr ⟨_, hmem, Or.inr ⟨_, hrevoke, .revoke⟩⟩

end Changes

/-- A store that a store may become: its certificates are new, or they follow from old ones. -/
structure Store.Becomes (s t : Store) : Prop where
  lastId_le : s.certificates.lastId ≤ t.certificates.lastId
  follows : ∀ r' ∈ t.certificates.rows, (s.certificates.lastId : Int) < r'.id ∨
    ∃ r ∈ s.certificates.rows, r.Follows r'

namespace Store.Becomes

variable {s t u : Store} {r r' : Row Certificate}

lemma refl (s : Store) : s.Becomes s := ⟨le_rfl, fun r hr => Or.inr ⟨r, hr, .refl r⟩⟩

lemma trans (h : s.Becomes t) (h' : t.Becomes u) : s.Becomes u where
  lastId_le := h.lastId_le.trans h'.lastId_le
  follows := by
    intro r₂ hr₂
    rcases h'.follows r₂ hr₂ with hnew | ⟨r₁, hr₁, hfollows'⟩
    · exact Or.inl ((Int.ofNat_le.2 h.lastId_le).trans_lt hnew)
    rcases h.follows r₁ hr₁ with hnew | ⟨r, hr, hfollows⟩
    · rw [← hfollows'.issue.id] at hnew
      exact Or.inl hnew
    · exact Or.inr ⟨r, hr, hfollows.trans hfollows'⟩

/-- Rows with one id are rows of one certificate, since no id is given out twice. -/
lemma follows_of_id_eq (h : s.Becomes t) (hr : r ∈ s.certificates.rows)
    (hr' : r' ∈ t.certificates.rows) (hid : r'.id = r.id) : r.Follows r' := by
  rcases h.follows r' hr' with hnew | ⟨old, hold, hfollows⟩
  · have hle := Table.id_le_lastId hr
    omega
  · obtain rfl := Table.eq_of_id_eq hold hr (hfollows.issue.id.symm.trans hid)
    exact hfollows

end Store.Becomes

lemma Change.becomes {now : Instant} {d : Deed} {s t : Store} (h : Change now d s t) :
    s.Becomes t where
  lastId_le := h.certificates_lastId_le
  follows := fun _ hr' => (h.exists_before hr').imp_right fun ⟨r, hr, hafter⟩ =>
    ⟨r, hr, hafter.follows⟩

end CertRegistry
