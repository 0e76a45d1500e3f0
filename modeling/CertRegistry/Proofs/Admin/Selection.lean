import CertRegistry.Admin.BulkAction
import CertRegistry.Proofs.Store.Fault

/-!
# Selections

The rows of a selection that are still to come are stored as they were when they were selected. So a
certificate that was selected is there to be revoked: no rule keeps it from that, and it makes no
difference that a revocation, unlike the other actions, would pass over no row. What ends an action
is never a rule of the registry.
-/

namespace CertRegistry

/-! ### Rows that are still to come -/

/-- Rows that were selected and are still to come: each is stored as it was then, and no two of them
have the same id. -/
structure Table.Fresh {α : Type} (t : Table α) (rows : List (Row α)) : Prop where
  stored : ∀ row ∈ rows, row ∈ t.rows
  distinct : rows.Pairwise fun r r' => r.id ≠ r'.id

namespace Table.Fresh

variable {α : Type} {t : Table α} {row : Row α} {rows : List (Row α)} {now : Instant} {a : α}

lemma of_sublist (h : rows.Sublist t.rows) : t.Fresh rows :=
  ⟨fun _ hrow => h.subset hrow, (t.sorted.sublist h).imp fun hlt => ne_of_lt hlt⟩

lemma tail (h : t.Fresh (row :: rows)) : t.Fresh rows :=
  ⟨fun r hr => h.stored r (List.mem_cons_of_mem _ hr), (List.pairwise_cons.1 h.distinct).2⟩

lemma id_ne (h : t.Fresh (row :: rows)) {r : Row α} (hr : r ∈ rows) : r.id ≠ row.id :=
  ((List.pairwise_cons.1 h.distinct).1 r hr).symm

/-- A change of one row leaves those that come after it as they were. -/
lemma change (h : t.Fresh (row :: rows)) : (t.change row now a).Fresh rows where
  stored r hr := by
    rw [mem_rows_change (h.stored row List.mem_cons_self)]
    exact Or.inl ⟨h.tail.stored r hr, h.id_ne hr⟩
  distinct := h.tail.distinct

lemma get? (h : t.Fresh (row :: rows)) : t.get? (.ofInt row.id) = some row :=
  get?_eq_some_iff.2 ⟨h.stored row List.mem_cons_self, rfl⟩

end Table.Fresh

namespace BulkAction

variable {ctx : Context} {s : Store} {admin : Text} {ids : List Int}

/-! ### What is selected -/

lemma selected_nil {α : Type} (t : Table α) : selected t [] = [] := by simp [selected]

lemma mem_of_mem_selected {α : Type} {t : Table α} {row : Row α} (h : row ∈ selected t ids) :
    row.id ∈ ids := by
  simpa using (List.mem_filter.1 h).2

lemma fresh_selected {α : Type} (t : Table α) (ids : List Int) : t.Fresh (selected t ids) :=
  .of_sublist List.filter_sublist

/-- The selected certificates that are not revoked. -/
def unrevoked (t : Table Certificate) (ids : List Int) : List (Row Certificate) :=
  (selected t ids).filter fun r => r.data.status ≠ .revoked

lemma fresh_unrevoked (t : Table Certificate) (ids : List Int) : t.Fresh (unrevoked t ids) :=
  .of_sublist (List.filter_sublist.trans List.filter_sublist)

lemma checkSelection_eq_ok_iff {u : Unit} : checkSelection ctx ids = .ok u ↔
    ids ≠ [] → ctx.settings.debug.isSome ∧ ∀ id ∈ ids, Integer.fits id := by
  unfold checkSelection
  by_cases hids : ids = []
  · simp [hids, pure_eq_ok_iff]
  · simp only [hids, if_false, bind_eq_ok_iff, Context.reach_eq_ok_iff, exists_const, ne_eq,
      not_false_eq_true, forall_const, List.all_eq_true]
    refine and_congr_right fun _ => ?_
    split_ifs with hfits
    · simpa [pure_eq_ok_iff] using hfits
    · simpa [throw_ne_ok] using hfits

lemma checkSelection_failsWith (ctx : Context) (ids : List Int) :
    FailsWith Failure.IsFault (checkSelection ctx ids) := by
  unfold checkSelection
  split_ifs
  · exact .ok _
  · exact ctx.reach_failsWith.bind fun _ => .ok _
  · exact ctx.reach_failsWith.bind fun _ => .error ⟨rfl, rfl⟩

/-! ### Revocations -/

/-- A revocation is like an action that would pass over what a rule keeps from it, with whatever
warnings: there is no such row. -/
lemma revokeAll_eq_processAll (title : Certificate → Text) :
    ∀ (rows : List (Row Certificate)) (p : Progress), p.store.certificates.Fresh rows →
      revokeAll ctx rows p =
        processAll title (fun row s => s.revokeCertificate ctx (.ofInt row.id)) rows p
  | [], _, _ => rfl
  | row :: rows, p, h => by
    rw [revokeAll, processAll]
    cases hd : p.store.revokeCertificate ctx (.ofInt row.id) with
    | ok d =>
      obtain ⟨-, row', hrow, -, -, rfl⟩ := Store.revokeCertificate_eq_ok_iff.1 hd
      obtain rfl := Option.some.inj (h.get?.symm.trans hrow)
      exact revokeAll_eq_processAll title rows _ h.change
    | error f =>
      have hrule : f.isRule = false := (Store.revokeCertificate_failsWith_of_stored h.get? f hd).2
      simp only [hrule, Bool.false_eq_true, if_false]

lemma applyTo_revoke (title : Certificate → Text) :
    revoke.applyTo ctx admin ids s =
      processAll title (fun row s => s.revokeCertificate ctx (.ofInt row.id))
        (unrevoked s.certificates ids) { store := s } :=
  revokeAll_eq_processAll title _ _ (fresh_unrevoked s.certificates ids)

/-! ### What ends an action -/

lemma failure?_processAll {α β : Type} {title : α → Text}
    {act : Row α → Store → Except Failure (Done β)} {rows : List (Row α)} {p : Progress}
    (hp : ∀ f ∈ p.failure?, f.isRule = false) :
    ∀ f ∈ (processAll title act rows p).failure?, f.isRule = false := by
  induction rows generalizing p with
  | nil => exact hp
  | cons row rows ih =>
    rw [processAll]
    split
    · exact ih hp
    · next f _ =>
      split_ifs with hrule
      · exact ih hp
      · intro g hg
        rw [← Option.some.inj hg]
        exact Bool.eq_false_of_not_eq_true hrule

/-- An action that is ended by a failure is not ended by a rule: a request that a rule keeps from
being decided is passed over, and a certificate that was selected is there to be revoked. -/
theorem notices_failsWith (a : BulkAction) (ctx : Context) (admin : Text) (ids : List Int)
    (s : Store) : FailsWith (·.isRule = false) (a.notices (a.progress ctx admin ids s)) := by
  have hstart : ∀ f ∈ ({ store := s } : Progress).failure?, f.isRule = false := nofun
  have hend : ∀ f ∈ (a.progress ctx admin ids s).failure?, f.isRule = false := by
    unfold progress
    split
    · cases a with
      | revoke =>
        rw [applyTo_revoke Certificate.title]
        exact failure?_processAll hstart
      | approve | reject => exact failure?_processAll hstart
    · next f hf =>
      intro g hg
      rw [← Option.some.inj hg]
      exact (checkSelection_failsWith ctx ids f hf).2
  unfold notices
  split
  · next f hf => exact .error (hend f hf)
  · exact .ok _

end BulkAction

end CertRegistry
