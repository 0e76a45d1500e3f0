import CertRegistry.Proofs.Store.Stamp
import CertRegistry.Request.Submission

/-!
# Rows in the order in which they were made

Ids are given out in increasing order and never twice. So the ids that a table has given out, in the
order in which it did, are increasing, whatever has been deleted or undone since. A view of rows by
their ids goes by this order, and so does one by the times at which they were made, as long as the
time never went back.
-/

namespace CertRegistry

/-! ### Ids that were given out -/

namespace Table

variable {α : Type} {t u : Table α} {now : Instant} {ids : List Int}

/-- The ids in a table that were not in it before. -/
def newIds (t u : Table α) : List Int :=
  (u.rows.map Row.id).filter fun id => id ∉ t.rows.map Row.id

/-- The ids that a table has given out, in the order in which it did. -/
structure Made (t : Table α) (ids : List Int) : Prop where
  increasing : ids.Pairwise (· < ·)
  le_lastId : ∀ id ∈ ids, id ≤ t.lastId
  stored : ∀ r ∈ t.rows, r.id ∈ ids

lemma newIds_self (t : Table α) : t.newIds t = [] := by
  simp [newIds]

lemma newIds_eq_nil (h : ∀ r ∈ u.rows, ∃ r' ∈ t.rows, r'.id = r.id) : t.newIds u = [] := by
  rw [newIds, List.filter_eq_nil_iff]
  intro id hid
  obtain ⟨r, hr, rfl⟩ := List.mem_map.1 hid
  obtain ⟨r', hr', heq⟩ := h r hr
  simpa using ⟨r', hr', heq⟩

lemma pairwise_newIds (t u : Table α) : (t.newIds u).Pairwise (· < ·) :=
  (List.pairwise_map.2 u.sorted).filter _

/-- A new id has not been given out before. -/
lemma lt_of_mem_newIds (h : t.Stamped now u) {id : Int} (hid : id ∈ t.newIds u) :
    t.lastId < id := by
  obtain ⟨hid, hnew⟩ := List.mem_filter.1 hid
  obtain ⟨r, hr, rfl⟩ := List.mem_map.1 hid
  rcases h.rows r hr with ⟨r', hr', hrow⟩ | ⟨hlt, -⟩
  · have hold : r.id ∈ t.rows.map Row.id := hrow.id ▸ List.mem_map_of_mem hr'
    simp [hold] at hnew
  · exact hlt

namespace Made

lemma empty : ({} : Table α).Made [] := ⟨.nil, nofun, nofun⟩

lemma stamped (h : t.Made ids) (hstamped : t.Stamped now u) : u.Made (ids ++ t.newIds u) where
  increasing := by
    refine List.pairwise_append.2 ⟨h.increasing, pairwise_newIds t u, fun a ha b hb => ?_⟩
    exact (h.le_lastId a ha).trans_lt (lt_of_mem_newIds hstamped hb)
  le_lastId := by
    intro id hid
    rcases List.mem_append.1 hid with hid | hid
    · exact (h.le_lastId id hid).trans (Int.ofNat_le.2 hstamped.lastId_le)
    · obtain ⟨r, hr, rfl⟩ := List.mem_map.1 (List.mem_filter.1 hid).1
      exact u.bounded r hr
  stored := by
    intro r hr
    rw [List.mem_append]
    by_cases hold : r.id ∈ t.rows.map Row.id
    · obtain ⟨r', hr', heq⟩ := List.mem_map.1 hold
      exact Or.inl (heq ▸ h.stored r' hr')
    · exact Or.inr (List.mem_filter.2 ⟨List.mem_map_of_mem hr, by simpa using hold⟩)

lemma mem_filterMap_find? (h : t.Made ids) {r : Row α} :
    r ∈ ids.filterMap t.find? ↔ r ∈ t.rows := by
  rw [List.mem_filterMap]
  constructor
  · rintro ⟨id, -, hr⟩
    exact (find?_eq_some_iff.1 hr).1
  · intro hr
    exact ⟨r.id, h.stored r hr, find?_eq_some_iff.2 ⟨hr, rfl⟩⟩

/-- The stored rows in the order in which they were made are the rows as they are stored. -/
lemma filterMap_find? (h : t.Made ids) : ids.filterMap t.find? = t.rows := by
  have hsorted : (ids.filterMap t.find?).Pairwise fun a b => a.id < b.id := by
    refine List.pairwise_filterMap.2 (h.increasing.imp fun {a b} hlt r hr r' hr' => ?_)
    rw [(find?_eq_some_iff.1 hr).2, (find?_eq_some_iff.1 hr').2]
    exact hlt
  have hnodup {l : List (Row α)} (hl : l.Pairwise fun a b => a.id < b.id) : l.Nodup :=
    hl.imp fun hlt heq => absurd (congrArg Row.id heq) (ne_of_lt hlt)
  have hperm : (ids.filterMap t.find?).Perm t.rows :=
    (List.perm_ext_iff_of_nodup (hnodup hsorted) (hnodup t.sorted)).2
      fun r => h.mem_filterMap_find?
  exact hperm.eq_of_pairwise (fun a b _ _ hab hba => absurd hba (lt_asymm hab)) hsorted t.sorted

end Made

end Table

/-! ### A deed makes one row at most -/

section Deeds

variable {α : Type} {t u : Table α} {row : Row α} {now : Instant} {a : α} {d : Deed} {s s' : Store}

lemma Table.newIds_change (hrow : row ∈ t.rows) : t.newIds (t.change row now a) = [] := by
  apply newIds_eq_nil
  intro r hr
  rcases (mem_rows_change hrow).1 hr with ⟨hr, -⟩ | rfl
  · exact ⟨r, hr, rfl⟩
  · exact ⟨row, hrow, rfl⟩

lemma Table.length_newIds_append? (h : t.append? now a = some (row, u)) :
    (t.newIds u).length ≤ 1 := by
  have hold : (t.rows.map Row.id).filter (fun id => id ∉ t.rows.map Row.id) = [] := newIds_self t
  rw [newIds, append?_rows h, List.map_append, List.filter_append, hold, List.nil_append]
  exact List.length_filter_le _ _

lemma Change.length_newIds (h : Change now d s s') :
    (s.certificates.newIds s'.certificates).length ≤ 1 ∧
      (s.requests.newIds s'.requests).length ≤ 1 := by
  have hnil {α : Type} (t : Table α) : (t.newIds t).length ≤ 1 := by simp [Table.newIds_self]
  have hchange {α : Type} {t : Table α} {row : Row α} (hrow : row ∈ t.rows) (a : α) :
      (t.newIds (t.change row now a)).length ≤ 1 := by simp [Table.newIds_change hrow]
  cases h with
  | record hstatus happ => exact ⟨Table.length_newIds_append? happ, hnil _⟩
  | update hrow name expires => exact ⟨hchange hrow _, hnil _⟩
  | @delete row hrow =>
    refine ⟨?_, hnil _⟩
    rw [Table.newIds_eq_nil fun r hr => ⟨r, (Table.mem_rows_erase.1 hr).1, rfl⟩]
    exact Nat.zero_le 1
  | revoke hrow => exact ⟨hchange hrow _, hnil _⟩
  | refresh threshold =>
    refine ⟨?_, hnil _⟩
    rw [Table.newIds_eq_nil fun r hr => ?_]
    · exact Nat.zero_le 1
    · rw [Refresh.rows_run, List.mem_map] at hr
      obtain ⟨r', hr', rfl⟩ := hr
      rcases Refresh.refreshRow_cases now threshold r' with heq | ⟨status, -, heq⟩
      · exact ⟨r', hr', by rw [heq]⟩
      · exact ⟨r', hr', by rw [heq]⟩
  | request byForm hnew happ => exact ⟨hnil _, Table.length_newIds_append? happ⟩
  | submit hnew hactive hpending happ => exact ⟨hnil _, Table.length_newIds_append? happ⟩
  | approve hrow hpending admin happ => exact ⟨Table.length_newIds_append? happ, hchange hrow _⟩
  | reject hrow hpending admin reason => exact ⟨hnil _, hchange hrow _⟩
  | edit hrow hpending e => exact ⟨hnil _, hchange hrow _⟩
  | touch hrow hdecided => exact ⟨hnil _, hchange hrow _⟩

end Deeds

/-! ### What is shown to a tenant -/

namespace Store

variable {s : Store} {now : Instant}

/-- Requests are shown by the time at which they were made and, where it is the same, by their
ids. -/
lemma isNewer_iff {a b : Row CertificateRequest} :
    isNewer a b = true ↔ toLex (b.createdAt, b.id) ≤ toLex (a.createdAt, a.id) := by
  rw [Prod.Lex.toLex_le_toLex]
  simp [isNewer, eq_comm (a := a.createdAt)]

/-- The requests of a user are shown in the reverse order of their ids, even where two of them were
made at the same time. -/
lemma tenantRequests_eq_reverse (h : s.requests.Timely now) (k : Key) :
    s.tenantRequests k = (s.requestsOf k).reverse := by
  have htrans (a b c : Row CertificateRequest) (hab : isNewer a b = true)
      (hbc : isNewer b c = true) : isNewer a c = true :=
    isNewer_iff.2 ((isNewer_iff.1 hbc).trans (isNewer_iff.1 hab))
  have htotal (a b : Row CertificateRequest) : (isNewer a b || isNewer b a) = true := by
    rw [Bool.or_eq_true, isNewer_iff, isNewer_iff]
    exact le_total _ _
  have hmem {r : Row CertificateRequest} (hr : r ∈ s.requestsOf k) : r ∈ s.requests.rows :=
    (List.mem_filter.1 hr).1
  have hreverse : (s.requestsOf k).reverse.Pairwise fun a b => isNewer a b = true := by
    refine List.pairwise_reverse.2 ?_
    refine (s.requests.sorted.filter _).imp_of_mem fun {a b} ha hb hlt => ?_
    rw [isNewer_iff, Prod.Lex.toLex_le_toLex]
    rcases (h.inOrder a (hmem ha) b (hmem hb) hlt).lt_or_eq with hbefore | hsame
    · exact Or.inl hbefore
    · exact Or.inr ⟨hsame, hlt.le⟩
  have hperm : (s.tenantRequests k).Perm (s.requestsOf k).reverse :=
    (List.mergeSort_perm _ _).trans (List.reverse_perm _).symm
  refine hperm.eq_of_pairwise (fun a b ha hb hab hba => ?_)
    (List.pairwise_mergeSort htrans htotal _) hreverse
  have ha := hmem (List.mem_reverse.1 (hperm.mem_iff.1 ha))
  have hb := hmem (List.mem_reverse.1 hb)
  have heq := le_antisymm (isNewer_iff.1 hba) (isNewer_iff.1 hab)
  exact Table.eq_of_id_eq ha hb (congrArg (fun p => (ofLex p).2) heq)

lemma tenantRequests_ofInt (h : s.requests.Timely now) (u : Int) : s.tenantRequests (.ofInt u) =
    (s.requests.rows.filter fun r => r.data.userId = u).reverse := by
  rw [tenantRequests_eq_reverse h, requestsOf]
  simp [Key.ofInt]

lemma tenantCertificate?_ofInt (s : Store) (u : Int) : s.tenantCertificate? (.ofInt u) =
    (s.certificates.rows.filter fun r => r.data.ownerId = u).getLast? := by
  simp [tenantCertificate?, certificatesOf, Key.ofInt]

lemma certificateOf_eq_ok_iff {k : Key} {r : Row Certificate} :
    s.certificateOf k = .ok r ↔ s.tenantCertificate? k = some r := by
  unfold certificateOf
  split
  · next r' hr' => simp [hr']
  · next hnone => simp [hnone]

end Store

end CertRegistry
