import CertRegistry.Proofs.Certificate.Refresh
import CertRegistry.Proofs.Store.Deed

/-!
# Stamps

Every row says when it was made and when it was changed last. A deed leaves a row as it is, or it
changes the row and stamps it with the time, or it makes a row with this time for both. This is
carried from deed to deed as long as the time is the same. So where the time never goes back, no row
was made after its last change, and rows were made in the order of their ids.
-/

namespace CertRegistry

variable {α : Type} {now : Instant}

/-- A row after deeds at a time: it was made when it was, and it is stamped if it was changed. -/
structure Row.Stamped (now : Instant) (r r' : Row α) : Prop where
  id : r'.id = r.id
  createdAt : r'.createdAt = r.createdAt
  updatedAt : r' ≠ r → r'.updatedAt = now

/-- A row that was made at a time and not changed since. -/
structure Row.MadeAt (now : Instant) (r : Row α) : Prop where
  createdAt : r.createdAt = now
  updatedAt : r.updatedAt = now

/-- A table after deeds at a time: its rows are old ones, stamped if they were changed, or they were
made at that time, under ids that were not given out before. -/
structure Table.Stamped (now : Instant) (t u : Table α) : Prop where
  lastId_le : t.lastId ≤ u.lastId
  rows : ∀ r' ∈ u.rows, (∃ r ∈ t.rows, r.Stamped now r') ∨
    ((t.lastId : Int) < r'.id ∧ r'.MadeAt now)

/-! ### Rows -/

namespace Row.Stamped

variable {r r₁ r₂ : Row α}

lemma refl (now : Instant) (r : Row α) : r.Stamped now r := ⟨rfl, rfl, fun hne => absurd rfl hne⟩

/-- A row that has the time of its change is stamped, whatever else it has. -/
lemma of_updatedAt (hid : r₁.id = r.id) (hcreated : r₁.createdAt = r.createdAt)
    (hupdated : r₁.updatedAt = now) : r.Stamped now r₁ := ⟨hid, hcreated, fun _ => hupdated⟩

lemma change (now : Instant) (r : Row α) (a : α) : r.Stamped now (r.change now a) :=
  .of_updatedAt rfl rfl rfl

lemma trans (h : r.Stamped now r₁) (h' : r₁.Stamped now r₂) : r.Stamped now r₂ where
  id := h'.id.trans h.id
  createdAt := h'.createdAt.trans h.createdAt
  updatedAt := by
    intro hne
    by_cases heq : r₂ = r₁
    · subst heq
      exact h.updatedAt hne
    · exact h'.updatedAt heq

/-- A row that was just made stays so. -/
lemma madeAt (h : r.Stamped now r₁) (hr : r.MadeAt now) : r₁.MadeAt now where
  createdAt := h.createdAt.trans hr.createdAt
  updatedAt := by
    by_cases heq : r₁ = r
    · rw [heq]
      exact hr.updatedAt
    · exact h.updatedAt heq

end Row.Stamped

/-! ### Tables -/

namespace Table.Stamped

variable {t u v : Table α} {row : Row α} {a : α}

lemma refl (now : Instant) (t : Table α) : t.Stamped now t :=
  ⟨le_rfl, fun r hr => Or.inl ⟨r, hr, .refl now r⟩⟩

lemma trans (h : t.Stamped now u) (h' : u.Stamped now v) : t.Stamped now v where
  lastId_le := h.lastId_le.trans h'.lastId_le
  rows := by
    intro r₂ hr₂
    rcases h'.rows r₂ hr₂ with ⟨r₁, hr₁, hstamped⟩ | ⟨hnew, hmade⟩
    · rcases h.rows r₁ hr₁ with ⟨r, hr, hstamped'⟩ | ⟨hnew, hmade⟩
      · exact Or.inl ⟨r, hr, hstamped'.trans hstamped⟩
      · exact Or.inr ⟨hstamped.id ▸ hnew, hstamped.madeAt hmade⟩
    · exact Or.inr ⟨(Int.ofNat_le.2 h.lastId_le).trans_lt hnew, hmade⟩

lemma change (hrow : row ∈ t.rows) (a : α) : t.Stamped now (t.change row now a) where
  lastId_le := le_rfl
  rows := by
    intro r hr
    rcases (mem_rows_change hrow).1 hr with ⟨hr, -⟩ | rfl
    · exact Or.inl ⟨r, hr, .refl now r⟩
    · exact Or.inl ⟨row, hrow, .change now row a⟩

lemma erase (t : Table α) (id : Int) : t.Stamped now (t.erase id) :=
  ⟨le_rfl, fun r hr => Or.inl ⟨r, (mem_rows_erase.1 hr).1, .refl now r⟩⟩

lemma append? (h : t.append? now a = some (row, u)) : t.Stamped now u where
  lastId_le := by
    rw [append?_lastId h]
    exact Nat.le_succ _
  rows := by
    intro r hr
    rcases (mem_rows_append? h).1 hr with hr | rfl
    · exact Or.inl ⟨r, hr, .refl now r⟩
    · rw [append?_row h]
      exact Or.inr ⟨Int.lt_succ _, rfl, rfl⟩

/-- The statuses of a refresh are changes of the rows that get another one. -/
lemma refresh (threshold : Instant) (t : Table Certificate) :
    t.Stamped now (Refresh.run now threshold t).2 where
  lastId_le := le_rfl
  rows := by
    intro r' hr'
    rw [Refresh.rows_run, List.mem_map] at hr'
    obtain ⟨r, hr, rfl⟩ := hr'
    refine Or.inl ⟨r, hr, ?_⟩
    rcases Refresh.refreshRow_cases now threshold r with heq | ⟨status, -, heq⟩
    · rw [heq]
      exact .refl now r
    · rw [heq]
      exact .of_updatedAt rfl rfl rfl

end Table.Stamped

/-! ### Deeds -/

/-- Both tables after deeds at a time. -/
structure Store.Stamped (now : Instant) (s t : Store) : Prop where
  certificates : s.certificates.Stamped now t.certificates
  requests : s.requests.Stamped now t.requests

lemma Store.Stamped.trans {s t u : Store} (h : s.Stamped now t) (h' : t.Stamped now u) :
    s.Stamped now u :=
  ⟨h.certificates.trans h'.certificates, h.requests.trans h'.requests⟩

/-- Every deed stamps what it changes. -/
lemma Change.stamped {d : Deed} {s t : Store} (h : Change now d s t) : s.Stamped now t := by
  cases h with
  | record hstatus happ => exact ⟨.append? happ, .refl now _⟩
  | update hrow name expires => exact ⟨.change hrow _, .refl now _⟩
  | delete hrow => exact ⟨.erase _ _, .refl now _⟩
  | revoke hrow => exact ⟨.change hrow _, .refl now _⟩
  | refresh threshold => exact ⟨.refresh threshold _, .refl now _⟩
  | request byForm hnew happ => exact ⟨.refl now _, .append? happ⟩
  | submit hnew hactive hpending happ => exact ⟨.refl now _, .append? happ⟩
  | approve hrow hpending admin happ => exact ⟨.append? happ, .change hrow _⟩
  | reject hrow hpending admin reason => exact ⟨.refl now _, .change hrow _⟩
  | edit hrow hpending e => exact ⟨.refl now _, .change hrow _⟩
  | touch hrow hdecided => exact ⟨.refl now _, .change hrow _⟩

/-! ### Time that never goes back -/

/-- The stamps of a table up to a time: no row was made after its last change, no row was changed
later, and of two rows the one with the smaller id was not made after the other. -/
structure Table.Timely (now : Instant) (t : Table α) : Prop where
  created_le : ∀ r ∈ t.rows, r.createdAt ≤ r.updatedAt
  updated_le : ∀ r ∈ t.rows, r.updatedAt ≤ now
  inOrder : ∀ r ∈ t.rows, ∀ r' ∈ t.rows, r.id < r'.id → r.createdAt ≤ r'.createdAt

namespace Table.Timely

variable {t u : Table α} {later : Instant}

lemma empty (now : Instant) : ({} : Table α).Timely now :=
  ⟨fun _ hr => absurd hr List.not_mem_nil, fun _ hr => absurd hr List.not_mem_nil,
    fun _ hr => absurd hr List.not_mem_nil⟩

lemma mono (h : t.Timely now) (hle : now ≤ later) : t.Timely later :=
  ⟨h.created_le, fun r hr => (h.updated_le r hr).trans hle, h.inOrder⟩

/-- Deeds that are not done before that time keep the stamps timely. -/
lemma stamped (h : t.Timely now) (hstamped : t.Stamped later u) (hle : now ≤ later) :
    u.Timely later where
  created_le := by
    intro r' hr'
    rcases hstamped.rows r' hr' with ⟨r, hr, hrow⟩ | ⟨-, hmade⟩
    · by_cases heq : r' = r
      · rw [heq]
        exact h.created_le r hr
      · rw [hrow.createdAt, hrow.updatedAt heq]
        exact (h.created_le r hr).trans ((h.updated_le r hr).trans hle)
    · rw [hmade.createdAt, hmade.updatedAt]
  updated_le := by
    intro r' hr'
    rcases hstamped.rows r' hr' with ⟨r, hr, hrow⟩ | ⟨-, hmade⟩
    · by_cases heq : r' = r
      · rw [heq]
        exact (h.updated_le r hr).trans hle
      · rw [hrow.updatedAt heq]
    · rw [hmade.updatedAt]
  inOrder := by
    intro a ha b hb hlt
    rcases hstamped.rows a ha with ⟨r, hr, hrow⟩ | ⟨hnew, hmade⟩
    · rw [hrow.createdAt]
      rcases hstamped.rows b hb with ⟨r', hr', hrow'⟩ | ⟨-, hmade'⟩
      · rw [hrow'.createdAt]
        exact h.inOrder r hr r' hr' (by rw [← hrow.id, ← hrow'.id]; exact hlt)
      · rw [hmade'.createdAt]
        exact (h.created_le r hr).trans ((h.updated_le r hr).trans hle)
    · -- a row after a new one is new as well
      rcases hstamped.rows b hb with ⟨r', hr', hrow'⟩ | ⟨-, hmade'⟩
      · have hold := id_le_lastId hr'
        rw [hrow'.id] at hlt
        omega
      · rw [hmade.createdAt, hmade'.createdAt]

end Table.Timely

/-- The stamps of both tables up to a time. -/
structure Store.Timely (now : Instant) (s : Store) : Prop where
  certificates : s.certificates.Timely now
  requests : s.requests.Timely now

namespace Store.Timely

variable {s t : Store} {later : Instant}

lemma empty (now : Instant) : ({} : Store).Timely now := ⟨.empty now, .empty now⟩

lemma mono (h : s.Timely now) (hle : now ≤ later) : s.Timely later :=
  ⟨h.certificates.mono hle, h.requests.mono hle⟩

lemma stamped (h : s.Timely now) (hstamped : s.Stamped later t) (hle : now ≤ later) :
    t.Timely later :=
  ⟨h.certificates.stamped hstamped.certificates hle, h.requests.stamped hstamped.requests hle⟩

end Store.Timely

end CertRegistry
