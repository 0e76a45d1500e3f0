import CertRegistry.Table
import Mathlib

/-!
# Rows of a table

No two rows of a table have the same id. So a row is found under its id, a change under an id is
the change of one row, and it moves every count of rows by what that row counts before and after.
An appended row comes last, under an id that no row had before.
-/

namespace CertRegistry.Table

variable {α : Type} {t u : Table α} {r row : Row α} {now : Instant} {a : α} {id : Int}

/-- The table with one row. -/
def single (row : Row α) (h : row.id ≤ maxColumn) : Table α where
  rows := [row]
  lastId := row.id.toNat
  bounded := List.forall_mem_singleton.2 row.id.self_le_toNat
  lastId_le := Int.toNat_le.2 h

/-! ### Rows by their ids -/

lemma nodup_ids (t : Table α) : (t.rows.map Row.id).Nodup :=
  List.pairwise_map.2 (t.sorted.imp fun hlt => ne_of_lt hlt)

lemma eq_of_id_eq (hr : r ∈ t.rows) (hrow : row ∈ t.rows) (h : r.id = row.id) : r = row :=
  List.inj_on_of_nodup_map t.nodup_ids hr hrow h

lemma countP_id_le_one (t : Table α) (id : Int) : t.rows.countP (fun r => r.id = id) ≤ 1 := by
  have hcount := List.nodup_iff_count_le_one.1 t.nodup_ids id
  rw [List.count_eq_countP, List.countP_map] at hcount
  exact le_trans (List.countP_mono_left fun r _ h => by simpa using h) hcount

lemma find?_eq_some_iff : t.find? id = some row ↔ row ∈ t.rows ∧ row.id = id := by
  constructor
  · intro h
    exact ⟨List.mem_of_find?_eq_some h, by simpa using List.find?_some h⟩
  · rintro ⟨hrow, rfl⟩
    obtain ⟨r, hr⟩ : ∃ r, t.find? row.id = some r := by
      rw [← Option.isSome_iff_exists, find?, List.find?_isSome]
      exact ⟨row, hrow, by simp⟩
    have hid : r.id = row.id := by simpa using List.find?_some hr
    rw [hr, eq_of_id_eq (List.mem_of_find?_eq_some hr) hrow hid]

lemma id_le_lastId (hr : r ∈ t.rows) : r.id ≤ t.lastId := t.bounded r hr

/-- A table around one of its rows: every other row has another id. -/
lemma rows_eq_append (hrow : row ∈ t.rows) :
    ∃ l₁ l₂, t.rows = l₁ ++ row :: l₂ ∧ (∀ r ∈ l₁, r.id ≠ row.id) ∧ ∀ r ∈ l₂, r.id ≠ row.id := by
  obtain ⟨l₁, l₂, hsplit⟩ := List.append_of_mem hrow
  have hsorted := t.sorted
  rw [hsplit, List.pairwise_append, List.pairwise_cons] at hsorted
  obtain ⟨-, ⟨hafter, -⟩, hbefore⟩ := hsorted
  refine ⟨l₁, l₂, hsplit, ?_, ?_⟩
  · intro r hr
    exact ne_of_lt (hbefore r hr row List.mem_cons_self)
  · intro r hr
    exact (ne_of_lt (hafter r hr)).symm

/-! ### The change of one row -/

/-- Changes what a row records, and notes the time. -/
def change (t : Table α) (row : Row α) (now : Instant) (a : α) : Table α :=
  t.editAt row.id fun old => old.change now a

lemma rows_change : (t.change row now a).rows =
    t.rows.map fun r => if r.id = row.id then r.change now a else r := by
  simp only [change, editAt, rows_edit]
  refine List.map_congr_left fun r _ => ?_
  split_ifs <;> rfl

lemma rows_change_eq_append (hrow : row ∈ t.rows) (now : Instant) (a : α) :
    ∃ l₁ l₂, t.rows = l₁ ++ row :: l₂ ∧
      (t.change row now a).rows = l₁ ++ row.change now a :: l₂ := by
  obtain ⟨l₁, l₂, hsplit, h₁, h₂⟩ := rows_eq_append hrow
  refine ⟨l₁, l₂, hsplit, ?_⟩
  have hkeep : ∀ l : List (Row α), (∀ r ∈ l, r.id ≠ row.id) →
      l.map (fun r => if r.id = row.id then r.change now a else r) = l := by
    intro l hl
    conv_rhs => rw [← List.map_id l]
    exact List.map_congr_left fun r hr => if_neg (hl r hr)
  rw [rows_change, hsplit, List.map_append, List.map_cons, hkeep l₁ h₁, hkeep l₂ h₂, if_pos rfl]

lemma mem_rows_change (hrow : row ∈ t.rows) :
    r ∈ (t.change row now a).rows ↔ (r ∈ t.rows ∧ r.id ≠ row.id) ∨ r = row.change now a := by
  rw [rows_change, List.mem_map]
  constructor
  · rintro ⟨old, hold, rfl⟩
    split_ifs with hid
    · rw [eq_of_id_eq hold hrow hid]
      exact Or.inr rfl
    · exact Or.inl ⟨hold, hid⟩
  · rintro (⟨hr, hid⟩ | rfl)
    · exact ⟨r, hr, if_neg hid⟩
    · exact ⟨row, hrow, if_pos rfl⟩

lemma find?_change_self (hrow : row ∈ t.rows) :
    (t.change row now a).find? row.id = some (row.change now a) :=
  find?_eq_some_iff.2 ⟨(mem_rows_change hrow).2 (Or.inr rfl), rfl⟩

lemma find?_change_of_ne (hrow : row ∈ t.rows) (hid : id ≠ row.id) :
    (t.change row now a).find? id = t.find? id := by
  refine Option.ext fun r => ?_
  rw [find?_eq_some_iff, find?_eq_some_iff, mem_rows_change hrow]
  constructor
  · rintro ⟨⟨hr, -⟩ | rfl, rfl⟩
    · exact ⟨hr, rfl⟩
    · exact absurd rfl hid
  · rintro ⟨hr, rfl⟩
    exact ⟨Or.inl ⟨hr, hid⟩, rfl⟩

/-- A count of rows moves by what the changed row counts before and after. -/
lemma countP_change (p : Row α → Bool) (hrow : row ∈ t.rows) (now : Instant) (a : α) :
    (t.change row now a).rows.countP p + (if p row then 1 else 0)
      = t.rows.countP p + if p (row.change now a) then 1 else 0 := by
  obtain ⟨l₁, l₂, hold, hnew⟩ := rows_change_eq_append hrow now a
  rw [hold, hnew]
  simp only [List.countP_append, List.countP_cons]
  omega

/-- A count of rows does not grow by a row that counted already. -/
lemma countP_change_le {p : Row α → Bool} (hrow : row ∈ t.rows)
    (h : p (row.change now a) → p row) : (t.change row now a).rows.countP p ≤ t.rows.countP p := by
  have hcount := countP_change p hrow now a
  split_ifs at hcount with hold hnew hnew
  · omega
  · omega
  · exact absurd (h hnew) hold
  · omega

/-! ### Deletion -/

lemma mem_rows_erase : r ∈ (t.erase id).rows ↔ r ∈ t.rows ∧ r.id ≠ id := by simp

lemma countP_erase_le (p : Row α → Bool) : (t.erase id).rows.countP p ≤ t.rows.countP p :=
  List.filter_sublist.countP_le

/-! ### Appended rows -/

lemma append?_eq_some_iff : t.append? now a = some (row, u) ↔
    t.lastId < maxColumn ∧ row = ⟨t.lastId + 1, now, now, a⟩ ∧ u.rows = t.rows ++ [row] ∧
      u.lastId = t.lastId + 1 := by
  unfold append?
  split_ifs with hroom
  · simp only [Option.some.injEq, Prod.mk.injEq, hroom, true_and]
    constructor
    · rintro ⟨rfl, rfl⟩
      exact ⟨rfl, rfl, rfl⟩
    · rintro ⟨rfl, hrows, hlast⟩
      exact ⟨rfl, Table.ext hrows.symm hlast.symm⟩
  · simp [hroom]

lemma exists_append? (h : t.lastId < maxColumn) (now : Instant) (a : α) :
    ∃ row u, t.append? now a = some (row, u) :=
  ⟨_, _, dif_pos h⟩

/-- Whether a row can be appended, and under which id, depends on the last id alone. -/
lemma append?_congr (h : t.lastId = u.lastId) (now : Instant) (a : α) :
    (t.append? now a = none ∧ u.append? now a = none) ∨
      ∃ row t' u', t.append? now a = some (row, t') ∧ u.append? now a = some (row, u') := by
  by_cases hroom : t.lastId < maxColumn
  · obtain ⟨row, t', ht⟩ := exists_append? hroom now a
    obtain ⟨row', u', hu⟩ := exists_append? (h ▸ hroom) now a
    have hrow : row' = row := by
      rw [(append?_eq_some_iff.1 ht).2.1, (append?_eq_some_iff.1 hu).2.1, h]
    exact Or.inr ⟨row, t', u', ht, hrow ▸ hu⟩
  · exact Or.inl ⟨dif_neg hroom, dif_neg (h ▸ hroom)⟩

section Append

variable (h : t.append? now a = some (row, u))
include h

lemma append?_row : row = ⟨t.lastId + 1, now, now, a⟩ := (append?_eq_some_iff.1 h).2.1

lemma append?_rows : u.rows = t.rows ++ [row] := (append?_eq_some_iff.1 h).2.2.1

lemma append?_lastId : u.lastId = t.lastId + 1 := (append?_eq_some_iff.1 h).2.2.2

lemma append?_lastId_cast : (u.lastId : Int) = t.lastId + 1 := by
  rw [append?_lastId h, Nat.cast_succ]

lemma mem_rows_append? : r ∈ u.rows ↔ r ∈ t.rows ∨ r = row := by
  rw [append?_rows h, List.mem_append, List.mem_singleton]

lemma countP_append? (p : Row α → Bool) :
    u.rows.countP p = t.rows.countP p + if p row then 1 else 0 := by
  rw [append?_rows h, List.countP_append, List.countP_singleton]

end Append

end CertRegistry.Table
