import CertRegistry.Number.Integer
import CertRegistry.Time.Zone

/-!
# Tables

A table holds rows in the order of their ids and remembers the largest id it ever gave out. An
appended row gets the next id, so an id is never given out twice, not even after its row has been
deleted.
-/

namespace CertRegistry

/-- A row: its id, the times of its creation and of its last change, and what it records. -/
structure Row (α : Type) where
  id : Int
  createdAt : Instant
  updatedAt : Instant
  data : α
deriving DecidableEq

/-- A row that records something else from a time on. -/
def Row.change {α : Type} (r : Row α) (now : Instant) (a : α) : Row α :=
  { r with updatedAt := now, data := a }

/-- A table of rows with increasing ids, none of them past the last id given out. -/
structure Table (α : Type) where
  rows : List (Row α) := []
  lastId : Nat := 0
  sorted : rows.Pairwise (fun a b => a.id < b.id) := by simp
  bounded : ∀ r ∈ rows, r.id ≤ lastId := by exact List.forall_mem_nil _
  lastId_le : lastId ≤ maxColumn := by decide

namespace Table

variable {α : Type}

instance : Inhabited (Table α) := ⟨{}⟩

@[ext] theorem ext {t u : Table α} (hr : t.rows = u.rows) (hl : t.lastId = u.lastId) : t = u := by
  cases t; cases u; cases hr; cases hl; rfl

/-- The row with an id. -/
def find? (t : Table α) (id : Int) : Option (Row α) := t.rows.find? fun r => r.id = id

/-- Changes every row in its place; ids stay. -/
def edit (t : Table α) (f : Row α → Row α) : Table α where
  rows := t.rows.map fun r => { f r with id := r.id }
  lastId := t.lastId
  sorted := List.pairwise_map.2 (t.sorted.imp id)
  bounded := by
    intro r hr
    obtain ⟨s, hs, rfl⟩ := List.mem_map.1 hr
    exact t.bounded s hs
  lastId_le := t.lastId_le

/-- Changes the row with an id. -/
def editAt (t : Table α) (id : Int) (f : Row α → Row α) : Table α :=
  t.edit fun r => if r.id = id then f r else r

/-- Deletes the row with an id. -/
def erase (t : Table α) (id : Int) : Table α where
  rows := t.rows.filter fun r => r.id ≠ id
  lastId := t.lastId
  sorted := t.sorted.filter _
  bounded := fun r hr => t.bounded r (List.mem_filter.1 hr).1
  lastId_le := t.lastId_le

/-- Appends a row under the next id, as long as there is one. -/
def append? (t : Table α) (now : Instant) (a : α) : Option (Row α × Table α) :=
  if h : t.lastId < maxColumn then
    let row : Row α := ⟨t.lastId + 1, now, now, a⟩
    some (row,
      { rows := t.rows ++ [row]
        lastId := t.lastId + 1
        sorted := by
          refine List.pairwise_append.2 ⟨t.sorted, List.pairwise_singleton _ _, ?_⟩
          intro r hr s hs
          obtain rfl := List.mem_singleton.1 hs
          have := t.bounded r hr
          show r.id < (t.lastId : Int) + 1
          omega
        bounded := by
          intro r hr
          rcases List.mem_append.1 hr with hr | hr
          · have := t.bounded r hr
            omega
          · obtain rfl := List.mem_singleton.1 hr
            show (t.lastId : Int) + 1 ≤ ((t.lastId + 1 : Nat) : Int)
            omega
        lastId_le := h })
  else none

/-- Puts a row under the id that it has, in the place of the row that had it, if any. -/
def place (t : Table α) (row : Row α) (h : row.id ≤ maxColumn) : Table α where
  rows := t.rows.filter (fun r => r.id < row.id) ++ row :: t.rows.filter fun r => row.id < r.id
  lastId := max t.lastId row.id.toNat
  sorted := by
    refine List.pairwise_append.2 ⟨t.sorted.filter _, ?_, ?_⟩
    · refine List.pairwise_cons.2 ⟨fun r hr => ?_, t.sorted.filter _⟩
      simpa using (List.mem_filter.1 hr).2
    · intro r hr s hs
      have hr := (List.mem_filter.1 hr).2
      rcases List.mem_cons.1 hs with rfl | hs
      · simpa using hr
      · have hs := (List.mem_filter.1 hs).2
        simp only [decide_eq_true_eq] at hr hs
        omega
  bounded := by
    intro r hr
    rcases List.mem_append.1 hr with hr | hr
    · have := t.bounded r (List.mem_filter.1 hr).1
      omega
    · rcases List.mem_cons.1 hr with rfl | hr
      · omega
      · have := t.bounded r (List.mem_filter.1 hr).1
        omega
  lastId_le := by
    have := t.lastId_le
    omega

@[simp] theorem rows_edit (t : Table α) (f : Row α → Row α) :
    (t.edit f).rows = t.rows.map fun r => { f r with id := r.id } := rfl

@[simp] theorem lastId_edit (t : Table α) (f : Row α → Row α) : (t.edit f).lastId = t.lastId := rfl

@[simp] theorem rows_erase (t : Table α) (id : Int) :
    (t.erase id).rows = t.rows.filter fun r => r.id ≠ id := rfl

@[simp] theorem lastId_erase (t : Table α) (id : Int) : (t.erase id).lastId = t.lastId := rfl

end Table

end CertRegistry
