import CertRegistry.Proofs.Admin.BulkAction
import CertRegistry.Proofs.Store.Log

/-!
# What the log tells of bulk actions

A bulk action logs one record of news for every selected row that it brings to the status that the
action is for, and none for a row that it passes over or that it does not come to. So the log tells
how many rows it revoked, approved or rejected, also where a failure ended it.
-/

namespace CertRegistry

/-! ### Rows that are turned -/

namespace Table

variable {α : Type} {p : α → Bool} {t u : Table α} {row : Row α} {rows : List (Row α)} {n : ℕ}

/-- Rows are gone through, one after the other, up to some row. So many of them are turned into what
has a property that the row did not have, and the others are left as they are. -/
inductive Turns (p : α → Bool) : List (Row α) → Table α → Table α → ℕ → Prop
  | stop (rows : List (Row α)) (t : Table α) : Turns p rows t t 0
  | skip {row : Row α} {rows : List (Row α)} {t u : Table α} {n : ℕ} (rest : Turns p rows t u n) :
    Turns p (row :: rows) t u n
  | turn {row : Row α} {rows : List (Row α)} {t u : Table α} {n : ℕ} {now : Instant} {a : α}
      (hbefore : p row.data = false) (hafter : p a)
      (rest : Turns p rows (t.change row now a) u n) : Turns p (row :: rows) t u (n + 1)

/-- Whether a row has come to have a property in a table that it did not have. -/
def isTurned (p : α → Bool) (u : Table α) (r : Row α) : Bool :=
  !p r.data && (u.find? r.id).any fun r' => p r'.data

lemma isTurned_of_find?_eq (h : u.find? row.id = some row) : isTurned p u row = false := by
  rw [isTurned, h, Option.any_some, Bool.not_and_self]

namespace Turns

/-- A row that is not gone through stays. -/
lemma find?_eq (h : Turns p rows t u n) (hfresh : t.Fresh rows) {id : Int}
    (hid : ∀ r ∈ rows, r.id ≠ id) : u.find? id = t.find? id := by
  induction h with
  | stop rows t => rfl
  | skip rest ih => exact ih hfresh.tail fun r hr => hid r (List.mem_cons_of_mem _ hr)
  | turn hbefore hafter rest ih =>
    rw [ih hfresh.change fun r hr => hid r (List.mem_cons_of_mem _ hr)]
    have hrow := hfresh.stored _ List.mem_cons_self
    exact find?_change_of_ne hrow (hid _ List.mem_cons_self).symm

/-- As many rows have come to the property as were turned. -/
lemma countP_isTurned (h : Turns p rows t u n) (hfresh : t.Fresh rows) :
    rows.countP (isTurned p u) = n := by
  induction h with
  | stop rows t =>
    refine List.countP_eq_zero.2 fun r hr => ?_
    have hrow : t.find? r.id = some r := find?_eq_some_iff.2 ⟨hfresh.stored r hr, rfl⟩
    rw [isTurned_of_find?_eq hrow]
    exact Bool.false_ne_true
  | @skip row rows t u n rest ih =>
    have hrow : t.find? row.id = some row := hfresh.get?
    rw [← rest.find?_eq hfresh.tail fun r hr => hfresh.id_ne hr] at hrow
    rw [List.countP_cons, isTurned_of_find?_eq hrow]
    exact ih hfresh.tail
  | @turn row rows t u n now a hbefore hafter rest ih =>
    have hrow : (t.change row now a).find? row.id = some (row.change now a) :=
      find?_change_self (hfresh.stored row List.mem_cons_self)
    -- the rows that come after it have other ids, so the row is found as it was turned
    rw [← rest.find?_eq hfresh.change fun r hr => hfresh.id_ne hr] at hrow
    have hturned : isTurned p u row = true := by
      rw [isTurned, hbefore, hrow]
      exact hafter
    rw [List.countP_cons_of_pos hturned, ih hfresh.change]

end Turns

end Table

namespace BulkAction

variable {ctx : Context} {s : Store} {admin : Text} {ids : List Int}

section Loop

variable {α β : Type} {title : α → Text} {get : Store → Table α} {p : α → Bool}
  {act : Row α → Store → Except Failure (Done β)}

/-- An operation for a row, if it succeeds, turns the row that is stored into what has a property
that it did not have, and logs one record of news. -/
def TurnsRow (get : Store → Table α) (p : α → Bool)
    (act : Row α → Store → Except Failure (Done β)) (row : Row α) : Prop :=
  ∀ s d, (get s).get? (.ofInt row.id) = some row → act row s = .ok d →
    p row.data = false ∧ d.log.countP LogRecord.isNews = 1 ∧
      ∃ now a, p a ∧ get d.store = (get s).change row now a

/-- An action logs a record of news for each row that it turns. -/
lemma processAll_turns : ∀ (rows : List (Row α)) (q : Progress), (get q.store).Fresh rows →
    (∀ row ∈ rows, TurnsRow get p act row) →
    let q' := processAll title act rows q
    ∃ n, Table.Turns p rows (get q.store) (get q'.store) n ∧
      q'.log.countP LogRecord.isNews = q.log.countP LogRecord.isNews + n
  | [], q, _, _ => ⟨0, .stop [] _, rfl⟩
  | row :: rows, q, hfresh, hact => by
    have hrest := fun row' hrow' => hact row' (List.mem_cons_of_mem row hrow')
    rw [processAll]
    split
    · next d hd =>
      obtain ⟨hbefore, hnews, now, a, hafter, hstore⟩ :=
        hact row List.mem_cons_self q.store d hfresh.get? hd
      obtain ⟨n, hturns, hlog⟩ := processAll_turns rows
        { q with store := d.store, log := q.log ++ d.log, changed := q.changed + 1 }
        (hstore ▸ hfresh.change) hrest
      refine ⟨n + 1, .turn hbefore hafter (hstore ▸ hturns), ?_⟩
      rw [hlog, List.countP_append, hnews, Nat.add_right_comm]
      rfl
    · next f hf =>
      split_ifs
      · obtain ⟨n, hturns, hlog⟩ := processAll_turns rows
          { q with notices := q.notices ++ [⟨true, title row.data ++ ": " ++ f.message⟩] }
          hfresh.tail hrest
        exact ⟨n, .skip hturns, hlog⟩
      · exact ⟨0, .stop _ _, rfl⟩

/-- So it logs as many as there are rows that came to the property. -/
lemma countP_isNews_processAll {rows : List (Row α)} (hfresh : (get s).Fresh rows)
    (hact : ∀ row ∈ rows, TurnsRow get p act row) :
    let q := processAll title act rows { store := s }
    q.log.countP LogRecord.isNews = rows.countP (Table.isTurned p (get q.store)) := by
  obtain ⟨n, hturns, hlog⟩ := processAll_turns rows { store := s } hfresh hact
  intro q
  rw [hturns.countP_isTurned hfresh, hlog]
  exact Nat.zero_add n

end Loop

/-- How many selected rows an action has brought to the status that it is for. -/
def made (ids : List Int) (s t : Store) : BulkAction → ℕ
  | revoke => (selected s.certificates ids).countP
    (Table.isTurned (fun c => c.status = .revoked) t.certificates)
  | approve => (selected s.requests ids).countP
    (Table.isTurned (fun r => r.status = .valid) t.requests)
  | reject => (selected s.requests ids).countP
    (Table.isTurned (fun r => r.status = .rejected) t.requests)

lemma made_self (a : BulkAction) (ids : List Int) (s : Store) : a.made ids s s = 0 := by
  cases a with
  | revoke => exact (Table.Turns.stop _ _).countP_isTurned (fresh_selected s.certificates ids)
  | approve | reject => exact (Table.Turns.stop _ _).countP_isTurned (fresh_selected s.requests ids)

lemma countP_isNews_applyTo (a : BulkAction) :
    let q := a.applyTo ctx admin ids s
    q.log.countP LogRecord.isNews = a.made ids s q.store := by
  cases a with
  | revoke =>
    rw [applyTo_revoke Certificate.title]
    intro q
    have hfresh := fresh_unrevoked s.certificates ids
    have hlog : q.log.countP LogRecord.isNews = (unrevoked s.certificates ids).countP
        (Table.isTurned (fun c => c.status = .revoked) q.store.certificates) := by
      refine countP_isNews_processAll hfresh fun row hrow t d hget hd => ?_
      obtain ⟨-, row', hget', -, -, rfl⟩ := Store.revokeCertificate_eq_ok_iff.1 hd
      obtain rfl := Option.some.inj (hget.symm.trans hget')
      have hstatus : row.data.status ≠ .revoked := by simpa using (List.mem_filter.1 hrow).2
      exact ⟨decide_eq_false hstatus, rfl, _, _, rfl, rfl⟩
    -- what was revoked before does not count, whether the action goes through it or not
    rw [hlog, unrevoked, List.countP_filter, made]
    refine List.countP_congr fun r _ => ?_
    simp only [Table.isTurned, Bool.and_eq_true, Bool.not_eq_true', decide_eq_true_eq,
      decide_eq_false_iff_not]
    tauto
  | approve =>
    have hfresh := fresh_selected s.requests ids
    refine countP_isNews_processAll hfresh fun row _ t d hget hd => ?_
    obtain ⟨-, row', span, expires, cert, u, hget', hpending, -, -, -, -, -, -, -, rfl⟩ :=
      Store.approveRequest_eq_ok_iff.1 hd
    obtain rfl := Option.some.inj (hget.symm.trans hget')
    have hstatus : row.data.status = .pending := of_decide_eq_true hpending
    exact ⟨by rw [hstatus]; rfl, rfl, _, _, rfl, rfl⟩
  | reject =>
    have hfresh := fresh_selected s.requests ids
    refine countP_isNews_processAll hfresh fun row _ t d hget hd => ?_
    obtain ⟨-, row', reason', hget', hpending, -, -, -, rfl⟩ := Store.rejectRequest_eq_ok_iff.1 hd
    obtain rfl := Option.some.inj (hget.symm.trans hget')
    have hstatus : row.data.status = .pending := of_decide_eq_true hpending
    exact ⟨by rw [hstatus]; rfl, rfl, _, _, rfl, rfl⟩

/-- An action logs a record of news for each selected row that it brings to its status. -/
theorem countP_isNews_progress (a : BulkAction) (ctx : Context) (admin : Text) (ids : List Int)
    (s : Store) : let q := a.progress ctx admin ids s
    q.log.countP LogRecord.isNews = a.made ids s q.store := by
  unfold progress
  split
  · exact countP_isNews_applyTo a
  · exact (made_self a ids s).symm

end BulkAction

end CertRegistry
