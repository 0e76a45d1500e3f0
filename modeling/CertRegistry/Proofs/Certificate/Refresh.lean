import CertRegistry.Certificate.Refresh
import Mathlib

/-!
# What a refresh does to a row

A refresh gives rows other statuses and notes the time. The three marks exclude each other, so a row
moves once at most: it expires, or it comes near its end, or it recovers. It keeps its id and all
else that it records, and no certificate becomes active that was not.
-/

namespace CertRegistry

/-- A row after a refresh. -/
structure Row.Refreshed (r r' : Row Certificate) : Prop where
  id : r'.id = r.id
  createdAt : r'.createdAt = r.createdAt
  data : r'.data = { r.data with status := r'.data.status }
  active : r'.data.isActive → r.data.isActive

namespace Refresh

variable {now threshold : Instant} {c : Certificate} {status : CertificateStatus}

/-- The ways that the status of a certificate moves in a refresh. -/
inductive Moves (now : Instant) (c : Certificate) : CertificateStatus → Prop
  | expire (hend : c.expires ≤ now) (hrevoked : c.status ≠ .revoked)
      (hexpired : c.status ≠ .expired) : Moves now c .expired
  | near (hvalid : c.status = .valid) : Moves now c .expiring
  | recover (hexpiring : c.status = .expiring) : Moves now c .valid

lemma Moves.isActive (h : Moves now c status) (hactive : status.isActive) : c.isActive := by
  cases h with
  | expire => exact absurd hactive Bool.false_ne_true
  | near hvalid => rw [Certificate.isActive, hvalid]; rfl
  | recover hexpiring => rw [Certificate.isActive, hexpiring]; rfl

lemma Moves.status_ne (h : Moves now c status) : c.status ≠ .revoked ∧ c.status ≠ .expired := by
  cases h with
  | expire hend hrevoked hexpired => exact ⟨hrevoked, hexpired⟩
  | near hvalid => rw [hvalid]; exact ⟨nofun, nofun⟩
  | recover hexpiring => rw [hexpiring]; exact ⟨nofun, nofun⟩

/-- The status that a certificate gets in a refresh, if it gets another one. -/
def newStatus? (now threshold : Instant) (c : Certificate) : Option CertificateStatus :=
  if expires now c then some .expired
  else if nears now threshold c then some .expiring
  else if recovers threshold c then some .valid
  else none

lemma moves_of_newStatus? (h : newStatus? now threshold c = some status) : Moves now c status := by
  unfold newStatus? at h
  split_ifs at h with hexpires hnears hrecovers
  · obtain rfl := Option.some.inj h
    simp only [expires, Bool.and_eq_true, decide_eq_true_eq] at hexpires
    exact .expire hexpires.1.1 hexpires.1.2 hexpires.2
  · obtain rfl := Option.some.inj h
    simp only [nears, Bool.and_eq_true, decide_eq_true_eq] at hnears
    exact .near hnears.1.1
  · obtain rfl := Option.some.inj h
    simp only [recovers, Bool.and_eq_true, decide_eq_true_eq] at hrecovers
    exact .recover hrecovers.1

/-- A row with the status that it gets in a refresh. -/
def refreshRow (now threshold : Instant) (r : Row Certificate) : Row Certificate :=
  match newStatus? now threshold r.data with
  | some status => { r with updatedAt := now, data.status := status }
  | none => r

lemma refreshRow_cases (now threshold : Instant) (r : Row Certificate) :
    refreshRow now threshold r = r ∨ ∃ status, Moves now r.data status ∧
      refreshRow now threshold r = { r with updatedAt := now, data.status := status } := by
  unfold refreshRow
  split
  · next status h => exact Or.inr ⟨status, moves_of_newStatus? h, rfl⟩
  · exact Or.inl rfl

/-- The three marks together: what one of them has marked is in the class of no later one. -/
theorem rows_run (now threshold : Instant) (t : Table Certificate) :
    (run now threshold t).2.rows = t.rows.map (refreshRow now threshold) := by
  simp only [run, mark, Table.rows_edit, List.map_map]
  refine List.map_congr_left fun r _ => ?_
  simp only [Function.comp, refreshRow, newStatus?]
  by_cases hexpires : expires now r.data
  · simp [hexpires, nears, recovers]
  · by_cases hnears : nears now threshold r.data
    · have hend : ¬ threshold < r.data.expires := by
        simp only [nears, Bool.and_eq_true, decide_eq_true_eq] at hnears
        exact not_lt.2 hnears.2
      simp [hexpires, hnears, recovers, hend]
    · by_cases hrecovers : recovers threshold r.data <;> simp [hexpires, hnears, hrecovers]

/-- Rows that were refreshed one by one. -/
def Refreshes (t u : Table Certificate) : Prop :=
  ∃ f : Row Certificate → Row Certificate, u.rows = t.rows.map f ∧ ∀ r, Row.Refreshed r (f r)

/-- A refresh keeps every row. -/
theorem refreshes_run (now threshold : Instant) (t : Table Certificate) :
    Refreshes t (run now threshold t).2 := by
  refine ⟨_, rows_run now threshold t, fun r => ?_⟩
  rcases refreshRow_cases now threshold r with h | ⟨status, hmoves, h⟩
  · rw [h]
    exact ⟨rfl, rfl, rfl, fun hactive => hactive⟩
  · rw [h]
    exact ⟨rfl, rfl, rfl, hmoves.isActive⟩

end Refresh

end CertRegistry
