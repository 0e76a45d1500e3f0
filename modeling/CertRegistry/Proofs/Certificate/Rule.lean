import CertRegistry.Proofs.Certificate.Refresh

/-!
# The rule for statuses

At a time and a threshold every certificate is due a status. Revoked and expired certificates keep
theirs, and any other one is expired from its end on. Before its end a certificate in use counts as
expiring up to the threshold and as valid past it. The three marks of a refresh, each made on what
the former ones left, give every certificate just the status that it is due, and they count those
that get another one. Refreshes at earlier times, with whatever threshold, do not change what a
certificate is due.
-/

namespace CertRegistry

namespace Certificate

/-- A certificate that no refresh gives another status. -/
def IsSettled (c : Certificate) : Prop := c.status = .revoked ∨ c.status = .expired

instance (c : Certificate) : Decidable c.IsSettled := inferInstanceAs (Decidable (_ ∨ _))

/-- The status that a certificate is due. -/
def dueStatus (now threshold : Instant) (c : Certificate) : CertificateStatus :=
  if c.IsSettled then c.status
  else if c.expires ≤ now then .expired
  else if c.status = .valid ∧ c.expires ≤ threshold then .expiring
  else if c.status = .expiring ∧ threshold < c.expires then .valid
  else c.status

variable {now threshold now' threshold' : Instant} {c : Certificate} {status : CertificateStatus}

lemma not_isSettled_of_isActive (h : c.isActive) : ¬ c.IsSettled := by
  rintro (hstatus | hstatus) <;>
    exact absurd h (by simp [isActive, hstatus, CertificateStatus.isActive])

lemma dueStatus_of_isSettled (h : c.IsSettled) : c.dueStatus now threshold = c.status := if_pos h

lemma dueStatus_of_le (h : ¬ c.IsSettled) (hend : c.expires ≤ now) :
    c.dueStatus now threshold = .expired := by
  rw [dueStatus, if_neg h, if_pos hend]

/-- Before its end a certificate in use is due a status by its end alone. -/
lemma dueStatus_of_isActive (hactive : c.isActive) (hend : now < c.expires) :
    c.dueStatus now threshold = if threshold < c.expires then .valid else .expiring := by
  cases hstatus : c.status with
  | valid =>
    simp only [dueStatus, IsSettled, hstatus, not_le.2 hend, ← not_lt]
    split_ifs <;> simp_all
  | expiring => simp [dueStatus, IsSettled, hstatus, not_le.2 hend]
  | _ => simp [isActive, hstatus, CertificateStatus.isActive] at hactive

/-- Before its end a certificate that is not in use keeps its status. -/
lemma dueStatus_of_not_isActive (hactive : ¬ c.isActive) (hend : now < c.expires) :
    c.dueStatus now threshold = c.status := by
  have hvalid : c.status ≠ .valid := fun h => hactive (by rw [isActive, h]; rfl)
  have hexpiring : c.status ≠ .expiring := fun h => hactive (by rw [isActive, h]; rfl)
  simp [dueStatus, hvalid, hexpiring, not_le.2 hend]

/-- A certificate is due the same whether or not an earlier refresh has given it another status. -/
lemma dueStatus_dueStatus (h : now ≤ now') :
    { c with status := c.dueStatus now threshold }.dueStatus now' threshold' =
      c.dueStatus now' threshold' := by
  by_cases hsettled : c.IsSettled
  · rw [dueStatus_of_isSettled hsettled]
  rcases le_or_gt c.expires now with hend | hend
  · rw [dueStatus_of_le hsettled hend, dueStatus_of_le hsettled (hend.trans h),
      dueStatus_of_isSettled (Or.inr rfl)]
  by_cases hactive : c.isActive
  · -- it is still in use, and its end decides what it is due
    have hstill : { c with status := c.dueStatus now threshold }.isActive := by
      rw [isActive, dueStatus_of_isActive hactive hend]
      split_ifs <;> rfl
    rcases le_or_gt c.expires now' with hend' | hend'
    · rw [dueStatus_of_le hsettled hend', dueStatus_of_le (not_isSettled_of_isActive hstill) hend']
    · rw [dueStatus_of_isActive hactive hend', dueStatus_of_isActive hstill hend']
  · rw [dueStatus_of_not_isActive hactive hend]

end Certificate

namespace Row

/-- A row with the status that its certificate is due; the time is noted where that is another. -/
def settle (now threshold : Instant) (r : Row Certificate) : Row Certificate :=
  if r.data.dueStatus now threshold = r.data.status then r
  else { r with updatedAt := now, data.status := r.data.dueStatus now threshold }

/-- A row but for the time of its last change. -/
def untimed (r : Row Certificate) : Row Certificate := { r with updatedAt := 0 }

variable {now threshold now' threshold' : Instant} {r r' : Row Certificate}

lemma untimed_settle (now threshold : Instant) (r : Row Certificate) :
    (r.settle now threshold).untimed =
      { r with updatedAt := 0, data.status := r.data.dueStatus now threshold } := by
  unfold settle untimed
  split_ifs with h
  · rw [h]
  · rfl

lemma data_settle (now threshold : Instant) (r : Row Certificate) :
    (r.settle now threshold).data =
      { r.data with status := r.data.dueStatus now threshold } :=
  congrArg Row.data (untimed_settle now threshold r)

/-- An earlier refresh makes no difference to a later one, but for the time of the last change. -/
lemma untimed_settle_settle (h : now ≤ now') (r : Row Certificate) :
    ((r.settle now threshold).settle now' threshold').untimed =
      (r.settle now' threshold').untimed := by
  have hrow := untimed_settle now threshold r
  simp only [untimed_settle, data_settle, Certificate.dueStatus_dueStatus h]
  simp only [untimed, Row.mk.injEq] at hrow
  rw [hrow.1, hrow.2.1]

/-- A refresh right after another one finds nothing to do. -/
lemma settle_settle (now threshold : Instant) (r : Row Certificate) :
    (r.settle now threshold).settle now threshold = r.settle now threshold := by
  rw [settle, data_settle, Certificate.dueStatus_dueStatus le_rfl, if_pos rfl]

end Row

namespace Refresh

variable {now threshold : Instant} {c : Certificate} {t : Table Certificate}

lemma newStatus?_eq (now threshold : Instant) (c : Certificate) : newStatus? now threshold c =
    if c.dueStatus now threshold = c.status then none else some (c.dueStatus now threshold) := by
  unfold newStatus? Certificate.dueStatus Certificate.IsSettled expires nears recovers
  grind

/-- The marks give every row the status that it is due. -/
lemma rows_run_eq_settle (now threshold : Instant) (t : Table Certificate) :
    (run now threshold t).2.rows = t.rows.map (Row.settle now threshold) := by
  rw [rows_run]
  refine List.map_congr_left fun r _ => ?_
  rw [refreshRow, Row.settle, newStatus?_eq]
  split_ifs <;> rfl

/-! ### What the marks count -/

/-- How many certificates of a table get a status that they do not have. -/
def becoming (now threshold : Instant) (status : CertificateStatus) (t : Table Certificate) : Nat :=
  count (fun c => c.status ≠ status ∧ c.dueStatus now threshold = status) t

/-- A certificate after a mark. -/
def marked (p : Certificate → Bool) (status : CertificateStatus) (c : Certificate) : Certificate :=
  if p c then { c with status } else c

lemma count_mark (p q : Certificate → Bool) (status : CertificateStatus) (t : Table Certificate) :
    count q (mark p status now t) = count (fun c => q (marked p status c)) t := by
  simp only [count, mark, Table.rows_edit, List.countP_map]
  apply List.countP_congr
  intro r _
  simp only [Function.comp, marked]
  split_ifs <;> rfl

/-- No certificate that has expired is near its end. -/
lemma nears_marked (c : Certificate) :
    nears now threshold (marked (expires now) .expired c) = nears now threshold c := by
  unfold marked nears expires
  grind

/-- Only a certificate before its end recovers, and none that was marked as expiring. -/
lemma recovers_marked (c : Certificate) :
    recovers threshold (marked (nears now threshold) .expiring (marked (expires now) .expired c)) =
      (recovers threshold c && decide (now < c.expires)) := by
  unfold marked nears expires recovers
  grind

lemma counts_run_eq (now threshold : Instant) (t : Table Certificate) : (run now threshold t).1 =
    ⟨count (expires now) t, count (nears now threshold) t,
      count (fun c => recovers threshold c && decide (now < c.expires)) t⟩ := by
  simp only [run, count_mark, nears_marked, recovers_marked]

lemma expires_iff_due : expires now c ↔
    c.status ≠ .expired ∧ c.dueStatus now threshold = .expired := by
  unfold expires Certificate.dueStatus Certificate.IsSettled
  grind

lemma nears_iff_due : nears now threshold c ↔
    c.status ≠ .expiring ∧ c.dueStatus now threshold = .expiring := by
  unfold nears Certificate.dueStatus Certificate.IsSettled
  grind

lemma recovers_iff_due : (recovers threshold c && decide (now < c.expires)) ↔
    c.status ≠ .valid ∧ c.dueStatus now threshold = .valid := by
  unfold recovers Certificate.dueStatus Certificate.IsSettled
  grind

/-- Each mark counts the certificates that get its status. -/
lemma counts_run_eq_becoming (now threshold : Instant) (t : Table Certificate) :
    (run now threshold t).1 = ⟨becoming now threshold .expired t,
      becoming now threshold .expiring t, becoming now threshold .valid t⟩ := by
  rw [counts_run_eq]
  congr 1 <;> refine List.countP_congr fun r _ => ?_
  · rw [decide_eq_true_iff, expires_iff_due]
  · rw [decide_eq_true_iff, nears_iff_due]
  · rw [decide_eq_true_iff, recovers_iff_due]

/-- Right after a refresh no certificate is due another status. -/
lemma becoming_run (now threshold : Instant) (status : CertificateStatus) (t : Table Certificate) :
    becoming now threshold status (run now threshold t).2 = 0 := by
  rw [becoming, count, rows_run_eq_settle, List.countP_eq_zero]
  intro r hr
  obtain ⟨old, -, rfl⟩ := List.mem_map.1 hr
  rw [decide_eq_true_iff, Row.data_settle, Certificate.dueStatus_dueStatus le_rfl]
  exact fun h => h.1 h.2

lemma counts_run_run (now threshold : Instant) (t : Table Certificate) :
    (run now threshold (run now threshold t).2).1 = ⟨0, 0, 0⟩ := by
  simp only [counts_run_eq_becoming, becoming_run]

/-- A count splits into those with another property and those without it. -/
lemma count_split (p q : Certificate → Bool) (t : Table Certificate) :
    count p t = count (fun c => p c && q c) t + count (fun c => p c && !q c) t := by
  simp only [count, List.countP_eq_countP_filter_add t.rows (fun r => p r.data) fun r => q r.data,
    List.countP_filter]

/-- How many expiring certificates end past the threshold, and yet have ended. -/
def overdue (now threshold : Instant) (t : Table Certificate) : Nat :=
  count (fun c => c.status = .expiring ∧ threshold < c.expires ∧ c.expires ≤ now) t

lemma overdue_eq_zero (h : now ≤ threshold) (t : Table Certificate) :
    overdue now threshold t = 0 := by
  rw [overdue, count, List.countP_eq_zero]
  intro r _
  rw [decide_eq_true_iff]
  rintro ⟨-, hpast, hended⟩
  exact absurd (hended.trans h) (not_le.2 hpast)

/-- A dry run counts what the marks count, and the overdue certificates as valid besides. -/
lemma preview_eq (now threshold : Instant) (t : Table Certificate) :
    preview now threshold t = ⟨(run now threshold t).1.expired, (run now threshold t).1.expiring,
      (run now threshold t).1.valid + overdue now threshold t⟩ := by
  rw [counts_run_eq, preview, count_split (recovers threshold) fun c => decide (now < c.expires)]
  congr 2
  refine List.countP_congr fun r _ => ?_
  simp only [recovers, Bool.and_eq_true, Bool.not_eq_true', decide_eq_true_eq,
    decide_eq_false_iff_not, not_lt, and_assoc]

lemma preview_eq_counts_run (h : now ≤ threshold) (t : Table Certificate) :
    preview now threshold t = (run now threshold t).1 := by
  rw [preview_eq, overdue_eq_zero h, Nat.add_zero]

end Refresh

end CertRegistry
