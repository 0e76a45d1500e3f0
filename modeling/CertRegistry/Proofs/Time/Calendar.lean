import CertRegistry.Time.Calendar
import Mathlib

/-!
# Days by number

Every day of the years 1 to 9999 has a number, and the year, month and day found for a number are a
date with that number. The year is found from the number of 400-year cycles, which is off by one
at most, the month by a search that ends at the right one.
-/

namespace CertRegistry.Date

variable {n year month rest : Nat}

lemma daysBeforeMonth_thirteen (year : Nat) :
    daysBeforeMonth year 13 = if isLeap year then 366 else 365 := by
  cases h : isLeap year <;> simp [daysBeforeMonth, monthLength, h]

lemma isLeap_iff : isLeap year ↔ 4 ∣ year ∧ (100 ∣ year → 400 ∣ year) := by
  simp [isLeap, Nat.dvd_iff_mod_eq_zero, imp_iff_not_or]

/-- A year is as long as its months together. -/
lemma daysBeforeYear_succ (k : Nat) :
    daysBeforeYear (k + 2) = daysBeforeYear (k + 1) + daysBeforeMonth (k + 1) 13 := by
  have hle : k / 100 ≤ k / 4 := Nat.div_le_div_left (by decide) (by decide)
  have hfour (h : 100 ∣ k + 1) : 4 ∣ k + 1 := Dvd.dvd.trans (by decide) h
  have hhundred (h : 400 ∣ k + 1) : 100 ∣ k + 1 := Dvd.dvd.trans (by decide) h
  simp only [daysBeforeMonth_thirteen, isLeap_iff, daysBeforeYear, Nat.add_sub_cancel,
    Nat.succ_div, show k + 2 - 1 = k + 1 from rfl]
  by_cases h4 : 4 ∣ k + 1
  · by_cases h100 : 100 ∣ k + 1
    · by_cases h400 : 400 ∣ k + 1
      · simp only [h4, h100, h400]
        simp
        omega
      · simp [h4, h100, h400]
        omega
    · have h400 := mt hhundred h100
      simp [h4, h100, h400]
      omega
  · have h100 := mt hfour h4
    have h400 := mt hhundred h100
    simp [h4, h100, h400]
    omega

lemma daysBeforeYear_mono : Monotone daysBeforeYear := by
  apply monotone_nat_of_le_succ
  intro year
  cases year with
  | zero => decide
  | succ k =>
    rw [daysBeforeYear_succ]
    exact Nat.le_add_right _ _

/-- A cycle of 400 years has 146097 days, and no year is ahead of its share by two days. -/
lemma daysBeforeYear_bounds (k : Nat) :
    146097 * k < 400 * daysBeforeYear (k + 1) + 400 * 2 ∧
      400 * daysBeforeYear (k + 1) ≤ 146097 * k + 400 := by
  simp only [daysBeforeYear, Nat.add_sub_cancel]
  omega

lemma yearOf_spec (hn : n < dayCount) :
    0 < yearOf n ∧ yearOf n ≤ 9999 ∧ daysBeforeYear (yearOf n) ≤ n ∧
      n < daysBeforeYear (yearOf n + 1) := by
  have hlast {year : Nat} (h : daysBeforeYear year ≤ n) : year ≤ 9999 := by
    by_contra hlate
    have hle : dayCount ≤ daysBeforeYear year := daysBeforeYear_mono (not_le.1 hlate)
    omega
  unfold yearOf
  extract_lets y
  have hy : y = n * 400 / 146097 := rfl
  have hnext := daysBeforeYear_bounds (y + 2)
  clear_value y
  split_ifs with h2 h1
  · exact ⟨Nat.succ_pos _, hlast h2, h2, by omega⟩
  · exact ⟨Nat.succ_pos _, hlast h1, h1, not_le.1 h2⟩
  · cases y with
    | zero => exact absurd (Nat.zero_le n) h1
    | succ k =>
      have hprev := daysBeforeYear_bounds k
      exact ⟨Nat.succ_pos _, hlast (by omega), by omega, not_le.1 h1⟩

lemma daysBeforeMonth_succ (h : 0 < month) :
    daysBeforeMonth year (month + 1) = daysBeforeMonth year month + monthLength year month := by
  cases month with
  | zero => exact absurd h (lt_irrefl 0)
  | succ month => rfl

lemma monthOf_spec (hmonth : 0 < month) (hrest : rest < daysBeforeMonth year (month + 1)) :
    0 < monthOf year rest month ∧ monthOf year rest month ≤ month ∧
      daysBeforeMonth year (monthOf year rest month) ≤ rest ∧
      rest < daysBeforeMonth year (monthOf year rest month + 1) := by
  induction month with
  | zero => exact absurd hmonth (lt_irrefl 0)
  | succ month ih =>
    unfold monthOf
    split_ifs with hle
    · exact ⟨hmonth, le_rfl, hle, hrest⟩
    · by_cases hzero : month = 0
      · subst hzero
        simp [daysBeforeMonth] at hle
      · obtain ⟨hpos, hle', hbounds⟩ := ih (Nat.pos_of_ne_zero hzero) (not_le.1 hle)
        exact ⟨hpos, hle'.trans (Nat.le_succ month), hbounds⟩

lemma isValid_iff {d : Date} : d.isValid ↔ 1 ≤ d.year ∧ d.year ≤ 9999 ∧ 1 ≤ d.month ∧
    d.month ≤ 12 ∧ 1 ≤ d.day ∧ d.day ≤ monthLength d.year d.month := by
  simp only [isValid, Bool.and_eq_true, decide_eq_true_eq, and_assoc]

/-- Day and number of day are inverse. -/
theorem ofNumber_spec (hn : n < dayCount) : (ofNumber n).isValid ∧ (ofNumber n).toNumber = n := by
  obtain ⟨hyear, hyear', hfirst, hlast⟩ := yearOf_spec hn
  obtain ⟨k, hk⟩ := Nat.exists_eq_succ_of_ne_zero hyear.ne'
  rw [hk, daysBeforeYear_succ, ← Nat.succ_eq_add_one, ← hk] at hlast
  have hrest : n - daysBeforeYear (yearOf n) < daysBeforeMonth (yearOf n) 13 := by omega
  obtain ⟨hmonth, hmonth', hstart, hend⟩ := monthOf_spec (by decide) hrest
  rw [daysBeforeMonth_succ hmonth] at hend
  rw [isValid_iff]
  simp only [ofNumber, toNumber]
  exact ⟨⟨hyear, hyear', hmonth, hmonth', Nat.succ_pos _, by omega⟩, by omega⟩

end CertRegistry.Date
