import CertRegistry.Time.Span
import Mathlib

/-!
# Days ahead

A moment reaches a number of days ahead if the days are a span of time and the moment they lead to
can be read on the clock and be stored. On the clock of UTC this says just that the sum lies in the
years 1 to 9999.
-/

namespace CertRegistry

lemma inRange_iff {t : Int} : inRange t ↔ 0 ≤ t ∧ t < timeEnd := by
  simp only [inRange, Bool.and_eq_true, decide_eq_true_eq]

/-- A span of whole days needs no machine integer larger than the bound of spans. -/
lemma spanOfDays_int_eq_ok_iff {days span : Int} :
    spanOfDays (.int days) = .ok span ↔ days.natAbs ≤ maxSpan ∧ span = days * day := by
  have hdays : days * day / day = days := Int.mul_ediv_cancel days (by decide)
  simp only [spanOfDays, checkSpan, hdays, maxSpan]
  split_ifs with hword hspan
  · simp only [false_iff]
    omega
  · simp only [false_iff]
    omega
  · rw [Except.ok.injEq]
    constructor
    · rintro rfl
      exact ⟨by omega, rfl⟩
    · rintro ⟨-, rfl⟩
      rfl

namespace Moment

variable {m : Moment} {days : Int}

lemma after_eq_ok_iff {span : Int} {e : Moment} : m.after span = .ok e ↔
    inRange (m.localTime + span) ∧ e = { m with localTime := m.localTime + span } := by
  unfold after
  split_ifs with h <;> simp [h, eq_comm]

/-- The moment a number of days later, on the same clock. -/
def plusDays (m : Moment) (days : Int) : Moment := { m with localTime := m.localTime + days * day }

/-- Some days ahead of a moment there is a moment that can be stored. -/
structure Reaches (m : Moment) (days : Int) : Prop where
  span : days.natAbs ≤ maxSpan
  localTime : inRange (m.plusDays days).localTime
  instant : inRange (m.plusDays days).instant

lemma reaches_iff {e : Moment} : (m.Reaches days ∧ e = m.plusDays days) ↔
    ∃ span, spanOfDays (.int days) = .ok span ∧ m.after span = .ok e ∧ inRange e.instant := by
  simp only [spanOfDays_int_eq_ok_iff, after_eq_ok_iff]
  constructor
  · rintro ⟨h, rfl⟩
    exact ⟨_, ⟨h.span, rfl⟩, ⟨h.localTime, rfl⟩, h.instant⟩
  · rintro ⟨_, ⟨hspan, rfl⟩, ⟨hlocal, rfl⟩, hinstant⟩
    exact ⟨⟨hspan, hlocal, hinstant⟩, rfl⟩

/-- On a clock that keeps its offset, days are days. -/
lemma instant_plusDays (h : m.offset?.isSome) :
    (m.plusDays days).instant = m.instant + days * day := by
  obtain ⟨offset, hoffset⟩ := Option.isSome_iff_exists.1 h
  simp only [plusDays, instant, Moment.offset, hoffset, Option.getD_some]
  exact add_sub_right_comm _ _ _

/-- On the clock of UTC only the sum counts: no span between two storable times is too long. -/
theorem reaches_ofUtc_iff {t : Instant} (ht : inRange t) :
    (ofUtc t).Reaches days ↔ inRange (t + days * day) := by
  have hinstant : ((ofUtc t).plusDays days).instant = t + days * day := by
    rw [instant_plusDays rfl, instant_ofUtc]
  constructor
  · intro h
    rw [← hinstant]
    exact h.instant
  · intro h
    refine ⟨?_, h, hinstant ▸ h⟩
    rw [inRange_iff] at ht h
    have hday : day = 86400000000 := by decide
    have hend : timeEnd = 3652059 * day := by decide
    rw [hend, hday] at ht h
    simp only [maxSpan]
    omega

end Moment

end CertRegistry
