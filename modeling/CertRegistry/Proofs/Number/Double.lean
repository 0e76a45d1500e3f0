import CertRegistry.Number.Double
import Mathlib.Data.Rat.Floor
import Mathlib.Tactic

/-!
# The values of doubles

A finite double has a rational value. Doubles are compared, cut off and rounded up by their values.
A quotient of whole numbers is rounded to the nearest double, which may move it, but not across a
whole number as long as both are small enough. So rounding up the double gives the quotient rounded
up.
-/

namespace CertRegistry.Double

/-- A double that is a number. -/
def IsFinite : Double → Prop
  | finite _ _ _ => True
  | nan | infinite _ => False

/-- The value of a finite double. -/
def value : Double → ℚ
  | finite negative m e => (if negative then -1 else 1) * m * 2 ^ e
  | nan | infinite _ => 0

variable {x y : Double} {num den n k K : ℕ} {e : ℤ}

@[simp] lemma value_finite_false (m : ℕ) (e : ℤ) : (finite false m e).value = m * 2 ^ e := by
  simp [value]

@[simp] lemma value_finite_true (m : ℕ) (e : ℤ) : (finite true m e).value = -(m * 2 ^ e) := by
  simp [value]

/-! ### Comparing and cutting off -/

/-- A double is a whole number of any smaller power of two. -/
lemma value_eq_mul {negative : Bool} {m : ℕ} {g : ℤ} (h : g ≤ e) :
    (finite negative m e).value =
      (if negative then -((m * Nat.pow 2 (e - g).toNat : ℕ) : ℤ)
        else (m * Nat.pow 2 (e - g).toNat : ℕ) : ℤ) * (2 : ℚ) ^ g := by
  have hpow : (2 : ℚ) ^ e = 2 ^ (e - g).toNat * 2 ^ g := by
    rw [← zpow_natCast, ← zpow_add₀ two_ne_zero]
    congr 1
    omega
  rw [value, hpow]
  cases negative <;> simp [mul_assoc]

/-- Doubles are compared by their values. -/
lemma less_iff (hx : x.IsFinite) (hy : y.IsFinite) : x.less y ↔ x.value < y.value := by
  cases x with
  | nan | infinite => exact absurd hx id
  | finite a m e =>
    cases y with
    | nan | infinite => exact absurd hy id
    | finite b n f =>
      have hpos : (0 : ℚ) < 2 ^ min e f := zpow_pos two_pos _
      rw [value_eq_mul (min_le_left e f), value_eq_mul (min_le_right e f),
        mul_lt_mul_iff_left₀ hpos, Int.cast_lt]
      simp only [less, decide_eq_true_eq]

lemma zpow_ofNat_two (k : ℕ) : (2 : ℚ) ^ Int.ofNat k = (2 ^ k : ℕ) := by simp

lemma zpow_negSucc_two (k : ℕ) : (2 : ℚ) ^ Int.negSucc k = ((2 ^ (k + 1) : ℕ) : ℚ)⁻¹ := by
  simp [zpow_negSucc]

/-- What is left of a double without its fraction is the greatest whole number below it. -/
lemma truncate?_eq_floor (hx : x.IsFinite) (h : 0 ≤ x.value) : x.truncate? = some ⌊x.value⌋ := by
  cases x with
  | nan | infinite => exact absurd hx id
  | finite negative m e =>
    have hpos : (0 : ℚ) < 2 ^ e := zpow_pos two_pos _
    cases negative with
    | true =>
      have hm : m = 0 := by
        rw [value_finite_true, neg_nonneg] at h
        have hm := nonpos_of_mul_nonpos_left h hpos
        exact Nat.le_zero.1 (by exact_mod_cast hm)
      subst hm
      cases e <;> simp [truncate?]
    | false =>
      cases e with
      | ofNat k =>
        rw [value_finite_false, zpow_ofNat_two, ← Nat.cast_mul, Int.floor_natCast]
        rfl
      | negSucc k =>
        have hfloor := Rat.floor_natCast_div_natCast m (2 ^ (k + 1))
        rw [value_finite_false, zpow_negSucc_two, ← div_eq_mul_inv, hfloor]
        rfl

/-- A quotient of whole numbers, rounded up. -/
lemma ceil_natCast_div (num : ℕ) (hden : 0 < den) :
    ⌈(num : ℚ) / den⌉ = ((num + (den - 1)) / den : ℕ) := by
  have hden' : (0 : ℚ) < den := Nat.cast_pos.2 hden
  have hle := Nat.div_mul_le_self (num + (den - 1)) den
  have hlt : num + (den - 1) < (num + (den - 1)) / den * den + den := Nat.lt_div_mul_add hden
  have hbelow : (num + (den - 1)) / den * den < num + den := by omega
  have habove : num ≤ (num + (den - 1)) / den * den := by omega
  rw [Int.ceil_eq_iff, lt_div_iff₀ hden', div_le_iff₀ hden', Int.cast_natCast, sub_one_mul,
    sub_lt_iff_lt_add]
  exact ⟨by exact_mod_cast hbelow, by exact_mod_cast habove⟩

/-- A double that is not negative is rounded up to the least whole number above it. -/
lemma ceil?_eq_ceil (m : ℕ) (e : ℤ) :
    (finite false m e).ceil? = some ⌈(finite false m e).value⌉ := by
  rw [value_finite_false]
  cases e with
  | ofNat k =>
    rw [zpow_ofNat_two, ← Nat.cast_mul, Int.ceil_natCast]
    rfl
  | negSucc k =>
    rw [zpow_negSucc_two, ← div_eq_mul_inv, ceil_natCast_div m (Nat.two_pow_pos _)]
    rfl

/-! ### Nearest quotients -/

/-- A quotient that is at most a whole number is rounded to none above it. -/
lemma divNearest_le (hden : 0 < den) (h : num ≤ k * den) : divNearest num den ≤ k := by
  have hdiv := Nat.div_add_mod num den
  have hle : num / den ≤ k := Nat.div_le_of_le_mul (by rwa [mul_comm])
  rcases hle.lt_or_eq with hlt | heq
  · unfold divNearest
    extract_lets q r
    split_ifs <;> omega
  · have hmod : num % den = 0 := by
      rw [heq, mul_comm] at hdiv
      omega
    simp [divNearest, hmod, hden, heq]

/-- A quotient that is more than half above a whole number is rounded to one above it. -/
lemma lt_divNearest (hden : 0 < den) (h : 2 * (k * den) + den < 2 * num) : k < divNearest num den := by
  have hdiv := Nat.div_add_mod num den
  have hle : k ≤ num / den := (Nat.le_div_iff_mul_le hden).2 (by omega)
  rcases hle.lt_or_eq with hlt | heq
  · unfold divNearest
    extract_lets q r
    split_ifs <;> omega
  · have hmod : den < 2 * (num % den) := by
      rw [← heq, mul_comm] at hdiv
      omega
    simp [divNearest, hmod, hmod.not_gt, ← heq]

/-- A quotient that is scaled by a power of two large enough and rounded to the nearest whole number
is not moved across a whole number. -/
lemma ceil_divNearest (hnum : 0 < num) (hden : 0 < den) (hK : den < 2 ^ (K + 1)) :
    ⌈(divNearest (num * 2 ^ K) den : ℚ) / 2 ^ K⌉ = ⌈(num : ℚ) / den⌉ := by
  obtain ⟨j, hj, hj'⟩ : ∃ j, j * den < num ∧ num ≤ (j + 1) * den := by
    have hle := Nat.div_mul_le_self (num - 1) den
    have hlt : num - 1 < (num - 1) / den * den + den := Nat.lt_div_mul_add hden
    refine ⟨(num - 1) / den, by omega, ?_⟩
    rw [add_one_mul]
    omega
  -- the scaled quotient is at most a scaled whole number and, as the scale is large enough, more
  -- than half above the one before it
  have habove : divNearest (num * 2 ^ K) den ≤ (j + 1) * 2 ^ K := by
    apply divNearest_le hden
    calc num * 2 ^ K ≤ (j + 1) * den * 2 ^ K := Nat.mul_le_mul_right _ hj'
      _ = (j + 1) * 2 ^ K * den := mul_right_comm _ _ _
  have hbelow : j * 2 ^ K < divNearest (num * 2 ^ K) den := by
    apply lt_divNearest hden
    calc 2 * (j * 2 ^ K * den) + den < 2 * (j * 2 ^ K * den) + 2 ^ (K + 1) :=
          Nat.add_lt_add_left hK _
      _ = 2 * ((j * den + 1) * 2 ^ K) := by ring
      _ ≤ 2 * (num * 2 ^ K) := Nat.mul_le_mul_left _ (Nat.mul_le_mul_right _ hj)
  have hscale : (0 : ℚ) < 2 ^ K := pow_pos two_pos K
  have hden' : (0 : ℚ) < den := Nat.cast_pos.2 hden
  have hleft : ⌈(divNearest (num * 2 ^ K) den : ℚ) / 2 ^ K⌉ = j + 1 := by
    rw [Int.ceil_eq_iff, lt_div_iff₀ hscale, div_le_iff₀ hscale]
    push_cast
    rw [add_sub_cancel_right]
    exact ⟨by exact_mod_cast hbelow, by exact_mod_cast habove⟩
  have hright : ⌈(num : ℚ) / den⌉ = j + 1 := by
    rw [Int.ceil_eq_iff, lt_div_iff₀ hden', div_le_iff₀ hden']
    push_cast
    rw [add_sub_cancel_right]
    exact ⟨by exact_mod_cast hj, by exact_mod_cast hj'⟩
  rw [hleft, hright]

/-! ### Powers of two in a quotient -/

lemma shifted_neg (num den K : ℕ) : shifted num den (-K) = (num * 2 ^ K, den) := by
  cases K with
  | zero => simp [shifted]
  | succ k => rfl

lemma shifted_le_iff :
    (shifted num den e).2 ≤ (shifted num den e).1 ↔ (2 : ℚ) ^ e * den ≤ num := by
  cases e with
  | ofNat k =>
    rw [zpow_ofNat_two, mul_comm, ← Nat.cast_mul, Nat.cast_le]
    rfl
  | negSucc k =>
    have hpos : (0 : ℚ) < (2 ^ (k + 1) : ℕ) := Nat.cast_pos.2 (Nat.two_pow_pos _)
    rw [zpow_negSucc_two, inv_mul_le_iff₀ hpos, mul_comm, ← Nat.cast_mul, Nat.cast_le]
    rfl

/-- The power of two that is taken from a quotient is at most the quotient. -/
lemma zpow_floorLog_le (hnum : 0 < num) :
    (2 : ℚ) ^ floorLog num den * den ≤ num := by
  unfold floorLog
  extract_lets b
  split
  next n d hnd =>
  have hshifted : (shifted num den b).2 ≤ (shifted num den b).1 ↔ (2 : ℚ) ^ b * den ≤ num :=
    shifted_le_iff
  rw [hnd] at hshifted
  split_ifs with hle
  · exact hshifted.1 hle
  · have hnumLog : 2 ^ num.log2 ≤ num := Nat.log2_self_le hnum.ne'
    have hdenLog : den < 2 ^ (den.log2 + 1) := Nat.lt_log2_self
    have hden' : (den : ℚ) ≤ 2 ^ ((den.log2 : ℤ) + 1) := by exact_mod_cast hdenLog.le
    calc (2 : ℚ) ^ (b - 1) * den ≤ 2 ^ (b - 1) * 2 ^ ((den.log2 : ℤ) + 1) :=
          mul_le_mul_of_nonneg_left hden' (zpow_pos two_pos _).le
      _ = 2 ^ (num.log2 : ℤ) := by
          rw [← zpow_add₀ two_ne_zero]
          congr 1
          omega
      _ ≤ num := by exact_mod_cast hnumLog

lemma floorLog_ge (num den : ℕ) : (num.log2 : ℤ) - den.log2 - 1 ≤ floorLog num den := by
  unfold floorLog
  extract_lets b
  split
  split_ifs <;> omega

/-- A quotient is the nearest whole number of a power of two, where that power is the one that the
quotient asks for and is neither too small nor too large for a double. -/
lemma value_ofRatio (hnum : 0 < num) (hK : floorLog num den - 52 = -K) (hmost : K ≤ 1074) :
    ∃ m e, ofRatio false num den = finite false m e ∧
      (finite false m e).value = divNearest (num * 2 ^ K) den / 2 ^ K := by
  have hexponent : max minExponent (floorLog num den - 52) = -K := by
    rw [hK, minExponent]
    omega
  have hfits : ¬ maxExponent < -(K : ℤ) := by
    rw [maxExponent]
    omega
  have hfits' : ¬ maxExponent < -(K : ℤ) + 1 := by
    rw [maxExponent]
    omega
  unfold ofRatio
  rw [if_neg hnum.ne', hexponent]
  dsimp only
  rw [shifted_neg]
  -- a mantissa that is rounded up to 2⁵³ moves into the exponent, and the value stays
  by_cases hcarry : divNearest (num * 2 ^ K) den = Nat.pow 2 53
  · rw [if_pos hcarry]
    refine ⟨Nat.pow 2 52, -K + 1, if_neg hfits', ?_⟩
    rw [value_finite_false, hcarry, zpow_add₀ two_ne_zero, zpow_neg, zpow_natCast, div_eq_mul_inv]
    norm_num
    ring
  · rw [if_neg hcarry]
    refine ⟨divNearest (num * 2 ^ K) den, -K, if_neg hfits, ?_⟩
    rw [value_finite_false, zpow_neg, zpow_natCast, div_eq_mul_inv]

/-- A small quotient, rounded to a double and then up, is the quotient rounded up. -/
theorem ceil?_ofRatio (hnum : 0 < num) (hden : 0 < den) (hnum' : num < 2 ^ 53)
    (hden' : den ≤ 2 ^ 53) : (ofRatio false num den).ceil? = some ⌈(num : ℚ) / den⌉ := by
  have hbelow : (2 : ℚ) ^ floorLog num den * den < 2 ^ (53 : ℤ) :=
    (zpow_floorLog_le hnum).trans_lt (by exact_mod_cast hnum')
  have hle : floorLog num den < 53 := by
    have hone : (1 : ℚ) ≤ den := by exact_mod_cast hden
    have hpow := (le_mul_of_one_le_right (zpow_pos two_pos _).le hone).trans_lt hbelow
    exact (zpow_lt_zpow_iff_right₀ one_lt_two).1 hpow
  have hge := floorLog_ge num den
  have hlog : den.log2 < 54 :=
    (Nat.log2_lt hden.ne').2 (hden'.trans_lt (Nat.pow_lt_pow_right one_lt_two (by decide)))
  obtain ⟨K, hK⟩ : ∃ K : ℕ, floorLog num den - 52 = -K :=
    ⟨(52 - floorLog num den).toNat, by omega⟩
  have hroom : den < 2 ^ (K + 1) := by
    have hsplit : (2 : ℚ) ^ (53 : ℤ) = 2 ^ floorLog num den * 2 ^ (K + 1) := by
      rw [← zpow_natCast, ← zpow_add₀ two_ne_zero]
      congr 1
      push_cast
      omega
    rw [hsplit, mul_lt_mul_iff_right₀ (zpow_pos two_pos _)] at hbelow
    exact_mod_cast hbelow
  obtain ⟨m, e, hround, hvalue⟩ := value_ofRatio hnum hK (by omega)
  rw [hround, ceil?_eq_ceil, hvalue, ceil_divNearest hnum hden hroom]

end CertRegistry.Double
