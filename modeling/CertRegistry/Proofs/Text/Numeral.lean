import CertRegistry.Text.Basic
import CertRegistry.Text.DecimalDigit
import Mathlib

/-!
# Numerals

The decimal text of a number holds digits only, and an integer may have a sign in front. Different
integers have different texts, also where a blank and anything else follows them. Digits of any
script write a number below the power of ten with their count, and the digits of a number write that
number, also with zeros in front. No other digits write it.
-/

namespace CertRegistry.Text

lemma isAsciiDigit_of_mem_ofNat {n c : Nat} (h : c ∈ ofNat n) : isAsciiDigit c := by
  obtain ⟨digit, hdigit, rfl⟩ := List.mem_map.1 h
  have hd := Nat.isDigit_of_mem_toDigits (by decide) (by decide) hdigit
  simp only [Char.isDigit, Bool.and_eq_true, decide_eq_true_eq] at hd
  simp only [isAsciiDigit, Bool.and_eq_true, decide_eq_true_eq]
  exact ⟨UInt32.le_iff_toNat_le.1 hd.1, UInt32.le_iff_toNat_le.1 hd.2⟩

lemma ofNat_injective : Function.Injective ofNat := by
  intro m n h
  have hdigits : Nat.toDigits 10 m = Nat.toDigits 10 n :=
    List.map_injective_iff.2 (fun _ _ h => Char.toNat_inj.1 h) h
  rw [← Nat.ofDigitChars_ten_toDigits (n := m), hdigits, Nat.ofDigitChars_ten_toDigits]

/-- The sign of a negative integer is no digit. -/
lemma ofNat_ne_sign_append {m : Nat} {t : Text} : ofNat m ≠ ofString "-" ++ t := by
  intro h
  have hmem : 45 ∈ ofNat m := by
    rw [h]
    exact List.mem_append_left _ (by decide)
  exact absurd (isAsciiDigit_of_mem_ofNat hmem) (by decide)

lemma ofInt_injective : Function.Injective ofInt := by
  intro i j h
  match i, j with
  | .ofNat m, .ofNat n => rw [ofNat_injective h]
  | .ofNat m, .negSucc n => exact absurd h ofNat_ne_sign_append
  | .negSucc m, .ofNat n => exact absurd h.symm ofNat_ne_sign_append
  | .negSucc m, .negSucc n =>
    have hsucc := ofNat_injective (List.append_cancel_left h)
    rw [Nat.succ.inj hsucc]

lemma blank_notMem_ofInt (i : Int) : 32 ∉ ofInt i := by
  intro h
  match i with
  | .ofNat n => exact absurd (isAsciiDigit_of_mem_ofNat h) (by decide)
  | .negSucc n =>
    rcases List.mem_append.1 h with hsign | hdigit
    · exact absurd hsign (by decide)
    · exact absurd (isAsciiDigit_of_mem_ofNat hdigit) (by decide)

/-- A numeral ends at the blank after it. -/
lemma ofInt_append_blank_inj {i j : Int} {t u : Text} :
    ofInt i ++ 32 :: t = ofInt j ++ 32 :: u ↔ i = j ∧ t = u := by
  constructor
  · intro h
    have hfront (k : Int) (v : Text) : (ofInt k ++ 32 :: v).takeWhile (· ≠ 32) = ofInt k := by
      rw [List.takeWhile_append_of_pos fun c hc => ?_]
      · simp
      · have hne : c ≠ 32 := fun heq => blank_notMem_ofInt k (heq ▸ hc)
        simpa using hne
    have hij : ofInt i = ofInt j := by rw [← hfront i t, h, hfront j u]
    rw [hij] at h
    exact ⟨ofInt_injective hij, List.tail_eq_of_cons_eq (List.append_cancel_left h)⟩
  · rintro ⟨rfl, rfl⟩
    rfl

/-! ### Digits -/

lemma digitsValue_eq_ofDigits (ds : List Nat) : digitsValue ds = Nat.ofDigits 10 ds.reverse := by
  rw [Nat.ofDigits_eq_foldr, List.foldr_reverse]
  refine congrArg (fun f => ds.foldl f 0) ?_
  funext n d
  exact Nat.add_comm _ _

/-- So many decimal digits write a number below that power of ten. -/
lemma digitsValue_lt (ds : List Nat) (h : ∀ d ∈ ds, d < 10) : digitsValue ds < 10 ^ ds.length := by
  rw [digitsValue_eq_ofDigits, ← List.length_reverse]
  exact Nat.ofDigits_lt_base_pow_length (by decide) fun d hd => h d (List.mem_reverse.1 hd)

lemma digitValue?_lt {c d : Nat} (h : digitValue? c = some d) : d < 10 := by
  simp only [digitValue?, Option.map_eq_some_iff] at h
  obtain ⟨z, hz, rfl⟩ := h
  have hin := List.find?_some hz
  simp only [Bool.and_eq_true, decide_eq_true_eq] at hin
  omega

/-! ### Reading a numeral back -/

variable {n width c : Nat}

lemma digitsValue_ofNat (n : Nat) : digitsValue ((ofNat n).map (· - 48)) = n := by
  rw [digitsValue, ofNat, List.map_map, List.foldl_map]
  exact Nat.ofDigitChars_ten_toDigits

lemma length_ofNat_le_iff (h : 0 < width) : (ofNat n).length ≤ width ↔ n < 10 ^ width := by
  rw [ofNat, List.length_map]
  exact Nat.length_toDigits_le_iff (by decide) h

lemma length_padded (h : 0 < width) (hn : n < 10 ^ width) : (padded width n).length = width := by
  have hle := (length_ofNat_le_iff h).2 hn
  simp only [padded, zeros, List.length_append, List.length_replicate]
  omega

lemma isAsciiDigit_of_mem_padded (h : c ∈ padded width n) : isAsciiDigit c := by
  rcases List.mem_append.1 h with h | h
  · rw [List.eq_of_mem_replicate h]
    rfl
  · exact isAsciiDigit_of_mem_ofNat h

lemma digitsValue_padded (width n : Nat) : digitsValue ((padded width n).map (· - 48)) = n := by
  have hzeros (k : Nat) : (List.replicate k 0).foldl (fun n d => 10 * n + d) 0 = 0 := by
    induction k with
    | zero => rfl
    | succ k ih => simpa [List.replicate_succ] using ih
  have h := digitsValue_ofNat n
  simp only [digitsValue] at h ⊢
  simp [padded, zeros, hzeros, h]

/-! ### Digits without zeros in front -/

/-- A numeral without the zeros in front. Of zeros alone one is left. -/
def unpadded (t : Text) : Text :=
  if t.dropWhile (· = 48) = [] then [48] else t.dropWhile (· = 48)

lemma sub_lt_of_isAsciiDigit (h : isAsciiDigit c) : c - 48 < 10 := by
  simp only [isAsciiDigit, Bool.and_eq_true, decide_eq_true_eq] at h
  omega

lemma ofNat_of_isAsciiDigit (h : isAsciiDigit c) : ofNat (c - 48) = [c] := by
  simp only [isAsciiDigit, Bool.and_eq_true, decide_eq_true_eq] at h
  obtain ⟨hlow, hhigh⟩ := h
  interval_cases c <;> rfl

/-- Digits after those of a number are its further digits, unless the number is zero. -/
lemma ofNat_foldl {t : Text} (hn : 0 < n) (h : ∀ c ∈ t, isAsciiDigit c) :
    ofNat ((t.map (· - 48)).foldl (fun n d => 10 * n + d) n) = ofNat n ++ t := by
  induction t generalizing n with
  | nil => exact (List.append_nil _).symm
  | cons c t ih =>
    obtain ⟨hc, ht⟩ := List.forall_mem_cons.1 h
    have hnext : ofNat (10 * n + (c - 48)) = ofNat n ++ [c] := by
      rw [← ofNat_of_isAsciiDigit hc, ofNat, ofNat, ofNat, ← List.map_append,
        Nat.toDigits_append_toDigits (by decide) hn (sub_lt_of_isAsciiDigit hc)]
    rw [List.map_cons, List.foldl_cons, ih (by omega) ht, hnext, List.append_assoc,
      List.singleton_append]

/-- The number that digits write has just these digits, up to zeros in front. -/
lemma ofNat_digitsValue {t : Text} (h : ∀ c ∈ t, isAsciiDigit c) :
    ofNat (digitsValue (t.map (· - 48))) = t.unpadded := by
  induction t with
  | nil => rfl
  | cons c t ih =>
    obtain ⟨hc, ht⟩ := List.forall_mem_cons.1 h
    by_cases hzero : c = 48
    · subst hzero
      have hdrop : unpadded (48 :: t) = unpadded t := by simp [unpadded]
      rw [hdrop, ← ih ht]
      rfl
    · have hdrop : unpadded (c :: t) = c :: t := by simp [unpadded, hzero]
      have hpos : 0 < c - 48 := by
        simp only [isAsciiDigit, Bool.and_eq_true, decide_eq_true_eq] at hc
        omega
      rw [hdrop, digitsValue, List.map_cons, List.foldl_cons, Nat.mul_zero, Nat.zero_add,
        ofNat_foldl hpos ht, ofNat_of_isAsciiDigit hc, List.singleton_append]

end CertRegistry.Text
