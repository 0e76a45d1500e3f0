import CertRegistry.Number.Integer
import CertRegistry.Proofs.Text.Numeral

/-!
# Integer texts that are read

An integer that is read has no more digits than are read at all, and the decimal text of a number
that short is read as that number.
-/

namespace CertRegistry

namespace Text

lemma digitValue?_of_isAsciiDigit {c : Nat} (h : isAsciiDigit c) :
    digitValue? c = some (c - 48) := by
  have hrun : (48 ≤ c && c < 48 + 10) = true := by
    simp only [isAsciiDigit, Bool.and_eq_true, decide_eq_true_eq] at h ⊢
    omega
  have hfind : digitZeros.find? (fun z => z ≤ c && c < z + 10) = some 48 :=
    List.find?_cons_of_pos hrun
  rw [digitValue?, hfind, Option.map_some]

lemma isBlank_of_isAsciiDigit {c : Nat} (h : isAsciiDigit c) : isBlank c = false := by
  simp only [isAsciiDigit, Bool.and_eq_true, decide_eq_true_eq] at h
  obtain ⟨hlow, hhigh⟩ := h
  interval_cases c <;> rfl

lemma ofNat_ne_nil (n : Nat) : ofNat n ≠ [] := by
  intro h
  have hvalue := digitsValue_ofNat n
  rw [h] at hvalue
  obtain rfl : n = 0 := hvalue.symm
  exact absurd h (by decide)

end Text

namespace Integer

lemma digits_lt_of_digitRun? {afterDigit : Bool} {t rest : Text} {ds : List Nat}
    (h : digitRun? afterDigit t = some (ds, rest)) : ∀ d ∈ ds, d < 10 := by
  induction t generalizing afterDigit ds with
  | nil =>
    simp only [digitRun?] at h
    split_ifs at h
    obtain ⟨rfl, -⟩ := Prod.mk.inj (Option.some.inj h)
    exact List.forall_mem_nil _
  | cons c t ih =>
    unfold digitRun? at h
    split at h
    · next d hd =>
      obtain ⟨⟨ds', rest'⟩, hrun, heq⟩ := Option.map_eq_some_iff.1 h
      obtain ⟨rfl, rfl⟩ := Prod.mk.inj heq
      exact List.forall_mem_cons.2 ⟨Text.digitValue?_lt hd, ih hrun⟩
    · split_ifs at h
      · exact ih h
      · obtain ⟨rfl, -⟩ := Prod.mk.inj (Option.some.inj h)
        exact List.forall_mem_nil _

/-- No longer numbers are read. -/
lemma natAbs_lt_of_ofText {t : Text} {n : Int} (h : ofText t = .ok n) :
    n.natAbs < 10 ^ maxDigits := by
  unfold ofText at h
  split at h
  next negative body _ =>
    split at h
    · exact absurd h nofun
    · next ds rest hrun =>
      split_ifs at h with hlong _ hminus
      all_goals
        obtain rfl := Except.ok.inj h
        have hlt := Text.digitsValue_lt ds (digits_lt_of_digitRun? hrun)
        have hle : 10 ^ ds.length ≤ 10 ^ maxDigits :=
          Nat.pow_le_pow_right (by decide) (not_lt.1 hlong)
        simpa using hlt.trans_le hle

/-- A run of ASCII digits is read to its end. -/
lemma digitRun?_of_forall {afterDigit : Bool} {t : Text} (hdigits : ∀ c ∈ t, Text.isAsciiDigit c)
    (ht : afterDigit ∨ t ≠ []) : digitRun? afterDigit t = some (t.map (· - 48), []) := by
  induction t generalizing afterDigit with
  | nil =>
    have hafter : afterDigit = true := by simpa using ht
    simp [digitRun?, hafter]
  | cons c t ih =>
    obtain ⟨hc, hrest⟩ := List.forall_mem_cons.1 hdigits
    simp [digitRun?, Text.digitValue?_of_isAsciiDigit hc, ih hrest (Or.inl rfl)]

theorem ofText_ofNat {n : Nat} (hn : n < 10 ^ maxDigits) :
    ofText (Text.ofNat n) = .ok (n : Int) := by
  have hdigits : ∀ c ∈ Text.ofNat n, Text.isAsciiDigit c := fun c => Text.isAsciiDigit_of_mem_ofNat
  have hlength : (Text.ofNat n).length ≤ maxDigits :=
    (Text.length_ofNat_le_iff (by decide)).2 hn
  -- neither a blank nor a sign stands in front
  have hfront : (Text.ofNat n).dropWhile isPadding = Text.ofNat n := by
    rw [List.dropWhile_eq_self_iff]
    intro hpos hpadding
    have hblank := Text.isBlank_of_isAsciiDigit (hdigits _ (List.getElem_mem hpos))
    simp [isPadding, hblank] at hpadding
  have hsign : sign (Text.ofNat n) = (false, Text.ofNat n) := by
    unfold sign
    split
    · next r h => exact absurd (hdigits 43 (by simp [h])) (by decide)
    · next r h => exact absurd (hdigits 45 (by simp [h])) (by decide)
    · rfl
  have hrun : digitRun? false (Text.ofNat n) = some ((Text.ofNat n).map (· - 48), []) :=
    digitRun?_of_forall hdigits (Or.inr (Text.ofNat_ne_nil n))
  have hshort : ¬ ((Text.ofNat n).map (· - 48)).length > maxDigits := by
    rw [List.length_map]
    exact not_lt.2 hlength
  simp only [ofText, hfront, hsign, hrun, if_neg hshort, Text.digitsValue_ofNat]
  rfl

end Integer

end CertRegistry
