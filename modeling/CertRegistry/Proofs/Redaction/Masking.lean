import CertRegistry.Proofs.Redaction.Occurrence

/-!
# Masking

Masking a pattern leaves none of its occurrences behind, and it makes no occurrence of a pattern
that was not there before. For the asterisks of a mask are part of no word that is looked for,
except of the value behind a label, and where such a value begins with a mask there was a value
before, as no pattern matches from a blank on. So masking pattern after pattern leaves no occurrence
of any of them.
-/

namespace CertRegistry.Redaction

open Text
open scoped Computability

variable {L : Language Nat} {p q : Pattern} {r : Nat → Bool} {c l : Nat} {t u v word : Text}

/-! ### Patterns in small letters -/

/-- The word of a label is written in small letters. -/
def Pattern.IsPlain : Pattern → Prop
  | .labelled word => word ≠ [] ∧ ∀ l ∈ word, 97 ≤ l ∧ l ≤ 122
  | .home | .address => True

lemma Pattern.IsPlain.letters (h : (Pattern.labelled word).IsPlain) :
    ∀ l ∈ word, 47 ≤ l ∧ l ≤ 122 := by
  intro l hl
  exact ⟨le_trans (by decide) (h.2 l hl).1, (h.2 l hl).2⟩

lemma patterns_isPlain : ∀ p ∈ patterns, p.IsPlain := by
  simp [patterns, Pattern.IsPlain, Text.ofString]

lemma cases_of_folds (h : folds l c) :
    c = l ∨ (65 ≤ c ∧ c ≤ 90) ∨ c = 0x17F ∨ c = 0x212A := by
  simp only [folds, Bool.or_eq_true, Bool.and_eq_true, decide_eq_true_eq] at h
  rcases h with (h | ⟨-, h⟩) | ⟨-, h⟩
  · unfold asciiLower at h
    split_ifs at h with hcapital
    · exact Or.inr (Or.inl hcapital)
    · exact Or.inl h
  · exact Or.inr (Or.inr (Or.inl h))
  · exact Or.inr (Or.inr (Or.inr h))

lemma isBlank_eq_false_of_folds (hl : 47 ≤ l ∧ l ≤ 122) (h : folds l c) : isBlank c = false := by
  have hlow : ∀ c ≤ 122, 47 ≤ c → isBlank c = false := by decide
  rcases cases_of_folds h with rfl | hcapital | rfl | rfl
  · exact hlow c hl.2 hl.1
  · exact hlow c (by omega) (by omega)
  · decide
  · decide

lemma isBlank_eq_false_of_isDigit (h : isDigit c) : isBlank c = false := by
  have hruns : ∀ z ∈ digitZeros, ∀ i < 10, isBlank (z + i) = false := by decide +kernel
  simp only [isDigit, digitValue?, Option.isSome_map, List.find?_isSome, Bool.and_eq_true,
    decide_eq_true_eq] at h
  obtain ⟨z, hz, hle, hlt⟩ := h
  obtain ⟨i, rfl⟩ := Nat.exists_eq_add_of_le hle
  exact hruns z hz i (Nat.lt_of_add_lt_add_left hlt)

/-- An asterisk spells no letter. -/
lemma folds_asterisk (hl : 47 ≤ l ∧ l ≤ 122) : folds l 42 = false := by
  by_contra h
  rcases cases_of_folds (by simpa using h) with h | h | h | h <;> omega

/-- No pattern matches from a code point on that spells no letter and is no digit. -/
lemma Pattern.IsPlain.avoids (h : p.IsPlain)
    (hletter : ∀ l c, 47 ≤ l ∧ l ≤ 122 → folds l c → r c = false)
    (hdigit : ∀ c, isDigit c → r c = false) : Avoids r p.language := by
  have hspelled (L : Language Nat) {word : Text} (hne : word ≠ [])
      (hword : ∀ l ∈ word, 47 ≤ l ∧ l ≤ 122) : Avoids r (spelled word * L) := by
    obtain ⟨l, ls, rfl⟩ := List.exists_cons_of_ne_nil hne
    rw [spelled, mul_assoc]
    exact avoids_one_mul fun c => hletter l c (hword l List.mem_cons_self)
  cases p with
  | labelled word => exact hspelled _ h.1 h.letters
  | home => exact hspelled _ (by decide) (by decide)
  | address =>
    rw [language, Redaction.run, mul_assoc]
    exact avoids_one_mul hdigit

lemma Pattern.IsPlain.avoids_blank (h : p.IsPlain) : Avoids isBlank p.language :=
  h.avoids (fun _ _ => isBlank_eq_false_of_folds) fun _ => isBlank_eq_false_of_isDigit

lemma Pattern.IsPlain.avoids_asterisk (h : p.IsPlain) : Avoids (· = 42) p.language := by
  apply h.avoids
  · intro l c hl hfolds
    rw [decide_eq_false_iff_not]
    rintro rfl
    exact Bool.false_ne_true ((folds_asterisk hl).symm.trans hfolds)
  · intro c hdigit
    rw [decide_eq_false_iff_not]
    rintro rfl
    revert hdigit
    decide

/-! ### Masked texts -/

/-- A text is another one with stretches masked that a pattern matches, from the left on. -/
inductive Masked (p : Pattern) : Text → Text → Prop
  | nil : Masked p [] []
  | keep {c : Nat} {t u : Text} : p.after? (c :: t) = none → Masked p t u →
      Masked p (c :: t) (c :: u)
  | mask {t rest u : Text} : p.after? t = some rest → Masked p rest u →
      Masked p t (mask ++ u)

lemma Pattern.after?_nil (p : Pattern) : p.after? [] = none := by
  cases p with
  | labelled word => cases word <;> simp [after?, afterWord?, afterSign?]
  | home => rfl
  | address => rfl

/-- A match takes a code point at least. -/
lemma Pattern.suffix_of_after? {rest : Text} (h : p.after? (c :: t) = some rest) :
    rest <:+ t := by
  obtain ⟨u, hu, heq⟩ := leaves_of_after? h
  cases u with
  | nil =>
    have hbegins : Begins p.language [] := ⟨[], [], hu, rfl⟩
    rw [begins_iff, after?_nil] at hbegins
    exact absurd hbegins Bool.false_ne_true
  | cons d u => exact ⟨u, (List.cons.inj heq).2.symm⟩

lemma masked_maskFrom (p : Pattern) (passed : Nat) (t : Text) :
    Masked p (t.drop passed) (p.maskFrom passed t) := by
  fun_induction Pattern.maskFrom p passed t with
  | case1 passed =>
    rw [List.drop_nil]
    exact .nil
  | case2 passed c t ih => exact ih
  | case3 c t hnone ih => exact .keep hnone ih
  | case4 c t rest hsome ih =>
    have hdrop : t.drop (t.length - rest.length) = rest :=
      List.suffix_iff_eq_drop.1 (Pattern.suffix_of_after? hsome) |>.symm
    rw [hdrop] at ih
    exact .mask hsome ih

lemma masked_maskAll (p : Pattern) (t : Text) : Masked p t (p.maskAll t) := masked_maskFrom p 0 t

/-! ### Nothing new in front -/

/-- Masking a pattern puts no word of a language in front of a text that had none there. -/
def Unforgeable (p : Pattern) (L : Language Nat) : Prop :=
  ∀ t u, Masked p t u → Begins L u → Begins L t

lemma unforgeable_star (p : Pattern) (r : Nat → Bool) : Unforgeable p (one r)∗ :=
  fun _ _ _ _ => begins_star

lemma unforgeable_one_mul (hr : r 42 = false) (hL : Unforgeable p L) :
    Unforgeable p (one r * L) := by
  intro t u h hu
  cases h with
  | nil => exact hu
  | keep hnone h =>
    rw [begins_one_mul_cons] at hu ⊢
    exact ⟨hu.1, hL _ _ h hu.2⟩
  | mask hsome h => simp [mask, hr] at hu

lemma unforgeable_star_mul (hr : r 42 = false) (hL : Unforgeable p L) :
    Unforgeable p ((one r)∗ * L) := by
  intro t u h hu
  induction h with
  | nil => exact hu
  | keep hnone h ih =>
    rw [begins_star_mul] at hu ⊢
    refine hu.imp (fun hu => hL _ _ (.keep hnone h) hu) fun hu => ?_
    rw [begins_one_mul_cons] at hu ⊢
    exact ⟨hu.1, ih hu.2⟩
  | mask hsome h ih =>
    rw [begins_star_mul] at hu ⊢
    refine hu.imp (fun hu => hL _ _ (.mask hsome h) hu) fun hu => ?_
    simp [mask, hr] at hu

lemma unforgeable_run_mul (hr : r 42 = false) (hL : Unforgeable p L) :
    Unforgeable p (run r * L) := by
  rw [run, mul_assoc]
  exact unforgeable_one_mul hr (unforgeable_star_mul hr hL)

lemma unforgeable_run (hr : r 42 = false) : Unforgeable p (run r) :=
  unforgeable_one_mul hr (unforgeable_star p r)

lemma unforgeable_spelled_mul (hword : ∀ l ∈ word, 47 ≤ l ∧ l ≤ 122) (hL : Unforgeable p L) :
    Unforgeable p (spelled word * L) := by
  induction word with
  | nil => rwa [spelled, one_mul]
  | cons l ls ih =>
    rw [spelled, mul_assoc]
    refine unforgeable_one_mul (folds_asterisk (hword l List.mem_cons_self)) (ih ?_)
    exact fun l hl => hword l (List.mem_cons_of_mem _ hl)

/-- A mask is a value itself, but it stands where there was a value before. -/
lemma unforgeable_value (hp : Avoids isBlank p.language) : Unforgeable p (run (!isBlank ·)) := by
  intro t u h hu
  cases h with
  | nil => exact hu
  | keep hnone h =>
    rw [begins_run_cons] at hu ⊢
    exact hu
  | mask hsome h =>
    cases t with
    | nil => exact absurd (p.after?_nil.symm.trans hsome) nofun
    | cons c t =>
      have hbegins : Begins p.language (c :: t) := Pattern.begins_iff.2 (by simp [hsome])
      rw [begins_run_cons]
      by_contra hblank
      exact hp c t (by simpa using hblank) hbegins

/-- Masking one pattern puts no word of another one in front. -/
lemma unforgeable_language (hp : p.IsPlain) (hq : q.IsPlain) : Unforgeable p q.language := by
  cases q with
  | labelled word =>
    have hblank : isBlank 42 = false := by decide
    have hvalue := unforgeable_star_mul hblank (unforgeable_value hp.avoids_blank)
    have hseparator : isSeparator 42 = false := by decide
    have hsign := unforgeable_star_mul hblank (unforgeable_one_mul hseparator hvalue)
    exact unforgeable_spelled_mul hq.letters hsign
  | home => exact unforgeable_spelled_mul (by decide) (unforgeable_run (by decide))
  | address =>
    have hdigit : isDigit 42 = false := by decide
    have hpoint (L : Language Nat) (hL : Unforgeable p L) :
        Unforgeable p (run isDigit * (one (· = 46) * L)) :=
      unforgeable_run_mul hdigit (unforgeable_one_mul (by decide) hL)
    exact hpoint _ (hpoint _ (hpoint _ (unforgeable_run hdigit)))

/-! ### Nothing new anywhere -/

/-- What stands behind a kept code point of a masked text is a masked text. -/
lemma Masked.suffix (h : Masked p t u) (hv : c :: v <:+ u) (hc : c ≠ 42) :
    ∃ w, w <:+ t ∧ Masked p w (c :: v) := by
  induction h with
  | nil => exact absurd (List.suffix_nil.1 hv) (List.cons_ne_nil c v)
  | keep hnone h ih =>
    rcases List.suffix_cons_iff.1 hv with heq | hv
    · rw [heq]
      exact ⟨_, List.suffix_rfl, .keep hnone h⟩
    · obtain ⟨w, hw, hmasked⟩ := ih hv
      exact ⟨w, hw.trans (List.suffix_cons _ _), hmasked⟩
  | mask hsome h ih =>
    simp only [Redaction.mask, List.cons_append, List.nil_append, List.suffix_cons_iff,
      List.cons.injEq, hc, false_and, false_or] at hv
    obtain ⟨w, hw, hmasked⟩ := ih hv
    obtain ⟨m, -, rfl⟩ := Pattern.leaves_of_after? hsome
    exact ⟨w, hw.trans (List.suffix_append _ _), hmasked⟩

/-- What a pattern matches in a masked text is matched in the text itself, at a place that was left
as it was. -/
lemma Masked.exists_begins (h : Masked p t u) (hp : p.IsPlain) (hq : q.IsPlain)
    (hoccurs : q.Occurs u) :
    ∃ w, w <:+ t ∧ p.after? w = none ∧ Begins q.language w := by
  obtain ⟨v, hv, hbegins⟩ := Pattern.occurs_iff.1 hoccurs
  cases v with
  | nil =>
    rw [Pattern.begins_iff, Pattern.after?_nil] at hbegins
    exact absurd hbegins Bool.false_ne_true
  | cons c v =>
    have hc : c ≠ 42 := fun heq => hq.avoids_asterisk c v (decide_eq_true heq) hbegins
    obtain ⟨w, hw, hmasked⟩ := h.suffix hv hc
    have hfront := unforgeable_language hp hq w (c :: v) hmasked hbegins
    generalize hcv : c :: v = masked at hmasked
    cases hmasked with
    | nil => exact absurd hcv (List.cons_ne_nil c v)
    | keep hnone _ => exact ⟨_, hw, hnone, hfront⟩
    | mask _ _ => exact absurd (List.cons.inj hcv).1 hc

namespace Pattern

/-- Masking one pattern makes no occurrence of another one. -/
lemma Occurs.of_maskAll (hp : p.IsPlain) (hq : q.IsPlain) (h : q.Occurs (p.maskAll t)) :
    q.Occurs t := by
  obtain ⟨w, hw, -, hbegins⟩ := (masked_maskAll p t).exists_begins hp hq h
  exact occurs_iff.2 ⟨w, hw, hbegins⟩

/-- Masking a pattern leaves no occurrence of it. -/
lemma not_occurs_maskAll (hp : p.IsPlain) (t : Text) : ¬ p.Occurs (p.maskAll t) := by
  intro h
  obtain ⟨w, -, hnone, hbegins⟩ := (masked_maskAll p t).exists_begins hp hp h
  rw [begins_iff, hnone] at hbegins
  exact Bool.false_ne_true hbegins

/-- A text without an occurrence is not changed. -/
lemma maskAll_eq_self (h : ¬ p.Occurs t) : p.maskAll t = t := by
  have hmasked := masked_maskAll p t
  generalize p.maskAll t = u at hmasked
  induction hmasked with
  | nil => rfl
  | @keep c t u hnone _ ih =>
    rw [ih]
    rintro ⟨m, hm, hinfix⟩
    exact h ⟨m, hm, hinfix.trans (List.suffix_cons c t).isInfix⟩
  | mask hsome _ _ =>
    obtain ⟨m, hm, rfl⟩ := leaves_of_after? hsome
    exact absurd ⟨m, hm, (List.prefix_append m _).isInfix⟩ h

end Pattern

/-! ### Pattern after pattern -/

section

variable {ps : List Pattern}

lemma Pattern.Occurs.of_foldl (hps : ∀ p ∈ ps, p.IsPlain) (hq : q.IsPlain)
    (h : q.Occurs (ps.foldl (fun t p => p.maskAll t) t)) : q.Occurs t := by
  induction ps generalizing t with
  | nil => exact h
  | cons p ps ih =>
    have hp := hps p List.mem_cons_self
    exact .of_maskAll hp hq (ih (fun p' hp' => hps p' (List.mem_cons_of_mem _ hp')) h)

lemma Pattern.not_occurs_foldl (hps : ∀ p ∈ ps, p.IsPlain) (hq : q ∈ ps) :
    ¬ q.Occurs (ps.foldl (fun t p => p.maskAll t) t) := by
  induction ps generalizing t with
  | nil => exact absurd hq List.not_mem_nil
  | cons p ps ih =>
    have hrest : ∀ p' ∈ ps, p'.IsPlain := fun p' hp' => hps p' (List.mem_cons_of_mem _ hp')
    rcases List.mem_cons.1 hq with rfl | hq
    · intro h
      have hq := hps q List.mem_cons_self
      exact not_occurs_maskAll hq t (.of_foldl hrest hq h)
    · exact ih hrest hq

lemma foldl_maskAll_eq_self (h : ∀ p ∈ ps, ¬ p.Occurs t) :
    ps.foldl (fun t p => p.maskAll t) t = t := by
  induction ps with
  | nil => rfl
  | cons p ps ih =>
    rw [List.foldl_cons, Pattern.maskAll_eq_self (h p List.mem_cons_self)]
    exact ih fun p' hp' => h p' (List.mem_cons_of_mem _ hp')

end

/-- A redacted text holds nothing that the patterns look for. -/
theorem not_occurs_redact (t : Text) : ∀ p ∈ patterns, ¬ p.Occurs (redact t) :=
  fun _ hp => Pattern.not_occurs_foldl patterns_isPlain hp

/-- Redacting changes just the texts that hold something of what the patterns look for. -/
theorem redact_eq_self_iff (t : Text) : redact t = t ↔ ∀ p ∈ patterns, ¬ p.Occurs t := by
  constructor
  · intro h p hp hoccurs
    rw [← h] at hoccurs
    exact not_occurs_redact t p hp hoccurs
  · exact foldl_maskAll_eq_self

/-- Redacting twice is redacting once. -/
lemma redact_redact (t : Text) : redact (redact t) = redact t :=
  (redact_eq_self_iff _).2 (not_occurs_redact t)

example : redact "Password = hunter2 in /home/ann/" = "*** in ***/" := by decide +kernel

end CertRegistry.Redaction
