import CertRegistry.Proofs.Redaction.Masking
import Mathlib.Data.List.Forall2
import Mathlib.Data.List.Infix
import Mathlib.Data.List.TakeWhile

/-!
# Coming to a label

Three words label a secret. No part of one of them, behind its first letter, is another one, and no
blank or sign of a separation is a letter. So what a pattern finds in front of a label does not
depend on what follows the label: masking the pattern comes to the label, or it takes the label
whole, as a part of the value of an earlier one, and with it what follows up to a blank.
-/

namespace CertRegistry.Redaction

open Text
open scoped Computability

variable {p : Pattern} {c l e : Nat} {t u r q word label : Text}

/-! ### Masking from place to place -/

lemma Masked.unique (h : Masked p t u) (h' : Masked p t r) : u = r := by
  induction h generalizing r with
  | nil =>
    cases h' with
    | nil => rfl
    | mask hsome _ => exact absurd (p.after?_nil.symm.trans hsome) nofun
  | keep hnone _ ih =>
    cases h' with
    | keep _ h' => rw [ih h']
    | mask hsome _ => exact absurd (hnone.symm.trans hsome) nofun
  | mask hsome _ ih =>
    cases h' with
    | nil => exact absurd (p.after?_nil.symm.trans hsome) nofun
    | keep hnone _ => exact absurd (hnone.symm.trans hsome) nofun
    | mask hsome' h' =>
      obtain rfl := Option.some.inj (hsome.symm.trans hsome')
      rw [ih h']

namespace Pattern

@[simp] lemma maskAll_nil (p : Pattern) : p.maskAll [] = [] := rfl

lemma maskAll_of_none (h : p.after? (c :: t) = none) : p.maskAll (c :: t) = c :: p.maskAll t :=
  (masked_maskAll p (c :: t)).unique (.keep h (masked_maskAll p t))

lemma maskAll_of_some (h : p.after? t = some r) : p.maskAll t = mask ++ p.maskAll r :=
  (masked_maskAll p t).unique (.mask h (masked_maskAll p r))

/-- A text in front stays as it is if the pattern matches from no place in it on. -/
lemma maskAll_append (h : ∀ s, s <:+ t → s ≠ [] → p.after? (s ++ q) = none) :
    p.maskAll (t ++ q) = t ++ p.maskAll q := by
  induction t with
  | nil => rfl
  | cons c t ih =>
    have hnone : p.after? (c :: (t ++ q)) = none := h _ List.suffix_rfl (List.cons_ne_nil c t)
    have hrest := ih fun s hs => h s (hs.trans (List.suffix_cons c t))
    rw [List.cons_append, maskAll_of_none hnone, hrest]
    rfl

end Pattern

/-! ### Words in letters of either case -/

/-- The words that label a secret. -/
def labels : List Text := ["password", "secret", "token"]

lemma labels_letters : ∀ word ∈ labels, ∀ l ∈ word, 97 ≤ l ∧ l ≤ 122 := by decide +kernel

lemma isPlain_of_mem_labels (hword : word ∈ labels) : (Pattern.labelled word).IsPlain := by
  have hne : ∀ word ∈ labels, word ≠ [] := by decide +kernel
  exact ⟨hne word hword, labels_letters word hword⟩

lemma mem_spelled_iff {t : Text} :
    t ∈ spelled word ↔ List.Forall₂ (fun l c => folds l c) word t := by
  induction word generalizing t with
  | nil =>
    rw [List.forall₂_nil_left_iff]
    rfl
  | cons l ls ih =>
    rw [spelled, Language.mem_mul, List.forall₂_cons_left_iff]
    constructor
    · rintro ⟨_, ⟨c, hc, rfl⟩, r, hr, rfl⟩
      exact ⟨c, r, hc, ih.1 hr, rfl⟩
    · rintro ⟨c, r, hc, hr, rfl⟩
      exact ⟨[c], ⟨c, hc, rfl⟩, r, ih.2 hr, rfl⟩

/-- A code point counts as one small letter at most. -/
lemma folds_inj {l' : Nat} (hl : 97 ≤ l ∧ l ≤ 122) (hl' : 97 ≤ l' ∧ l' ≤ 122) (h : folds l c)
    (h' : folds l' c) : l = l' := by
  simp only [folds, Bool.or_eq_true, Bool.and_eq_true, decide_eq_true_eq] at h h'
  unfold asciiLower at h h'
  split_ifs at h h' <;> omega

lemma spelled_inj {x y : Text} (hx : ∀ l ∈ x, 97 ≤ l ∧ l ≤ 122) (hy : ∀ l ∈ y, 97 ≤ l ∧ l ≤ 122)
    (h : t ∈ spelled x) (h' : t ∈ spelled y) : x = y := by
  rw [mem_spelled_iff] at h h'
  induction h generalizing y with
  | nil => exact (List.forall₂_nil_right_iff.1 h').symm
  | cons hc _ ih =>
    obtain ⟨l', ls', hc', hls, rfl⟩ := List.forall₂_cons_right_iff.1 h'
    rw [folds_inj (hx _ List.mem_cons_self) (hy _ List.mem_cons_self) hc hc',
      ih (fun l hl => hx l (List.mem_cons_of_mem _ hl))
        (fun l hl => hy l (List.mem_cons_of_mem _ hl)) hls]

/-- What is spelled in a part of the letters of a word is a part of the word. -/
lemma exists_spelled_of_append {x a b d : Text} (h : a ++ (b ++ d) ∈ spelled x) :
    ∃ x₁ x₂ x₃, x = x₁ ++ (x₂ ++ x₃) ∧ x₁.length = a.length ∧ b ∈ spelled x₂ := by
  rw [mem_spelled_iff] at h
  have hlength := h.length_eq
  refine ⟨x.take a.length, (x.drop a.length).take b.length, (x.drop a.length).drop b.length, ?_, ?_,
    ?_⟩
  · rw [List.take_append_drop, List.take_append_drop]
  · rw [List.length_take, hlength, List.length_append, min_eq_left (Nat.le_add_right _ _)]
  · rw [mem_spelled_iff]
    exact List.forall₂_take_append _ _ _ (List.forall₂_drop_append _ _ _ h)

/-- A label is no part of what is left of another one behind its first letter. -/
lemma not_spelled_behind {x x₁ x₂ : Text} (hx : x ∈ labels) (hword : word ∈ labels)
    (hlabel : label ∈ spelled word) (heq : x = x₁ ++ x₂) (f : Text) :
    c :: (f ++ label) ∉ spelled x₁ := by
  have hpart : ∀ x ∈ labels, ∀ word ∈ labels, ¬ word <:+: x.tail := by decide +kernel
  intro h
  obtain ⟨y₁, y₂, y₃, hy, hlength, hspelled⟩ :=
    exists_spelled_of_append (a := c :: f) (b := label) (d := []) (by simpa using h)
  have hletters := labels_letters x hx
  obtain rfl : word = y₂ := by
    refine spelled_inj (labels_letters word hword) (fun l hl => hletters l ?_) hlabel hspelled
    simp [heq, hy, hl]
  apply hpart x hx word hword
  cases y₁ with
  | nil => exact absurd hlength.symm (Nat.succ_ne_zero _)
  | cons l y₁ =>
    rw [heq, hy]
    exact ⟨y₁, y₃ ++ x₂, by simp⟩

/-! ### The scanner of a word -/

lemma afterWord?_append (h : t ∈ spelled word) (r : Text) : afterWord? word (t ++ r) = some r := by
  rw [mem_spelled_iff] at h
  induction h with
  | nil => rfl
  | cons hc _ ih => simp [afterWord?, hc, ih]

/-- Where a word is not in front, no text that follows matters, unless a part of the word is all
that there is. -/
lemma afterWord?_append_cases (h : afterWord? word t = none) :
    (∀ r, afterWord? word (t ++ r) = none) ∨
      ∃ word₁ word₂, word = word₁ ++ word₂ ∧ t ∈ spelled word₁ := by
  induction word generalizing t with
  | nil => exact absurd h nofun
  | cons l ls ih =>
    cases t with
    | nil => exact Or.inr ⟨[], l :: ls, rfl, rfl⟩
    | cons c t =>
      by_cases hc : folds l c
      · simp only [afterWord?, hc, if_true] at h
        rcases ih h with hnone | ⟨word₁, word₂, rfl, hspelled⟩
        · exact Or.inl fun r => by simp [afterWord?, hc, hnone]
        · refine Or.inr ⟨l :: word₁, word₂, rfl, ?_⟩
          rw [mem_spelled_iff] at hspelled ⊢
          exact .cons hc hspelled
      · exact Or.inl fun r => by simp [afterWord?, hc]

/-! ### The scanner of a value -/

/-- The rest of a text after a separator and a value in front, as behind the word of a label. -/
def afterValue? (t : Text) : Option Text := do
  let t ← afterSign? isSeparator (t.dropWhile isBlank)
  afterRun? (!isBlank ·) (t.dropWhile isBlank)

lemma after?_labelled (word t : Text) :
    (Pattern.labelled word).after? t = (afterWord? word t).bind afterValue? := rfl

lemma dropWhile_append_cons {f : Nat → Bool} (he : f e = false) (k r : Text) :
    (k ++ e :: r).dropWhile f = k.dropWhile f ++ e :: r := by
  rw [List.dropWhile_append, List.dropWhile_cons_of_neg (by simp [he])]
  split_ifs with h
  · rw [List.isEmpty_iff.1 h, List.nil_append]
  · rfl

lemma eq_false_of_dropWhile_eq_cons {f : Nat → Bool} (h : t.dropWhile f = c :: r) :
    f c = false := by
  have hne : t.dropWhile f ≠ [] := by simp [h]
  simpa [h] using List.head_dropWhile_not f hne

/-- What follows a letter does not matter to the scanner of a value, except that a value which goes
on over the letter ends in what follows. -/
lemma afterValue?_append_cases (hblank : isBlank e = false) (hsign : isSeparator e = false)
    (k : Text) :
    (∀ r, afterValue? (k ++ e :: r) = none) ∨
    (∃ b k', isBlank b ∧ b :: k' <:+ k ∧
      ∀ r, afterValue? (k ++ e :: r) = some (b :: k' ++ e :: r)) ∨
    ∀ r, afterValue? (k ++ e :: r) = some (r.dropWhile (!isBlank ·)) := by
  simp only [afterValue?, dropWhile_append_cons hblank, Option.bind_eq_bind]
  cases hk : k.dropWhile isBlank with
  | nil => exact Or.inl fun r => by simp [afterSign?, hsign]
  | cons s k₁ =>
    by_cases hs : isSeparator s
    · refine Or.inr ?_
      simp only [afterSign?, List.cons_append, hs, if_true, Option.bind_some,
        dropWhile_append_cons hblank]
      cases hk₁ : k₁.dropWhile isBlank with
      | nil => exact Or.inr fun r => by simp [afterRun?, hblank]
      | cons d k₂ =>
        have hd := eq_false_of_dropWhile_eq_cons hk₁
        simp only [afterRun?, List.cons_append, hd, Bool.not_false, if_true, List.dropWhile_append]
        cases hk₂ : k₂.dropWhile (!isBlank ·) with
        | nil => exact Or.inr fun r => by simp [hblank]
        | cons b k₃ =>
          refine Or.inl ⟨b, k₃, by simpa using eq_false_of_dropWhile_eq_cons hk₂, ?_, fun r => rfl⟩
          calc b :: k₃
            _ <:+ k₂ := hk₂ ▸ List.dropWhile_suffix _
            _ <:+ d :: k₂ := List.suffix_cons d k₂
            _ <:+ k₁ := hk₁ ▸ List.dropWhile_suffix _
            _ <:+ s :: k₁ := List.suffix_cons s k₁
            _ <:+ k := hk ▸ List.dropWhile_suffix _
    · exact Or.inl fun r => by simp [afterSign?, hs]

/-! ### Coming to a label -/

lemma exists_folds_of_mem (h : t ∈ spelled word) : ∀ c ∈ t, ∃ l ∈ word, folds l c := by
  rw [mem_spelled_iff] at h
  induction h with
  | nil => exact nofun
  | cons hc _ ih =>
    rw [List.forall_mem_cons]
    refine ⟨⟨_, List.mem_cons_self, hc⟩, fun c hmem => ?_⟩
    obtain ⟨l, hl, hfolds⟩ := ih c hmem
    exact ⟨l, List.mem_cons_of_mem _ hl, hfolds⟩

lemma isSeparator_eq_false_of_folds (hl : 97 ≤ l ∧ l ≤ 122) (h : folds l c) :
    isSeparator c = false := by
  by_contra hc
  simp only [isSeparator, Bool.or_eq_false_iff, decide_eq_false_iff_not, not_and_or, not_not] at hc
  rcases cases_of_folds h with h | h | h | h <;> omega

section

variable {x : Text} (hx : x ∈ labels) (hword : word ∈ labels) (hlabel : label ∈ spelled word)

include hword hlabel

lemma isBlank_eq_false_of_mem_label : ∀ e ∈ label, isBlank e = false := by
  intro e he
  obtain ⟨l, hl, hfolds⟩ := exists_folds_of_mem hlabel e he
  exact isBlank_eq_false_of_folds ((isPlain_of_mem_labels hword).letters l hl) hfolds

lemma isSeparator_eq_false_of_mem_label : ∀ e ∈ label, isSeparator e = false := by
  intro e he
  obtain ⟨l, hl, hfolds⟩ := exists_folds_of_mem hlabel e he
  exact isSeparator_eq_false_of_folds (labels_letters word hword l hl) hfolds

lemma label_ne_nil : label ≠ [] := by
  rintro rfl
  rw [mem_spelled_iff, List.forall₂_nil_right_iff] at hlabel
  exact (isPlain_of_mem_labels hword).1 hlabel

/-- What is left of a text with a label at its end, from a blank on, holds all of the label. -/
lemma exists_append_label {b : Nat} {k front : Text} (hb : isBlank b)
    (h : b :: k <:+ front ++ label) : ∃ f, f ++ label = b :: k := by
  rcases List.suffix_or_suffix_of_suffix (List.suffix_append front label) h with hwhole | hinside
  · exact hwhole
  · have hmem : b ∈ label := hinside.subset List.mem_cons_self
    simp [isBlank_eq_false_of_mem_label hword hlabel b hmem] at hb

include hx

/-- What follows a label does not matter to the scanner of a label before it, except that a value
which goes on over the label ends in what follows. -/
lemma after?_before_label (c : Nat) (f : Text) :
    (∀ r, (Pattern.labelled x).after? (c :: (f ++ (label ++ r))) = none) ∨
    (∃ f', f'.length ≤ f.length ∧
      ∀ r, (Pattern.labelled x).after? (c :: (f ++ (label ++ r))) = some (f' ++ (label ++ r))) ∨
    ∀ r, (Pattern.labelled x).after? (c :: (f ++ (label ++ r))) =
      some (r.dropWhile (!isBlank ·)) := by
  have happend (r : Text) : c :: (f ++ (label ++ r)) = c :: (f ++ label) ++ r := by simp
  simp only [after?_labelled, happend]
  cases hscan : afterWord? x (c :: (f ++ label)) with
  | none =>
    rcases afterWord?_append_cases hscan with hnone | ⟨x₁, x₂, heq, hspelled⟩
    · exact Or.inl fun r => by rw [hnone r, Option.bind_none]
    · exact absurd hspelled (not_spelled_behind hx hword hlabel heq f)
  | some k =>
    obtain ⟨m, hm, heq⟩ := leaves_of_afterWord? hscan
    have hsome (r : Text) : afterWord? x (c :: (f ++ label) ++ r) = some (k ++ r) := by
      rw [heq, List.append_assoc, afterWord?_append hm]
    simp only [hsome, Option.bind_some]
    obtain ⟨l, e, rfl⟩ := (List.eq_nil_or_concat' label).resolve_left (label_ne_nil hword hlabel)
    rcases List.eq_nil_or_concat' k with rfl | ⟨k, e', rfl⟩
    · rw [List.append_nil] at heq
      exact absurd (heq ▸ hm) (not_spelled_behind hx hword hlabel (List.append_nil x).symm f)
    -- what is left behind the word goes on up to the last letter of the label
    have hends : c :: (f ++ l) ++ [e] = m ++ k ++ [e'] := by simpa using heq
    obtain ⟨hfront, hlast⟩ := List.append_inj' hends rfl
    obtain rfl : e = e' := by simpa using hlast
    have hmem : e ∈ l ++ [e] := List.mem_append_right l List.mem_cons_self
    have hblank := isBlank_eq_false_of_mem_label hword hlabel e hmem
    have hsign := isSeparator_eq_false_of_mem_label hword hlabel e hmem
    simp only [List.append_assoc, List.singleton_append]
    rcases afterValue?_append_cases hblank hsign k with hnone | ⟨b, k', hb, hk', hk⟩ | htakes
    · exact Or.inl hnone
    · have hleft : b :: (k' ++ [e]) <:+ c :: f ++ (l ++ [e]) := by
        have hkept : b :: k' ++ [e] <:+ k ++ [e] :=
          (List.suffix_append_inj_of_length_eq rfl).2 ⟨hk', rfl⟩
        exact hkept.trans ⟨m, by simpa using heq.symm⟩
      obtain ⟨f', hf'⟩ := exists_append_label hword hlabel hb hleft
      have hf : f' ++ l = b :: k' := List.append_cancel_right ((List.append_assoc _ _ _).trans hf')
      refine Or.inr (Or.inl ⟨f', ?_, fun r => ?_⟩)
      · have hpos := List.length_pos_of_ne_nil (label_ne_nil hx hm)
        have hle := hk'.length_le
        have hlength := congrArg List.length hfront
        have hlength' := congrArg List.length hf
        simp only [List.length_append, List.length_cons] at hlength hlength' hle
        omega
      · rw [hk r, ← hf, List.append_assoc]
    · exact Or.inr (Or.inr htakes)

end

namespace Pattern

/-- Masking a pattern comes to a label behind a text, and leaves something of that text. -/
def Keeps (p : Pattern) (front label left : Text) : Prop :=
  ∀ r, p.maskAll (front ++ (label ++ r)) = left ++ p.maskAll (label ++ r)

/-- Masking a pattern takes a label as part of a value, which ends in what follows. -/
def Takes (p : Pattern) (front label left : Text) : Prop :=
  ∀ r, p.maskAll (front ++ (label ++ r)) = left ++ (mask ++ p.maskAll (r.dropWhile (!isBlank ·)))

end Pattern

/-- Whether a label is taken does not depend on what follows. -/
lemma keeps_or_takes {x : Text} (hx : x ∈ labels) (hword : word ∈ labels)
    (hlabel : label ∈ spelled word) (front : Text) :
    ∃ left, (Pattern.labelled x).Keeps front label left ∨
      (Pattern.labelled x).Takes front label left := by
  induction hn : front.length using Nat.strong_induction_on generalizing front with
  | h n ih =>
    cases front with
    | nil => exact ⟨[], Or.inl fun r => rfl⟩
    | cons c f =>
      rw [List.length_cons] at hn
      rcases after?_before_label hx hword hlabel c f with hnone | ⟨f', hlength, hsome⟩ | htakes
      · obtain ⟨left, h⟩ := ih f.length (by omega) f rfl
        refine ⟨c :: left, h.imp (fun h r => ?_) fun h r => ?_⟩
        · rw [List.cons_append, Pattern.maskAll_of_none (hnone r), h r, List.cons_append]
        · rw [List.cons_append, Pattern.maskAll_of_none (hnone r), h r, List.cons_append]
      · obtain ⟨left, h⟩ := ih f'.length (by omega) f' rfl
        refine ⟨mask ++ left, h.imp (fun h r => ?_) fun h r => ?_⟩
        · rw [List.cons_append, Pattern.maskAll_of_some (hsome r), h r, List.append_assoc]
        · rw [List.cons_append, Pattern.maskAll_of_some (hsome r), h r, List.append_assoc]
      · exact ⟨[], Or.inr fun r => Pattern.maskAll_of_some (htakes r)⟩

end CertRegistry.Redaction
