import CertRegistry.Proofs.Redaction.Label

/-!
# Labelled secrets

A secret is a value behind a label and a separation. While its label is there, the pattern of
another label passes over the secret, and its own pattern takes all of it. But the label may be
taken as a part of the value of an earlier one. Then a separation without blanks is taken with it,
and the secret too. In one with a blank the value of the earlier label ends, and no pattern finds
anything in the rest of it: the secret shows.
-/

namespace CertRegistry.Redaction

open Text
open scoped Computability

variable {p : Pattern} {c l : Nat} {t u q word label : Text}

/-! ### Secrets -/

/-- A colon or an equals sign, with blanks around it. -/
def IsSeparation (t : Text) : Prop :=
  ∃ before sign after, (∀ c ∈ before, isBlank c) ∧ isSeparator sign ∧ (∀ c ∈ after, isBlank c) ∧
    t = before ++ sign :: after

/-- A value: there is no blank in it, and no label either. -/
structure IsValue (t : Text) : Prop where
  ne_nil : t ≠ []
  unbroken : ∀ c ∈ t, isBlank c = false
  unlabelled : ∀ word ∈ labels, ∀ u ∈ spelled word, ¬ u <:+: t

/-- What may follow a value: nothing, or a text with a blank in front. -/
def IsTail (t : Text) : Prop := ∀ c ∈ t.head?, isBlank c

/-- A code point that a separation may be made of. -/
def isGap (c : Nat) : Bool := isBlank c || isSeparator c

lemma folds_eq_false_of_isGap (hl : 97 ≤ l ∧ l ≤ 122) (hc : isGap c) : folds l c = false := by
  by_contra h
  rw [Bool.not_eq_false] at h
  have hblank : isBlank c = false := isBlank_eq_false_of_folds ⟨by omega, hl.2⟩ h
  simp [isGap, hblank, isSeparator_eq_false_of_folds hl h] at hc

/-- No pattern matches from a gap on. -/
lemma after?_eq_none_of_isGap (hp : p.IsPlain) (hc : isGap c) (t : Text) :
    p.after? (c :: t) = none := by
  cases p with
  | labelled word =>
    obtain ⟨l, ls, rfl⟩ := List.exists_cons_of_ne_nil hp.1
    simp [after?_labelled, afterWord?, folds_eq_false_of_isGap (hp.2 l List.mem_cons_self) hc]
  | home | address =>
    rcases Bool.or_eq_true_iff.1 hc with hblank | hsign
    · have hbegins := hp.avoids_blank c t hblank
      rwa [Pattern.begins_iff, Option.not_isSome_iff_eq_none] at hbegins
    · have hsigns : c = 58 ∨ c = 61 := by simpa [isSeparator] using hsign
      rcases hsigns with rfl | rfl <;> rfl

lemma isTail_maskAll (hp : p.IsPlain) (ht : IsTail t) : IsTail (p.maskAll t) := by
  cases t with
  | nil => exact ht
  | cons c t =>
    have hc : isGap c := by simp [isGap, ht c rfl]
    rwa [Pattern.maskAll_of_none (after?_eq_none_of_isGap hp hc t)]

/-- A value ends where its tail begins. -/
lemma IsTail.dropWhile_append (hq : IsTail q) (ht : ∀ c ∈ t, isBlank c = false) :
    (t ++ q).dropWhile (!isBlank ·) = q := by
  rw [List.dropWhile_append_of_pos (by simpa using ht)]
  cases q with
  | nil => rfl
  | cons c q => simp [hq c rfl]

/-- A word does not go on over a gap. -/
lemma afterWord?_append_eq_none (hword : ∀ l ∈ word, 97 ≤ l ∧ l ≤ 122)
    (h : afterWord? word t = none) (hq : ∀ c ∈ q.head?, isGap c) :
    afterWord? word (t ++ q) = none := by
  induction word generalizing t with
  | nil => exact absurd h nofun
  | cons l ls ih =>
    rw [List.forall_mem_cons] at hword
    cases t with
    | nil =>
      cases q with
      | nil => rfl
      | cons c q => simp [afterWord?, folds_eq_false_of_isGap hword.1 (hq c rfl)]
    | cons c t =>
      rw [List.cons_append, afterWord?]
      split_ifs with hc
      · exact ih hword.2 (by simpa [afterWord?, hc] using h)
      · rfl

/-- Where no word of a label is spelled, its pattern leaves a text as it is up to a gap. -/
lemma maskAll_append_of_unspelled (hword : word ∈ labels) (h : ∀ u ∈ spelled word, ¬ u <:+: t)
    (hq : ∀ c ∈ q.head?, isGap c) :
    (Pattern.labelled word).maskAll (t ++ q) = t ++ (Pattern.labelled word).maskAll q := by
  apply Pattern.maskAll_append
  intro s hs _
  have hnone : afterWord? word s = none := by
    by_contra hscan
    obtain ⟨rest, hrest⟩ := Option.ne_none_iff_exists'.1 hscan
    obtain ⟨u, hu, rfl⟩ := leaves_of_afterWord? hrest
    exact h u hu ((List.prefix_append u rest).isInfix.trans hs.isInfix)
  rw [after?_labelled, afterWord?_append_eq_none (labels_letters word hword) hnone hq]
  rfl

lemma maskAll_gap_append (hp : p.IsPlain) (h : ∀ c ∈ t, isGap c) (q : Text) :
    p.maskAll (t ++ q) = t ++ p.maskAll q := by
  apply Pattern.maskAll_append
  intro s hs hne
  obtain ⟨c, s, rfl⟩ := List.exists_cons_of_ne_nil hne
  exact after?_eq_none_of_isGap hp (h c (hs.subset List.mem_cons_self)) _

lemma IsSeparation.forall_isGap {sep : Text} (hsep : IsSeparation sep) : ∀ c ∈ sep, isGap c := by
  obtain ⟨before, sign, after, hbefore, hsign, hafter, rfl⟩ := hsep
  simp only [List.mem_append, List.mem_cons]
  rintro c (hc | rfl | hc)
  · simp [isGap, hbefore c hc]
  · simp [isGap, hsign]
  · simp [isGap, hafter c hc]

lemma IsSeparation.head?_isGap {sep : Text} (hsep : IsSeparation sep) (t : Text) :
    ∀ c ∈ (sep ++ t).head?, isGap c := by
  have hgap := hsep.forall_isGap
  obtain ⟨before, sign, after, -, -, -, rfl⟩ := hsep
  intro c hc
  apply hgap
  cases before with
  | nil => simpa using Or.inl (Option.mem_some.1 hc).symm
  | cons b before => simpa using Or.inl (Option.mem_some.1 hc).symm

lemma afterValue?_secret {sep v rest : Text} (hsep : IsSeparation sep) (hv : IsValue v)
    (hrest : IsTail rest) : afterValue? (sep ++ (v ++ rest)) = some rest := by
  obtain ⟨before, sign, after, hbefore, hsign, hafter, rfl⟩ := hsep
  obtain ⟨d, v, rfl⟩ := List.exists_cons_of_ne_nil hv.ne_nil
  obtain ⟨hd, hv⟩ := List.forall_mem_cons.1 hv.unbroken
  have hbefore := List.dropWhile_eq_nil_iff.2 hbefore
  have hafter := List.dropWhile_eq_nil_iff.2 hafter
  simp only [afterValue?, List.append_assoc, List.cons_append,
    dropWhile_append_cons (isBlank_eq_false_of_isSeparator hsign), hbefore, List.nil_append,
    afterSign?, hsign, if_true, Option.bind_eq_bind, Option.bind_some, dropWhile_append_cons hd,
    hafter, afterRun?, hd, Bool.not_false, hrest.dropWhile_append hv]

section

variable {sep v rest : Text} (hlabel : label ∈ spelled word) (hsep : IsSeparation sep)
  (hv : IsValue v) (hrest : IsTail rest)

include hlabel hsep hv hrest

/-- The pattern of a label takes the secret behind it. -/
lemma maskAll_secret :
    (Pattern.labelled word).maskAll (label ++ (sep ++ (v ++ rest))) =
      mask ++ (Pattern.labelled word).maskAll rest := by
  apply Pattern.maskAll_of_some
  rw [after?_labelled, afterWord?_append hlabel]
  exact afterValue?_secret hsep hv hrest

/-- The pattern of another label leaves a secret as it is. -/
lemma maskAll_secret_of_ne {x : Text} (hx : x ∈ labels) (hword : word ∈ labels) (hne : x ≠ word) :
    (Pattern.labelled x).maskAll (label ++ (sep ++ (v ++ rest))) =
      label ++ (sep ++ (v ++ (Pattern.labelled x).maskAll rest)) := by
  have hpart : ∀ x ∈ labels, ∀ word ∈ labels, x <:+: word → x = word := by decide +kernel
  have hunspelled : ∀ u ∈ spelled x, ¬ u <:+: label := by
    rintro u hu ⟨a, d, rfl⟩
    rw [List.append_assoc] at hlabel
    obtain ⟨y₁, y₂, y₃, heq, -, hspelled⟩ := exists_spelled_of_append hlabel
    have hy : ∀ l ∈ y₂, 97 ≤ l ∧ l ≤ 122 := fun l hl =>
      labels_letters word hword l (by simp [heq, hl])
    obtain rfl : x = y₂ := spelled_inj (labels_letters x hx) hy hu hspelled
    exact hne (hpart x hx word hword ⟨y₁, y₃, by rw [heq, List.append_assoc]⟩)
  have htail : ∀ c ∈ rest.head?, isGap c := fun c hc => by simp [isGap, hrest c hc]
  rw [maskAll_append_of_unspelled hx hunspelled (hsep.head?_isGap _),
    maskAll_gap_append (isPlain_of_mem_labels hx) hsep.forall_isGap,
    maskAll_append_of_unspelled hx (hv.unlabelled x hx) htail]

end

/-! ### Behind a mask -/

lemma forall_of_mem_star {f : Nat → Bool} (h : t ∈ (one f)∗) : ∀ c ∈ t, f c := by
  obtain ⟨ts, rfl, hts⟩ := Language.mem_kstar.1 h
  intro c hc
  obtain ⟨u, hu, hcu⟩ := List.mem_flatten.1 hc
  obtain ⟨d, hd, rfl⟩ := hts u hu
  rwa [List.mem_singleton.1 hcu]

lemma forall_of_mem_run {f : Nat → Bool} (h : t ∈ Redaction.run f) : ∀ c ∈ t, f c := by
  obtain ⟨_, ⟨c, hc, rfl⟩, u, hu, rfl⟩ := Language.mem_mul.1 h
  exact List.forall_mem_cons.2 ⟨hc, forall_of_mem_star hu⟩

lemma ne_asterisk_of_mem_spelled (hword : ∀ l ∈ word, 47 ≤ l ∧ l ≤ 122) (h : t ∈ spelled word) :
    42 ∉ t := by
  intro hmem
  obtain ⟨l, hl, hfolds⟩ := exists_folds_of_mem h 42 hmem
  exact Bool.false_ne_true ((folds_asterisk (hword l hl)).symm.trans hfolds)

/-- What a pattern matches has its asterisks in a value. -/
lemma Pattern.IsPlain.exists_of_mem_language (hp : p.IsPlain) (ht : t ∈ p.language) :
    ∃ u v, t = u ++ v ∧ 42 ∉ u ∧ ∀ c ∈ v, isBlank c = false := by
  cases p with
  | labelled word =>
    obtain ⟨m, hm, _, ⟨b, hb, _, ⟨_, ⟨s, hs, rfl⟩, _, ⟨b', hb', v, hv, rfl⟩, rfl⟩, rfl⟩, rfl⟩ := ht
    refine ⟨m ++ (b ++ (s :: b')), v, by simp, ?_, by simpa using forall_of_mem_run hv⟩
    have hm := ne_asterisk_of_mem_spelled hp.letters hm
    have hb : 42 ∉ b := fun h => absurd (forall_of_mem_star hb 42 h) (by decide)
    have hb' : 42 ∉ b' := fun h => absurd (forall_of_mem_star hb' 42 h) (by decide)
    have hs : 42 ≠ s := by
      rintro rfl
      exact absurd hs (by decide)
    simp [hm, hb, hs, hb']
  | home =>
    obtain ⟨m, hm, v, hv, rfl⟩ := ht
    refine ⟨m ++ v, [], by simp, ?_, nofun⟩
    have hm := ne_asterisk_of_mem_spelled (by decide) hm
    have hv : 42 ∉ v := fun h => absurd (forall_of_mem_run hv 42 h) (by decide)
    simp [hm, hv]
  | address =>
    obtain ⟨a, ha, _, ⟨_, ⟨s, hs, rfl⟩, _, ⟨b, hb, _, ⟨_, ⟨s', hs', rfl⟩, _, ⟨d, hd, _,
      ⟨_, ⟨s'', hs'', rfl⟩, e, he, rfl⟩, rfl⟩, rfl⟩, rfl⟩, rfl⟩, rfl⟩ := ht
    refine ⟨_, [], (List.append_nil _).symm, ?_, nofun⟩
    have hdigits {r : Text} (hr : r ∈ Redaction.run isDigit) : 42 ∉ r :=
      fun h => absurd (forall_of_mem_run hr 42 h) (by decide)
    simp only [decide_eq_true_eq] at hs hs' hs''
    simp [hdigits ha, hdigits hb, hdigits hd, hdigits he, hs, hs', hs'']

/-- An asterisk that a pattern matches is followed by no blank. -/
lemma Pattern.IsPlain.asterisk_of_mem_language (hp : p.IsPlain) (ht : t ∈ p.language)
    (h : 42 :: u <:+ t) : ∀ c ∈ u, isBlank c = false := by
  obtain ⟨a, v, rfl, ha, hv⟩ := hp.exists_of_mem_language ht
  rcases List.suffix_or_suffix_of_suffix h (List.suffix_append a v) with hinside | hbefore
  · exact fun c hc => hv c (hinside.subset (List.mem_cons_of_mem _ hc))
  rcases List.suffix_cons_iff.1 hbefore with rfl | ⟨d, rfl⟩
  · exact (List.forall_mem_cons.1 hv).2
  · obtain ⟨b, hb⟩ := h
    obtain rfl : b ++ 42 :: d = a := List.append_cancel_right ((List.append_assoc _ _ _).trans hb)
    exact absurd (by simp) ha

/-- What stands behind an asterisk, from a blank on or at the end, stays there. -/
lemma Masked.asterisk_suffix (hp : p.IsPlain) (hq : IsTail q) (hfixed : p.maskAll q = q)
    (h : Masked p t u) (ht : 42 :: q <:+ t) : 42 :: q <:+ u := by
  induction h with
  | nil => exact absurd (List.suffix_nil.1 ht) (List.cons_ne_nil _ _)
  | @keep c t u hnone h ih =>
    rcases List.suffix_cons_iff.1 ht with heq | ht
    · obtain ⟨rfl, rfl⟩ := List.cons.inj heq
      rw [h.unique (masked_maskAll p q), hfixed]
    · exact (ih ht).trans (List.suffix_cons c u)
  | @mask t rest u hsome h ih =>
    obtain ⟨m, hm, rfl⟩ := Pattern.leaves_of_after? hsome
    have hkept (h : 42 :: q <:+ rest) : 42 :: q <:+ Redaction.mask ++ u :=
      (ih h).trans (List.suffix_append _ u)
    rcases List.suffix_or_suffix_of_suffix ht (List.suffix_append m rest) with hinside | hbefore
    · exact hkept hinside
    rcases List.suffix_cons_iff.1 hbefore with rfl | ⟨d, rfl⟩
    · exact hkept List.suffix_rfl
    -- the match ends with the asterisk, since a blank follows it
    have hdm : 42 :: d <:+ m := by
      obtain ⟨a, ha⟩ := ht
      exact ⟨a, List.append_cancel_right ((List.append_assoc _ _ _).trans ha)⟩
    cases d with
    | nil =>
      rw [List.nil_append] at hfixed ⊢
      rw [h.unique (masked_maskAll p rest), hfixed]
      exact ⟨[42, 42], rfl⟩
    | cons b d =>
      have hb := hp.asterisk_of_mem_language hm hdm b List.mem_cons_self
      exact absurd (hq b rfl) (by simp [hb])

/-! ### Pattern after pattern -/

/-- A text with patterns masked one after the other. -/
def maskEach (ps : List Pattern) (t : Text) : Text := ps.foldl (fun t p => p.maskAll t) t

@[simp] lemma maskEach_nil (t : Text) : maskEach [] t = t := rfl

@[simp] lemma maskEach_cons (p : Pattern) (ps : List Pattern) (t : Text) :
    maskEach (p :: ps) t = maskEach ps (p.maskAll t) := rfl

lemma maskEach_append (ps qs : List Pattern) (t : Text) :
    maskEach (ps ++ qs) t = maskEach qs (maskEach ps t) := List.foldl_append

@[simp] lemma maskEach_empty (ps : List Pattern) : maskEach ps [] = [] := by
  induction ps with
  | nil => rfl
  | cons p ps ih => exact ih

lemma asterisk_suffix_maskEach {ps : List Pattern} (hps : ∀ p ∈ ps, p.IsPlain) (hq : IsTail q)
    (hfixed : ∀ p ∈ ps, p.maskAll q = q) (ht : 42 :: q <:+ t) : 42 :: q <:+ maskEach ps t := by
  induction ps generalizing t with
  | nil => exact ht
  | cons p ps ih =>
    rw [List.forall_mem_cons] at hps hfixed
    exact ih hps.2 hfixed.2 ((masked_maskAll p t).asterisk_suffix hps.1 hq hfixed.1 ht)

lemma afterValue?_eq_none (h : ∀ c ∈ t, isSeparator c = false) : afterValue? t = none := by
  cases ht : t.dropWhile isBlank with
  | nil => simp [afterValue?, ht, afterSign?]
  | cons c r =>
    have hsuffix : c :: r <:+ t := ht ▸ List.dropWhile_suffix isBlank
    simp [afterValue?, ht, afterSign?, h c (hsuffix.subset List.mem_cons_self)]

/-- A label alone is no secret. -/
lemma maskAll_label {x : Text} (hword : word ∈ labels) (hlabel : label ∈ spelled word) :
    (Pattern.labelled x).maskAll label = label := by
  suffices hfixed : (Pattern.labelled x).maskAll (label ++ []) = label ++ [] by simpa using hfixed
  apply Pattern.maskAll_append
  intro s hs _
  rw [List.append_nil, after?_labelled]
  cases hscan : afterWord? x s with
  | none => rfl
  | some k =>
    obtain ⟨m, -, rfl⟩ := leaves_of_afterWord? hscan
    refine afterValue?_eq_none fun c hc => isSeparator_eq_false_of_mem_label hword hlabel c ?_
    exact hs.subset (List.mem_append_right m hc)

lemma Pattern.Keeps.maskAll_append {x front left : Text} (h : (labelled x).Keeps front label left)
    (hword : word ∈ labels) (hlabel : label ∈ spelled word) :
    (labelled x).maskAll (front ++ label) = left ++ label := by
  simpa [maskAll_label hword hlabel] using h []

lemma Pattern.Takes.maskAll_append {front left : Text} (h : p.Takes front label left) :
    p.maskAll (front ++ label) = left ++ mask := by
  simpa using h []

/-- The patterns in order up to the one of a word. -/
def upTo (word : Text) : List Pattern := (labels.takeWhile (· ≠ word) ++ [word]).map .labelled

lemma exists_patterns_eq (hword : word ∈ labels) : ∃ ps, patterns = upTo word ++ ps := by
  have hinitial : ∀ word ∈ labels, upTo word <+: patterns := by decide +kernel
  obtain ⟨ps, hps⟩ := hinitial word hword
  exact ⟨ps, hps.symm⟩

/-- A label behind a text is still there when the patterns up to its own have been masked. -/
def Survives (word front label : Text) : Prop := label <:+ maskEach (upTo word) (front ++ label)

instance (word front label : Text) : Decidable (Survives word front label) :=
  inferInstanceAs (Decidable (_ <:+ _))

/-- A label survives behind a text in which nothing is masked. -/
theorem survives_of_redact_eq_self (hword : word ∈ labels) {front : Text}
    (h : redact (front ++ label) = front ++ label) : Survives word front label := by
  obtain ⟨ps, hps⟩ := exists_patterns_eq hword
  rw [redact_eq_self_iff, hps, List.forall_mem_append] at h
  have hkept : maskEach (upTo word) (front ++ label) = front ++ label := foldl_maskAll_eq_self h.1
  rw [Survives, hkept]
  exact List.suffix_append front label

/-- Either the patterns come to a label, and the last one masks the secret behind it, or one of
them takes the label as a part of the value of another one. -/
lemma maskEach_secret_cases {sep : Text} (hword : word ∈ labels) (hlabel : label ∈ spelled word)
    (hsep : IsSeparation sep) {xs : List Text} (hxs : ∀ x ∈ xs, x ∈ labels ∧ x ≠ word)
    (front : Text) :
    let ps := (xs ++ [word]).map Pattern.labelled
    (∃ left, maskEach ps (front ++ label) = left ++ label ∧ ∀ v rest, IsValue v → IsTail rest →
      maskEach ps (front ++ (label ++ (sep ++ (v ++ rest)))) = left ++ (mask ++ maskEach ps rest)) ∨
    ∃ left before p after, ps = before ++ p :: after ∧
      maskEach ps (front ++ label) = maskEach after (left ++ mask) ∧
      ∀ v rest, IsValue v → IsTail rest →
        maskEach ps (front ++ (label ++ (sep ++ (v ++ rest)))) = maskEach after (left ++ (mask ++
          p.maskAll ((sep ++ (v ++ maskEach before rest)).dropWhile (!isBlank ·)))) := by
  intro ps
  induction xs generalizing front with
  | nil =>
    obtain ⟨left, hkeeps | htakes⟩ := keeps_or_takes hword hword hlabel front
    · refine Or.inl ⟨left, hkeeps.maskAll_append hword hlabel, fun v rest hv hrest => ?_⟩
      exact (hkeeps _).trans (congrArg _ (maskAll_secret hlabel hsep hv hrest))
    · exact Or.inr ⟨left, [], .labelled word, [], rfl, htakes.maskAll_append,
        fun v rest _ _ => htakes _⟩
  | cons x xs ih =>
    obtain ⟨⟨hx, hne⟩, hxs⟩ := List.forall_mem_cons.1 hxs
    have htail {rest : Text} := isTail_maskAll (t := rest) (isPlain_of_mem_labels hx)
    obtain ⟨left, hkeeps | htakes⟩ := keeps_or_takes hx hword hlabel front
    · have hsecret {v rest : Text} (hv : IsValue v) (hrest : IsTail rest) :
          (Pattern.labelled x).maskAll (front ++ (label ++ (sep ++ (v ++ rest)))) =
            left ++ (label ++ (sep ++ (v ++ (Pattern.labelled x).maskAll rest))) := by
        rw [hkeeps, maskAll_secret_of_ne hlabel hsep hv hrest hx hword hne]
      simp only [ps, List.cons_append, List.map_cons, maskEach_cons,
        hkeeps.maskAll_append hword hlabel]
      rcases ih hxs left with ⟨left', hlabel', h⟩ | ⟨left', before, p, after, heq, hlabel', h⟩
      · refine Or.inl ⟨left', hlabel', fun v rest hv hrest => ?_⟩
        rw [hsecret hv hrest, h v _ hv (htail hrest)]
      · refine Or.inr ⟨left', .labelled x :: before, p, after, by rw [heq]; rfl, hlabel',
          fun v rest hv hrest => ?_⟩
        rw [hsecret hv hrest, h v _ hv (htail hrest)]
        rfl
    · refine Or.inr ⟨left, [], .labelled x, (xs ++ [word]).map .labelled, rfl, ?_,
        fun v rest _ _ => ?_⟩
      · rw [← htakes.maskAll_append]
        rfl
      · rw [maskEach_nil, ← htakes]
        rfl

/-! ### Traces -/

lemma isValue_of_tails (hne : t ≠ []) (hunbroken : ∀ c ∈ t, isBlank c = false)
    (hscan : ∀ word ∈ labels, ∀ s ∈ t.tails, afterWord? word s = none) : IsValue t := by
  refine ⟨hne, hunbroken, ?_⟩
  rintro word hword u hu ⟨a, b, rfl⟩
  have hsuffix : u ++ b <:+ a ++ u ++ b := ⟨a, (List.append_assoc a u b).symm⟩
  have hnone := hscan word hword _ ((List.mem_tails _ _).2 hsuffix)
  rw [afterWord?_append hu] at hnone
  exact absurd hnone nofun

/-- A text with an asterisk at its end does not end with a label. -/
lemma not_suffix_of_asterisk (hword : word ∈ labels) (hlabel : label ∈ spelled word)
    (h : [42] <:+ t) : ¬ label <:+ t := by
  intro hsuffix
  have hasterisk := ne_asterisk_of_mem_spelled (isPlain_of_mem_labels hword).letters hlabel
  obtain ⟨l, e, rfl⟩ := (List.eq_nil_or_concat' label).resolve_left (label_ne_nil hword hlabel)
  obtain ⟨a, ha⟩ := hsuffix
  obtain ⟨b, rfl⟩ := h
  obtain ⟨-, hlast⟩ := List.append_inj' ((List.append_assoc a l [e]).trans ha) rfl
  simp [hlast] at hasterisk

/-- A value that ends in a separation with a blank leaves the rest of the separation. -/
lemma IsSeparation.exists_dropWhile {sep : Text} (hsep : IsSeparation sep)
    (hblank : ∃ c ∈ sep, isBlank c) : ∃ gap, IsTail gap ∧ gap ≠ [] ∧
      (∀ c ∈ gap, isGap c) ∧
      ∀ t, (sep ++ t).dropWhile (!isBlank ·) = gap ++ t := by
  obtain ⟨c, hc, hcblank⟩ := hblank
  have hne : sep.dropWhile (!isBlank ·) ≠ [] := by
    intro hnil
    have hunbroken := List.dropWhile_eq_nil_iff.1 hnil c hc
    simp [hcblank] at hunbroken
  have hgap : ∀ c ∈ sep.dropWhile (!isBlank ·), isGap c :=
    fun c hc => hsep.forall_isGap c ((List.dropWhile_suffix _).subset hc)
  refine ⟨_, ?_, hne, hgap, fun t => ?_⟩
  · obtain ⟨b, g, hdrop⟩ := List.exists_cons_of_ne_nil hne
    rw [hdrop]
    rintro _ ⟨⟩
    simpa using eq_false_of_dropWhile_eq_cons hdrop
  · rw [List.dropWhile_append, if_neg (by simpa using hne)]

lemma isTail_maskEach {ps : List Pattern} (hps : ∀ p ∈ ps, p.IsPlain) (ht : IsTail t) :
    IsTail (maskEach ps t) := by
  induction ps generalizing t with
  | nil => exact ht
  | cons p ps ih =>
    rw [List.forall_mem_cons] at hps
    exact ih hps.2 (isTail_maskAll hps.1 ht)

/-- A letter that is left of a secret shows in the end. -/
lemma trace_of_letter {ps : List Pattern} (hps : ∀ p ∈ ps, p ∈ patterns) (hp : p ∈ patterns)
    {gap : Text} (htail : IsTail gap) (hne : gap ≠ []) (hgap : ∀ c ∈ gap, isGap c)
    (hc : ∀ p ∈ patterns, p.maskAll [c] = [c]) (left : Text) :
    [c] <:+ maskEach ps (left ++ (mask ++ p.maskAll (gap ++ [c]))) := by
  have hfixed : ∀ p ∈ patterns, p.maskAll (gap ++ [c]) = gap ++ [c] := fun p hp => by
    rw [maskAll_gap_append (patterns_isPlain p hp) hgap, hc p hp]
  have htail' : IsTail (gap ++ [c]) := by
    obtain ⟨b, g, rfl⟩ := List.exists_cons_of_ne_nil hne
    exact htail
  have hasterisk : 42 :: (gap ++ [c]) <:+ left ++ (mask ++ p.maskAll (gap ++ [c])) :=
    ⟨left ++ [42, 42], by simp [mask, hfixed p hp]⟩
  calc [c]
    _ <:+ 42 :: (gap ++ [c]) := List.suffix_append (42 :: gap) [c]
    _ <:+ _ := asterisk_suffix_maskEach (fun p hp => patterns_isPlain p (hps p hp)) htail'
      (fun p hp => hfixed p (hps p hp)) hasterisk

/-- Where a label survives, what is made of the secret does not show its value, and elsewhere a
pattern takes the label as a part of a value, and leaves what follows. -/
lemma redact_secret_cases {sep : Text} (hword : word ∈ labels) (hlabel : label ∈ spelled word)
    (hsep : IsSeparation sep) (front : Text) :
    (Survives word front label ∧ ∃ f : Text → Text, ∀ v rest, IsValue v → IsTail rest →
      redact (front ++ label ++ sep ++ v ++ rest) = f rest) ∨
    (¬ Survives word front label ∧ ∃ left before p after,
      (∀ q ∈ before ++ p :: after, q ∈ patterns) ∧ ∀ v rest, IsValue v → IsTail rest →
        redact (front ++ label ++ sep ++ v ++ rest) = maskEach after (left ++ (mask ++
          p.maskAll ((sep ++ (v ++ maskEach before rest)).dropWhile (!isBlank ·))))) := by
  have hxs : ∀ x ∈ labels.takeWhile (· ≠ word), x ∈ labels ∧ x ≠ word := fun x hx =>
    ⟨(List.takeWhile_prefix _).subset hx, by simpa using List.mem_takeWhile_imp hx⟩
  obtain ⟨ps, hps⟩ := exists_patterns_eq hword
  have hredact (t : Text) : redact t = maskEach ps (maskEach (upTo word) t) := by
    rw [← maskEach_append, ← hps]
    rfl
  simp only [List.append_assoc, hredact]
  rcases maskEach_secret_cases hword hlabel hsep hxs front with
    ⟨left, hleft, h⟩ | ⟨left, before, p, after, heq, hleft, h⟩
  · refine Or.inl ⟨⟨left, hleft.symm⟩,
      fun rest => maskEach ps (left ++ (mask ++ maskEach (upTo word) rest)), ?_⟩
    exact fun v rest hv hrest => congrArg _ (h v rest hv hrest)
  · have hmem : ∀ q ∈ before ++ p :: (after ++ ps), q ∈ patterns := by
      intro q hq
      rw [hps, upTo, heq]
      simpa using hq
    refine Or.inr ⟨?_, left, before, p, after ++ ps, hmem, fun v rest hv hrest => ?_⟩
    · have hplain : ∀ q ∈ after, q.IsPlain := fun q hq => patterns_isPlain q (hmem q (by simp [hq]))
      have hasterisk : [42] <:+ maskEach (upTo word) (front ++ label) := by
        rw [upTo, hleft]
        exact asterisk_suffix_maskEach hplain nofun (fun q _ => q.maskAll_nil)
          ⟨left ++ [42, 42], by simp [mask]⟩
      exact not_suffix_of_asterisk hword hlabel hasterisk
    · rw [maskEach_append]
      exact congrArg _ (h v rest hv hrest)

/-- A secret leaves no trace of its value in a redacted text if and only if there is no blank in its
separation, or its label is still there when its own pattern has been masked in what precedes. -/
theorem value_immaterial_iff (word front label sep : Text) (hword : word ∈ labels)
    (hlabel : label ∈ spelled word) (hsep : IsSeparation sep) :
    (∀ v w rest, IsValue v → IsValue w → IsTail rest →
      redact (front ++ label ++ sep ++ v ++ rest) = redact (front ++ label ++ sep ++ w ++ rest)) ↔
    (∀ c ∈ sep, isBlank c = false) ∨ Survives word front label := by
  rcases redact_secret_cases hword hlabel hsep front with
    ⟨hsurvives, f, h⟩ | ⟨htaken, left, before, p, after, hmem, h⟩
  · refine iff_of_true (fun v w rest hv hw hrest => ?_) (Or.inr hsurvives)
    rw [h v rest hv hrest, h w rest hw hrest]
  rw [or_iff_left htaken]
  simp only [List.forall_mem_append, List.forall_mem_cons] at hmem
  obtain ⟨hbefore, hp, hafter⟩ := hmem
  constructor
  · intro himmaterial
    by_contra hblank
    obtain ⟨gap, htail, hne, hgap, hdrop⟩ := hsep.exists_dropWhile (by simpa using hblank)
    have hends {c : Nat} (hv : IsValue [c]) (hc : ∀ p ∈ patterns, p.maskAll [c] = [c]) :
        [c] <:+ redact (front ++ label ++ sep ++ [c] ++ []) := by
      rw [h [c] [] hv nofun, maskEach_empty, List.append_nil, hdrop]
      exact trace_of_letter hafter hp htail hne hgap hc left
    have ha : IsValue [97] := isValue_of_tails (by decide) (by decide) (by decide +kernel)
    have hb : IsValue [98] := isValue_of_tails (by decide) (by decide) (by decide +kernel)
    obtain ⟨t, ht⟩ := hends ha (by decide +kernel)
    obtain ⟨u, hu⟩ := hends hb (by decide +kernel)
    rw [himmaterial [97] [98] [] ha hb nofun, ← hu] at ht
    exact absurd (List.append_inj' ht rfl).2 (by decide)
  · intro hunbroken v w rest hv hw hrest
    have hplain : ∀ q ∈ before, q.IsPlain := fun q hq => patterns_isPlain q (hbefore q hq)
    have hdrop {v : Text} (hv : IsValue v) :
        (sep ++ (v ++ maskEach before rest)).dropWhile (!isBlank ·) = maskEach before rest := by
      rw [← List.append_assoc]
      apply (isTail_maskEach hplain hrest).dropWhile_append
      exact List.forall_mem_append.2 ⟨hunbroken, hv.unbroken⟩
    rw [h v rest hv hrest, h w rest hw hrest, hdrop hv, hdrop hw]

theorem value_immaterial_iff_login :
    let spaced : Text := " = "
    let joined : Text := "= "
    IsSeparation spaced ∧ IsSeparation joined ∧
    (∀ v w rest, IsValue v → IsValue w → IsTail rest →
      redact ("login " ++ "PassWord" ++ spaced ++ v ++ rest) =
        redact ("login " ++ "PassWord" ++ spaced ++ w ++ rest)) ∧
    ¬ ∀ v w rest, IsValue v → IsValue w → IsTail rest →
      redact ("password= " ++ "token" ++ joined ++ v ++ rest) =
        redact ("password= " ++ "token" ++ joined ++ w ++ rest) := by
  intro spaced joined
  have hpassword : Text.ofString "password" ∈ labels := by decide +kernel
  have htoken : Text.ofString "token" ∈ labels := by decide +kernel
  have hspaced : IsSeparation spaced := ⟨" ", 61, " ", by decide, rfl, by decide, rfl⟩
  have hjoined : IsSeparation joined := ⟨"", 61, " ", by decide, rfl, by decide, rfl⟩
  refine ⟨hspaced, hjoined, ?_, ?_⟩
  · apply (value_immaterial_iff "password" _ _ _ hpassword (mem_spelled_iff.2 ?_) hspaced).2
    · exact Or.inr (by decide +kernel)
    · decide
  · intro h
    have hcases := (value_immaterial_iff "token" _ _ _ htoken (mem_spelled_iff.2 ?_) hjoined).1 h
    · revert hcases
      decide +kernel
    · decide

/-- The label of the first secret takes that of the second one, up to the blank behind its sign, and
leaves the value. -/
theorem value_shown_behind_taken_label :
    let front : Text := "password= "
    let label : Text := "token"
    let sep : Text := "= "
    let secret : Text := "hunter2"
    let address : Text := "10.0.0.7"
    label ∈ labels ∧ label ∈ spelled label ∧ IsSeparation sep ∧ IsValue secret ∧ IsValue address ∧
    IsTail [] ∧ redact (front ++ label ++ sep ++ secret ++ []) = "*** hunter2" ∧
    redact (front ++ label ++ sep ++ address ++ []) = "*** ***" := by
  intro front label sep secret address
  have hsep : IsSeparation sep := ⟨"", 61, " ", by decide, rfl, by decide, rfl⟩
  have hsecret : IsValue secret := isValue_of_tails (by decide) (by decide) (by decide +kernel)
  have haddress : IsValue address := isValue_of_tails (by decide) (by decide) (by decide +kernel)
  exact ⟨by decide +kernel, mem_spelled_iff.2 (by decide), hsep, hsecret, haddress, nofun,
    by decide +kernel, by decide +kernel⟩

end CertRegistry.Redaction
