import CertRegistry.Redaction
import Mathlib.Computability.Language

/-!
# What the patterns look for

Each pattern stands for a language, the set of the texts that it matches, and it occurs in a text
that holds a word of its language somewhere. The scanner of a pattern takes as much as it can at
every place and never goes back. Nothing is lost by that, since what follows a run of a class never
begins in that class: the scanner finds something in front of a text just where a word is in front
of it.
-/

namespace CertRegistry.Redaction

open Text
open scoped Computability

/-! ### Languages -/

/-- The texts of a single code point of a class. -/
def one (p : Nat → Bool) : Language Nat := {t | ∃ c, p c ∧ t = [c]}

/-- The texts of one code point of a class or more. -/
def run (p : Nat → Bool) : Language Nat := one p * (one p)∗

/-- The texts that spell a word, in letters of either case. -/
def spelled : Text → Language Nat
  | [] => 1
  | l :: ls => one (folds l) * spelled ls

/-- The texts that a pattern matches. -/
def Pattern.language : Pattern → Language Nat
  | .labelled word =>
    spelled word * ((one isBlank)∗ * (one isSeparator * ((one isBlank)∗ * run (!isBlank ·))))
  | .home => spelled "/home/" * run isWord
  | .address =>
    run isDigit * (one (· = 46) * (run isDigit * (one (· = 46) *
      (run isDigit * (one (· = 46) * run isDigit)))))

/-- A pattern matches some stretch of a text. -/
def Pattern.Occurs (p : Pattern) (t : Text) : Prop := ∃ u ∈ p.language, u <:+: t

variable {L M : Language Nat} {p q : Nat → Bool} {c : Nat} {t r : Text}

/-! ### What is left after a word -/

/-- A text is a word of a language and a rest. -/
def Leaves (L : Language Nat) (t rest : Text) : Prop := ∃ u ∈ L, t = u ++ rest

lemma Leaves.mul {u : Text} (h : Leaves L t u) (hu : Leaves M u r) : Leaves (L * M) t r := by
  obtain ⟨a, ha, rfl⟩ := h
  obtain ⟨b, hb, rfl⟩ := hu
  exact ⟨a ++ b, Language.append_mem_mul ha hb, (List.append_assoc a b r).symm⟩

lemma leaves_one (hc : p c) (t : Text) : Leaves (one p) (c :: t) t := ⟨[c], ⟨c, hc, rfl⟩, rfl⟩

lemma leaves_star (p : Nat → Bool) (t : Text) : Leaves (one p)∗ t (t.dropWhile p) := by
  induction t with
  | nil => exact ⟨[], Language.nil_mem_kstar _, rfl⟩
  | cons c t ih =>
    by_cases hc : p c
    · rw [List.dropWhile_cons_of_pos hc]
      obtain ⟨u, hu, heq⟩ := (leaves_one hc t).mul ih
      have hle : one p * (one p)∗ ≤ (one p)∗ := mul_kstar_le_kstar
      exact ⟨u, hle hu, heq⟩
    · rw [List.dropWhile_cons_of_neg hc]
      exact ⟨[], Language.nil_mem_kstar _, rfl⟩

lemma leaves_of_afterSign? (h : afterSign? p t = some r) : Leaves (one p) t r := by
  cases t with
  | nil => exact absurd h nofun
  | cons c t =>
    simp only [afterSign?, Option.ite_none_right_eq_some, Option.some.injEq] at h
    obtain ⟨hc, rfl⟩ := h
    exact leaves_one hc t

lemma leaves_of_afterRun? (h : afterRun? p t = some r) : Leaves (run p) t r := by
  cases t with
  | nil => exact absurd h nofun
  | cons c t =>
    simp only [afterRun?, Option.ite_none_right_eq_some, Option.some.injEq] at h
    obtain ⟨hc, rfl⟩ := h
    exact (leaves_one hc t).mul (leaves_star p t)

lemma leaves_of_afterWord? {word : Text} (h : afterWord? word t = some r) :
    Leaves (spelled word) t r := by
  induction word generalizing t with
  | nil => exact ⟨[], rfl, Option.some.inj h⟩
  | cons l ls ih =>
    cases t with
    | nil => exact absurd h nofun
    | cons c t =>
      simp only [afterWord?, Option.ite_none_right_eq_some] at h
      exact (leaves_one h.1 t).mul (ih h.2)

/-- What a pattern takes from the front of a text is a word of its language. -/
theorem Pattern.leaves_of_after? {p : Pattern} (h : p.after? t = some r) :
    Leaves p.language t r := by
  cases p with
  | labelled word =>
    simp only [after?, Option.bind_eq_bind, Option.bind_eq_some_iff] at h
    obtain ⟨u, hword, v, hsign, hvalue⟩ := h
    have hvalue := (leaves_star _ v).mul (leaves_of_afterRun? hvalue)
    have hsign := (leaves_star _ u).mul ((leaves_of_afterSign? hsign).mul hvalue)
    exact (leaves_of_afterWord? hword).mul hsign
  | home =>
    simp only [after?, Option.bind_eq_bind, Option.bind_eq_some_iff] at h
    obtain ⟨u, hword, hname⟩ := h
    exact (leaves_of_afterWord? hword).mul (leaves_of_afterRun? hname)
  | address =>
    simp only [after?, Option.bind_eq_bind, Option.bind_eq_some_iff] at h
    obtain ⟨t₁, h₁, t₂, ⟨u₁, hp₁, h₂⟩, t₃, ⟨u₂, hp₂, h₃⟩, u₃, hp₃, h₄⟩ := h
    have h₃ := (leaves_of_afterRun? h₃).mul ((leaves_of_afterSign? hp₃).mul (leaves_of_afterRun? h₄))
    have h₂ := (leaves_of_afterRun? h₂).mul ((leaves_of_afterSign? hp₂).mul h₃)
    exact (leaves_of_afterRun? h₁).mul ((leaves_of_afterSign? hp₁).mul h₂)

/-! ### Words in front -/

/-- A text has a word of a language in front. -/
def Begins (L : Language Nat) (t : Text) : Prop := ∃ rest, Leaves L t rest

lemma begins_mul : Begins (L * M) t ↔ ∃ rest, Leaves L t rest ∧ Begins M rest := by
  constructor
  · rintro ⟨r, u, hu, rfl⟩
    obtain ⟨a, ha, b, hb, rfl⟩ := Language.mem_mul.1 hu
    exact ⟨b ++ r, ⟨a, ha, List.append_assoc a b r⟩, r, b, hb, rfl⟩
  · rintro ⟨rest, hrest, r, hr⟩
    exact ⟨r, hrest.mul hr⟩

lemma Pattern.occurs_iff {p : Pattern} : p.Occurs t ↔ ∃ v, v <:+ t ∧ Begins p.language v := by
  constructor
  · rintro ⟨u, hu, a, b, rfl⟩
    exact ⟨u ++ b, ⟨a, (List.append_assoc a u b).symm⟩, b, u, hu, rfl⟩
  · rintro ⟨v, ⟨a, rfl⟩, b, u, hu, rfl⟩
    exact ⟨u, hu, a, b, List.append_assoc a u b⟩

@[simp] lemma begins_one_mul_nil : ¬ Begins (one p * L) [] := by
  rw [begins_mul]
  rintro ⟨rest, ⟨u, ⟨c, -, rfl⟩, heq⟩, -⟩
  exact absurd heq.symm (List.cons_ne_nil c rest)

@[simp] lemma begins_one_mul_cons : Begins (one p * L) (c :: t) ↔ p c ∧ Begins L t := by
  rw [begins_mul]
  constructor
  · rintro ⟨rest, ⟨u, ⟨d, hd, rfl⟩, heq⟩, hrest⟩
    obtain ⟨rfl, rfl⟩ := List.cons.inj heq
    exact ⟨hd, hrest⟩
  · rintro ⟨hc, ht⟩
    exact ⟨t, leaves_one hc t, ht⟩

@[simp] lemma begins_star : Begins (one p)∗ t := ⟨_, leaves_star p t⟩

/-- A run is there from its first code point on. -/
lemma begins_run_cons : Begins (run p) (c :: t) ↔ p c := by
  rw [run, begins_one_mul_cons, and_iff_left begins_star]

/-- In front of a word of a language there may be code points of a class, or none of them. -/
lemma begins_star_mul :
    Begins ((one p)∗ * L) t ↔ Begins L t ∨ Begins (one p * ((one p)∗ * L)) t := by
  have hsplit : (one p)∗ * L = L + one p * ((one p)∗ * L) := by
    nth_rewrite 1 [← Language.one_add_self_mul_kstar_eq_kstar (one p)]
    rw [add_mul, one_mul, mul_assoc]
  have hadd (M : Language Nat) : Begins (L + M) t ↔ Begins L t ∨ Begins M t := by
    simp only [Begins, Leaves, Language.mem_add, or_and_right, exists_or]
  rw [← hadd, ← hsplit]

/-! ### Scanning -/

/-- No word of a language begins with a code point of a class. -/
def Avoids (p : Nat → Bool) (L : Language Nat) : Prop := ∀ c t, p c → ¬ Begins L (c :: t)

lemma avoids_one_mul (h : ∀ c, q c → p c = false) : Avoids p (one q * L) := by
  intro c t hc hbegins
  rw [begins_one_mul_cons] at hbegins
  exact Bool.false_ne_true ((h c hbegins.1).symm.trans hc)

lemma avoids_run (h : ∀ c, q c → p c = false) : Avoids p (run q) := avoids_one_mul h

/-- Code points in front that no word begins with are passed over, all of them. -/
lemma begins_star_mul_iff (hL : Avoids p L) :
    Begins ((one p)∗ * L) t ↔ Begins L (t.dropWhile p) := by
  induction t with
  | nil => simp [begins_star_mul]
  | cons c t ih =>
    rw [begins_star_mul, begins_one_mul_cons, ih]
    by_cases hc : p c
    · simp [hc, hL c t hc]
    · simp [hc]

lemma begins_one_mul_iff :
    Begins (one p * L) t ↔ ∃ rest, afterSign? p t = some rest ∧ Begins L rest := by
  cases t with
  | nil => simp [afterSign?]
  | cons c t => simp [afterSign?]

lemma begins_run_iff : Begins (run p) t ↔ ∃ rest, afterRun? p t = some rest := by
  cases t with
  | nil => simp [run, afterRun?]
  | cons c t => simp [begins_run_cons, afterRun?]

lemma begins_run_mul_iff (hL : Avoids p L) :
    Begins (run p * L) t ↔ ∃ rest, afterRun? p t = some rest ∧ Begins L rest := by
  rw [run, mul_assoc]
  cases t with
  | nil => simp [afterRun?]
  | cons c t => simp [afterRun?, begins_star_mul_iff hL]

lemma begins_spelled_mul_iff {word : Text} :
    Begins (spelled word * L) t ↔ ∃ rest, afterWord? word t = some rest ∧ Begins L rest := by
  induction word generalizing t with
  | nil => simp [spelled, afterWord?]
  | cons l ls ih =>
    rw [spelled, mul_assoc]
    cases t with
    | nil => simp [afterWord?]
    | cons c t => simp [afterWord?, ih, and_assoc]

/-! ### The scanners of the patterns -/

lemma isBlank_eq_false_of_isSeparator (h : isSeparator c) : isBlank c = false := by
  simp only [isSeparator, Bool.or_eq_true, decide_eq_true_eq] at h
  rcases h with rfl | rfl
  · decide
  · decide

/-- The scanner of a pattern finds something just where a word of its language is in front. -/
theorem Pattern.begins_iff {p : Pattern} : Begins p.language t ↔ (p.after? t).isSome := by
  rw [Option.isSome_iff_exists]
  refine ⟨fun h => ?_, fun ⟨rest, h⟩ => ⟨rest, leaves_of_after? h⟩⟩
  cases p with
  | labelled word =>
    have hvalue : Avoids isBlank (run (!isBlank ·)) := avoids_run fun c hc => by simpa using hc
    have hsign : Avoids isBlank (one isSeparator * ((one isBlank)∗ * run (!isBlank ·))) :=
      avoids_one_mul fun c => isBlank_eq_false_of_isSeparator
    simp only [language, begins_spelled_mul_iff, begins_star_mul_iff hsign, begins_one_mul_iff,
      begins_star_mul_iff hvalue, begins_run_iff] at h
    obtain ⟨u, hword, v, hsign, rest, hvalue⟩ := h
    exact ⟨rest, by simp [after?, hword, hsign, hvalue]⟩
  | home =>
    simp only [language, begins_spelled_mul_iff, begins_run_iff] at h
    obtain ⟨u, hword, rest, hname⟩ := h
    exact ⟨rest, by simp [after?, hword, hname]⟩
  | address =>
    have hpoint (L : Language Nat) : Avoids isDigit (one (· = 46) * L) := by
      apply avoids_one_mul
      intro c hc
      rw [of_decide_eq_true hc]
      decide
    simp only [language, begins_run_mul_iff (hpoint _), begins_one_mul_iff, begins_run_iff] at h
    obtain ⟨t₁, h₁, u₁, hp₁, t₂, h₂, u₂, hp₂, t₃, h₃, u₃, hp₃, rest, h₄⟩ := h
    exact ⟨rest, by simp [after?, h₁, hp₁, h₂, hp₂, h₃, hp₃, h₄]⟩

end CertRegistry.Redaction
