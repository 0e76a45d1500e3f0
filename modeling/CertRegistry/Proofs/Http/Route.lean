import CertRegistry.Http.RouteName
import CertRegistry.Proofs.Number.Integer

/-!
# Paths that are resolved

A path is split at its slashes into the words that it was put together from, and a route whose id
has no more digits than are read at all is found under its own path.
-/

namespace CertRegistry

namespace Text

variable {mark : ℕ} {t : Text}

lemma splitOn_eq_singleton (h : mark ∉ t) : t.splitOn mark = [t] := by
  induction t with
  | nil => rfl
  | cons c t ih =>
    obtain ⟨hc, ht⟩ := not_or.1 (List.mem_cons.not.1 h)
    rw [splitOn, if_neg (Ne.symm hc), ih ht]

lemma splitOn_append_cons (h : mark ∉ t) (r : Text) :
    splitOn mark (t ++ mark :: r) = t :: r.splitOn mark := by
  induction t with
  | nil => rw [List.nil_append, splitOn, if_pos rfl]
  | cons c t ih =>
    obtain ⟨hc, ht⟩ := not_or.1 (List.mem_cons.not.1 h)
    rw [List.cons_append, splitOn, if_neg (Ne.symm hc), ih ht]

/-- Texts without a mark are the parts of what they are joined to by it. -/
lemma splitOn_join : ∀ {ts : List Text}, ts ≠ [] → (∀ t ∈ ts, mark ∉ t) →
    splitOn mark (join [mark] ts) = ts
  | [t], _, h => splitOn_eq_singleton (h t List.mem_cons_self)
  | t :: u :: r, _, h => by
    have hrest := splitOn_join (List.cons_ne_nil u r) fun t' ht' => h t' (List.mem_cons_of_mem _ ht')
    rw [join, List.append_assoc, List.singleton_append,
      splitOn_append_cons (h t List.mem_cons_self), hrest]

lemma splitOn_ne_nil (mark : ℕ) (t : Text) : t.splitOn mark ≠ [] := by
  cases t with
  | nil => exact List.cons_ne_nil _ _
  | cons c t =>
    rw [splitOn]
    split_ifs
    · exact List.cons_ne_nil _ _
    · split <;> exact List.cons_ne_nil _ _

/-- The parts of a text, joined by the mark, are the text again. -/
lemma join_splitOn (mark : ℕ) (t : Text) : join [mark] (t.splitOn mark) = t := by
  induction t with
  | nil => rfl
  | cons c t ih =>
    obtain ⟨p, ps, hsplit⟩ := List.exists_cons_of_ne_nil (splitOn_ne_nil mark t)
    rw [hsplit] at ih
    by_cases hc : c = mark
    · rw [splitOn, if_pos hc, hsplit, join, ih, hc]
      rfl
    · have hcons : splitOn mark (c :: t) = (c :: p) :: ps := by rw [splitOn, if_neg hc, hsplit]
      rw [hcons, ← ih]
      cases ps <;> rfl

end Text

namespace Route

lemma wordsOf?_pathOf {ws : List Text} (h : ∀ w ∈ ws, 47 ∉ w) : wordsOf? (pathOf ws) = some ws := by
  have hsplit : (pathOf ws).splitOn 47 = [] :: (ws ++ [[]]) := by
    refine Text.splitOn_join (List.cons_ne_nil _ _) fun t ht => ?_
    simp only [List.cons_append, List.mem_cons, List.mem_append, List.not_mem_nil, or_false] at ht
    rcases ht with rfl | ht | rfl
    · exact List.not_mem_nil
    · exact h t ht
    · exact List.not_mem_nil
  rw [wordsOf?, hsplit]
  simp

lemma isNumeral_ofNat (n : ℕ) : isNumeral (Text.ofNat n) := by
  simp only [isNumeral, Bool.and_eq_true, decide_eq_true_eq, List.all_eq_true]
  exact ⟨Text.ofNat_ne_nil n, fun c hc => Text.isAsciiDigit_of_mem_ofNat hc⟩

lemma numeralValue_ofNat (n : ℕ) : numeralValue (Text.ofNat n) = n := Text.digitsValue_ofNat n

lemma slash_notMem_ofNat (n : ℕ) : 47 ∉ Text.ofNat n := fun h =>
  absurd (Text.isAsciiDigit_of_mem_ofNat h) (by decide)

lemma slash_notMem_toWords (r : Route) : ∀ w ∈ r.toWords, 47 ∉ w := by
  cases r with
  | updateCertificate id | deleteCertificate id | revokeCertificate id | approveRequest id
  | rejectRequest id =>
    simp only [toWords, words, List.cons_append, List.nil_append, List.forall_mem_cons]
    refine ⟨?_, ?_, ?_, slash_notMem_ofNat id, ?_, List.forall_mem_nil _⟩ <;> decide
  | _ => decide

/-- Every route is found under its path, unless its id has too many digits. -/
theorem resolve_path (r : Route) (h : ∀ a ∈ r.argument?, a.2 < 10 ^ Integer.maxDigits) :
    resolve r.path = some r := by
  rw [resolve, path, wordsOf?_pathOf r.slash_notMem_toWords, Option.bind_some]
  cases r with
  | updateCertificate id | deleteCertificate id | revokeCertificate id | approveRequest id
  | rejectRequest id =>
    have hlength : (Text.ofNat id).length ≤ Integer.maxDigits :=
      (Text.length_ofNat_le_iff (by decide)).2 (h _ rfl)
    simp [patterns, Pattern.match?, toWords, words, hlength, isNumeral_ofNat, numeralValue_ofNat]
  | _ => decide

end Route

end CertRegistry
