import CertRegistry.Proofs.Http.Route

/-!
# Routes by their names

Writing the path of a route by its name and finding the route of a path are inverse to each other.
No path is matched by two patterns, because what two patterns match never has the same shape: the
same words around a numeral, if there is one. So the order of the patterns does not matter. A path
that is resolved is the path of its route up to zeros in front of the id.
-/

namespace CertRegistry

namespace Route

variable {path : Text} {ws : List Text} {r : Route}

/-- The values of the arguments of a route. -/
def arguments (r : Route) : List ℕ := (r.argument?.map (·.2)).toList

/-! ### Numerals -/

/-- A word, without zeros in front if it is a numeral. -/
def unpaddedWord (w : Text) : Text := if isNumeral w then w.unpadded else w

/-- A path with no zeros in front of the numerals among its words. -/
def canonical (path : Text) : Text := Text.join [47] ((path.splitOn 47).map unpaddedWord)

lemma isAsciiDigit_of_isNumeral {t : Text} (h : isNumeral t) : ∀ c ∈ t, Text.isAsciiDigit c := by
  simp only [isNumeral, Bool.and_eq_true, List.all_eq_true] at h
  exact h.2

lemma ofNat_numeralValue {t : Text} (h : isNumeral t) :
    Text.ofNat (numeralValue t) = t.unpadded :=
  Text.ofNat_digitsValue (isAsciiDigit_of_isNumeral h)

lemma numeralValue_lt {t : Text} (h : isNumeral t) : numeralValue t < 10 ^ t.length := by
  have hdigits : ∀ d ∈ t.map (· - 48), d < 10 := by
    intro d hd
    obtain ⟨c, hc, rfl⟩ := List.mem_map.1 hd
    exact Text.sub_lt_of_isAsciiDigit (isAsciiDigit_of_isNumeral h c hc)
  have hlt := Text.digitsValue_lt _ hdigits
  rwa [List.length_map] at hlt

lemma map_unpaddedWord_of_forall (h : ∀ w ∈ ws, isNumeral w = false) :
    ws.map unpaddedWord = ws := by
  conv_rhs => rw [← List.map_id ws]
  exact List.map_congr_left fun w hw => if_neg (by simp [h w hw])

lemma filter_isNumeral_of_forall (h : ∀ w ∈ ws, isNumeral w = false) : ws.filter isNumeral = [] :=
  List.filter_eq_nil_iff.2 fun w hw => by simp [h w hw]

/-! ### Patterns that match -/

namespace Pattern

lemma match?_fixed_eq_some_iff {form : List Text} {route : Route} :
    match? ws (fixed form route) = some r ↔ ws = form ∧ r = route := by
  simp only [match?]
  split_ifs with h <;> simp [h, eq_comm]

lemma match?_numbered_eq_some_iff {before after : List Text} {route : ℕ → Route} :
    match? ws (numbered before after route) = some r ↔
      ∃ numeral, ws = before ++ numeral :: after ∧ isNumeral numeral ∧
        numeral.length ≤ Integer.maxDigits ∧ r = route (numeralValue numeral) := by
  constructor
  · intro h
    simp only [match?] at h
    split at h
    · next numeral rest hdrop =>
      split_ifs at h with hfit
      obtain ⟨htake, hnumeral, hlength, rfl⟩ := hfit
      refine ⟨numeral, ?_, hnumeral, hlength, (Option.some.inj h).symm⟩
      rw [← hdrop]
      conv_lhs => rw [← List.take_append_drop before.length ws, htake]
    · cases h
  · rintro ⟨numeral, rfl, hnumeral, hlength, rfl⟩
    simp [match?, hnumeral, hlength]

/-- The route of a path, if a pattern matches it. -/
def routeOf? (path : Text) (p : Pattern) : Option Route :=
  (wordsOf? path).bind fun ws => p.match? ws

/-- The shape of words: where there are numerals among them, and what the others are. -/
def shape (ws : List Text) : List (Option Text) :=
  ws.map fun w => if isNumeral w then none else some w

/-- The shape of the words that a pattern matches. -/
def shapeOf : Pattern → List (Option Text)
  | fixed form _ => shape form
  | numbered before after _ => shape (before ++ Text.ofNat 0 :: after)

lemma shape_of_match? {p : Pattern} (h : p.match? ws = some r) : shape ws = p.shapeOf := by
  cases p with
  | fixed form route =>
    obtain ⟨rfl, -⟩ := match?_fixed_eq_some_iff.1 h
    rfl
  | numbered before after route =>
    obtain ⟨numeral, rfl, hnumeral, -⟩ := match?_numbered_eq_some_iff.1 h
    simp [shapeOf, shape, hnumeral, isNumeral_ofNat]

lemma nodup_shapes : (patterns.map shapeOf).Nodup := by decide

end Pattern

/-- A path is matched by one pattern at most. -/
lemma countP_routeOf?_le_one (path : Text) :
    patterns.countP (fun p => (p.routeOf? path).isSome) ≤ 1 := by
  unfold Pattern.routeOf?
  cases wordsOf? path with
  | none => simp
  | some ws =>
    have hcount := List.nodup_iff_count_le_one.1 Pattern.nodup_shapes (Pattern.shape ws)
    rw [List.count_eq_countP, List.countP_map] at hcount
    refine le_trans (List.countP_mono_left fun p _ h => ?_) hcount
    obtain ⟨r, hr⟩ := Option.isSome_iff_exists.1 h
    simp [Pattern.shape_of_match? hr]

/-! ### The order of the patterns -/

/-- The route of a path by the first of some patterns that matches it. -/
def resolveBy (ps : List Pattern) (path : Text) : Option Route :=
  ps.findSome? fun p => p.routeOf? path

lemma resolveBy_patterns (path : Text) : resolveBy patterns path = resolve path := by
  unfold resolveBy resolve Pattern.routeOf?
  cases wordsOf? path with
  | none => rfl
  | some ws => rfl

/-- In another order the patterns give a path the same route. -/
lemma resolveBy_of_perm {ps : List Pattern} (h : ps.Perm patterns) (path : Text) :
    resolveBy ps path = resolve path := by
  let routes (ps : List Pattern) : List Route := ps.filterMap fun p => p.routeOf? path
  have hfirst (ps : List Pattern) : resolveBy ps path = (routes ps).head? :=
    List.head?_filterMap.symm
  have hperm : (routes ps).Perm (routes patterns) := h.filterMap _
  have hone : (routes patterns).length ≤ 1 := by
    rw [List.length_filterMap_eq_countP]
    exact countP_routeOf?_le_one path
  rw [← resolveBy_patterns, hfirst, hfirst]
  -- a list of one route at most has no other order
  match routes patterns, hperm, hone with
  | [], hperm, _ => rw [List.perm_nil.1 hperm]
  | [r], hperm, _ => rw [List.perm_singleton.1 hperm]
  | r :: r' :: rest, _, hone => exact absurd hone (by simp)

/-! ### Paths that are resolved -/

lemma splitOn_of_wordsOf? (h : wordsOf? path = some ws) :
    path.splitOn 47 = [] :: (ws ++ [[]]) := by
  unfold wordsOf? at h
  split at h
  · next rest hsplit =>
    split_ifs at h with hlast
    obtain rfl := Option.some.inj h
    rw [hsplit, List.dropLast_append_getLast? [] hlast]
  · exact absurd h nofun

/-- The words of a path of a route: the id is the only numeral among them, if there is one, and it
may have zeros in front. -/
inductive Spelling (r : Route) : List Text → Prop
  | plain (harguments : r.arguments = []) (hwords : ∀ w ∈ r.toWords, isNumeral w = false) :
    Spelling r r.toWords
  | numbered {before after : List Text} {numeral : Text} (hnumeral : isNumeral numeral)
      (hlength : numeral.length ≤ Integer.maxDigits)
      (harguments : r.arguments = [numeralValue numeral])
      (htoWords : r.toWords = before ++ Text.ofNat (numeralValue numeral) :: after)
      (hbefore : ∀ w ∈ before, isNumeral w = false) (hafter : ∀ w ∈ after, isNumeral w = false) :
    Spelling r (before ++ numeral :: after)

lemma spelling_of_match? {p : Pattern} (hp : p ∈ patterns) (h : p.match? ws = some r) :
    Spelling r ws := by
  simp only [patterns, List.mem_cons, List.not_mem_nil, or_false] at hp
  rcases hp with rfl | rfl | rfl | rfl | rfl | rfl | rfl | rfl | rfl | rfl | rfl | rfl | rfl
  all_goals first
    | obtain ⟨rfl, rfl⟩ := Pattern.match?_fixed_eq_some_iff.1 h
      exact .plain rfl (by decide)
    | obtain ⟨numeral, rfl, hnumeral, hlength, rfl⟩ := Pattern.match?_numbered_eq_some_iff.1 h
      exact .numbered hnumeral hlength rfl rfl (by decide) (by decide)

lemma spelling_of_resolve (h : resolve path = some r) :
    ∃ ws, path.splitOn 47 = [] :: (ws ++ [[]]) ∧ Spelling r ws := by
  obtain ⟨ws, hws, hfind⟩ := Option.bind_eq_some_iff.1 h
  obtain ⟨p, hp, hmatch⟩ := List.exists_of_findSome?_eq_some hfind
  exact ⟨ws, splitOn_of_wordsOf? hws, spelling_of_match? hp hmatch⟩

namespace Spelling

/-- Without zeros in front of the id the words are those of the route. -/
lemma map_unpaddedWord (h : Spelling r ws) : ws.map unpaddedWord = r.toWords := by
  cases h with
  | plain harguments hwords => exact map_unpaddedWord_of_forall hwords
  | numbered hnumeral hlength harguments htoWords hbefore hafter =>
    rw [htoWords, List.map_append, List.map_cons, map_unpaddedWord_of_forall hbefore,
      map_unpaddedWord_of_forall hafter, unpaddedWord, if_pos hnumeral, ofNat_numeralValue hnumeral]

lemma map_numeralValue (h : Spelling r ws) :
    (ws.filter isNumeral).map numeralValue = r.arguments := by
  cases h with
  | plain harguments hwords => rw [filter_isNumeral_of_forall hwords, harguments, List.map_nil]
  | numbered hnumeral hlength harguments htoWords hbefore hafter =>
    rw [harguments, List.filter_append, List.filter_cons_of_pos hnumeral,
      filter_isNumeral_of_forall hbefore, filter_isNumeral_of_forall hafter]
    rfl

lemma arguments_lt (h : Spelling r ws) : ∀ n ∈ r.arguments, n < 10 ^ Integer.maxDigits := by
  cases h with
  | plain harguments hwords =>
    rw [harguments]
    exact List.forall_mem_nil _
  | numbered hnumeral hlength harguments htoWords hbefore hafter =>
    rw [harguments, List.forall_mem_singleton]
    exact (numeralValue_lt hnumeral).trans_le (Nat.pow_le_pow_right (by decide) hlength)

end Spelling

/-- A path that is resolved is that of its route, up to zeros in front of the id. -/
lemma canonical_of_resolve (h : resolve path = some r) : canonical path = r.path := by
  obtain ⟨ws, hsplit, hspelling⟩ := spelling_of_resolve h
  have hempty : unpaddedWord [] = [] := rfl
  rw [canonical, hsplit, Route.path, pathOf, ← hspelling.map_unpaddedWord]
  simp [hempty]

lemma numerals_of_resolve (h : resolve path = some r) :
    ((path.splitOn 47).filter isNumeral).map numeralValue = r.arguments := by
  obtain ⟨ws, hsplit, hspelling⟩ := spelling_of_resolve h
  have hempty : isNumeral [] = false := rfl
  rw [hsplit, ← hspelling.map_numeralValue]
  simp [hempty]

lemma mem_arguments {a : Text × ℕ} (h : a ∈ r.argument?) : a.2 ∈ r.arguments := by
  rw [arguments, Option.mem_def.1 h]
  exact List.mem_singleton_self _

lemma resolve_path_of_resolve (h : resolve path = some r) : resolve r.path = some r := by
  obtain ⟨ws, -, hspelling⟩ := spelling_of_resolve h
  exact resolve_path r fun a ha => hspelling.arguments_lt a.2 (mem_arguments ha)

/-- A path without numerals has no zeros in front of any. -/
lemma canonical_of_filter_eq_nil (h : (path.splitOn 47).filter isNumeral = []) :
    canonical path = path := by
  have hnone : ∀ w ∈ path.splitOn 47, isNumeral w = false :=
    fun w hw => Bool.eq_false_of_not_eq_true (List.filter_eq_nil_iff.1 h w hw)
  rw [canonical, map_unpaddedWord_of_forall hnone, Text.join_splitOn]

/-! ### Paths by names -/

lemma pathByName_eq_ok {name : Text} {vs : List Json} {p : Pattern}
    (hgroup : (name.cut 58).2 = none) (hp : patterns.find? (fun p => p.name = name) = some p)
    (hpath : p.path? (vs.map Json.shown) = some path) : pathByName name vs = .ok path := by
  unfold pathByName
  split
  · next hcut => exact absurd (hgroup.symm.trans (congrArg Prod.snd hcut)) nofun
  · simp only [hp, hpath]

/-- The path of a route is written by its name and its arguments. -/
lemma pathByName_name (r : Route) :
    pathByName r.name (r.arguments.map fun n : ℕ => .int n) = .ok r.path := by
  cases r with
  | updateCertificate id | deleteCertificate id | revokeCertificate id | approveRequest id
  | rejectRequest id => exact pathByName_eq_ok rfl rfl (if_pos (isNumeral_ofNat id))
  | _ => exact pathByName_eq_ok rfl rfl rfl

/-- Writing paths by names and resolving them are inverse, and no path is ambiguous. A route is
found under the path that its name and its arguments write, unless its id has more digits than are
read at all. A path is matched by one pattern at most, so the order of the patterns does not matter.
The name and the arguments of the route of a path write this path without zeros in front of its id,
which is the only numeral in it and has the argument as its value. So paths have routes of the same
name and the same arguments just where they are the same up to such zeros. -/
theorem pathByName_inverse :
    (∀ r : Route, (∀ n ∈ r.arguments, n < 10 ^ Integer.maxDigits) →
      ∃ path, pathByName r.name (r.arguments.map fun n : ℕ => .int n) = .ok path ∧
        resolve path = some r) ∧
    (∀ path, patterns.countP (fun p => (p.routeOf? path).isSome) ≤ 1 ∧
      ∀ ps : List Pattern, ps.Perm patterns → resolveBy ps path = resolve path) ∧
    (∀ path r, resolve path = some r →
      pathByName r.name (r.arguments.map fun n : ℕ => .int n) = .ok (canonical path) ∧
      ((path.splitOn 47).filter isNumeral).map numeralValue = r.arguments ∧
      (r.arguments = [] → canonical path = path)) ∧
    ∀ p q r r', resolve p = some r → resolve q = some r' →
      (r.name = r'.name ∧ r.arguments = r'.arguments ↔ canonical p = canonical q) := by
  refine ⟨fun r hr => ⟨r.path, pathByName_name r, ?_⟩,
    fun path => ⟨countP_routeOf?_le_one path, ?_⟩,
    fun path r h => ⟨?_, numerals_of_resolve h, fun harguments => ?_⟩, fun p q r r' hp hq => ?_⟩
  · exact resolve_path r fun a ha => hr a.2 (mem_arguments ha)
  · exact fun ps hps => resolveBy_of_perm hps path
  · rw [canonical_of_resolve h]
    exact pathByName_name r
  · have hnumerals := numerals_of_resolve h
    rw [harguments, List.map_eq_nil_iff] at hnumerals
    exact canonical_of_filter_eq_nil hnumerals
  · rw [canonical_of_resolve hp, canonical_of_resolve hq]
    constructor
    · rintro ⟨hname, harguments⟩
      have hpath := pathByName_name r
      rw [hname, harguments, pathByName_name r'] at hpath
      exact (Except.ok.inj hpath).symm
    · intro hpath
      have hr := resolve_path_of_resolve hp
      rw [hpath, resolve_path_of_resolve hq] at hr
      obtain rfl := Option.some.inj hr
      exact ⟨rfl, rfl⟩

/-- The path of a certificate with zeros in front of its id, and the path that its name writes. -/
theorem pathByName_inverse_padded :
    let path : Text := "/certificates/admin/certificates/007/update/"
    let short : Text := "/certificates/admin/certificates/7/update/"
    resolve path = some (updateCertificate 7) ∧ resolve short = some (updateCertificate 7) ∧
      pathByName "update_certificate" [.int 7] = .ok short ∧
      resolveBy patterns.reverse path = resolve path ∧
      canonical path = canonical short ∧
      ∃ written, pathByName "update_certificate" [.int 7] = .ok written ∧
        resolve written = some (updateCertificate 7) := by
  intro path short
  have hpath : resolve path = some (updateCertificate 7) := by decide
  have hshort : resolve short = some (updateCertificate 7) := by decide
  have hcanonical : canonical path = short := by decide
  have hseven : ∀ n ∈ (updateCertificate 7).arguments, n < 10 ^ Integer.maxDigits := by
    refine List.forall_mem_singleton.2 (lt_of_lt_of_le (by decide : 7 < 10 ^ 1) ?_)
    exact Nat.pow_le_pow_right (by decide) (by decide)
  obtain ⟨hwritten, hone, hread, hsame⟩ := pathByName_inverse
  refine ⟨hpath, hshort, ?_, (hone path).2 _ (List.reverse_perm _),
    (hsame _ _ _ _ hpath hshort).1 ⟨rfl, rfl⟩, hwritten _ hseven⟩
  rw [← hcanonical]
  exact (hread path _ hpath).1

end Route

end CertRegistry
