import CertRegistry.Proofs.Input.Values
import CertRegistry.Proofs.Number.Integer
import CertRegistry.Proofs.Time.Gap

/-!
# Reading a value again

A value that a field gave is taken by the field again, and gives itself: it is trimmed, declared or
in range already. A date gives the moment that the zone's clock tells at its instant, which is
another one only for a local time that the zone skips.
-/

namespace CertRegistry.Input

/-- A value with its date as the zone's clock tells it. -/
def Value.settled : Value → Value
  | .moment m => .moment (.onClock m.instant)
  | v => v

@[simp] lemma Value.settled_settled (value : Value) : value.settled.settled = value.settled := by
  cases value <;> simp [settled]

variable {v : Json} {value : Value}

/-! ### Texts, kinds and numbers -/

lemma readText_toJson {most : Option Nat} {trimmed blank : Bool}
    (h : readText most trimmed blank v = .ok value) :
    readText most trimmed blank value.toJson = .ok value := by
  unfold readText at h
  split at h
  · cases h
  · next t _ =>
    by_cases hblank : isBlankText trimmed t
    · rw [if_pos hblank] at h
      split_ifs at h with hallowed
      obtain rfl := Except.ok.inj h
      have hempty : isBlankText trimmed [] := by cases trimmed <;> rfl
      simp [readText, Value.toJson, plainText?, hempty, hallowed]
    · rw [if_neg hblank] at h
      simp only [isBlankText, decide_eq_true_eq] at hblank
      dsimp only at h
      split at h
      · next hfaults =>
        obtain rfl := Except.ok.inj h
        -- what has been trimmed is not trimmed any further
        have htrimmed (u : Text) : (if trimmed then (if trimmed then u.strip else u).strip
            else if trimmed then u.strip else u) = if trimmed then u.strip else u := by
          cases trimmed
          · rfl
          · exact u.strip_strip
        simp [readText, Value.toJson, plainText?, isBlankText, htrimmed, hblank, hfaults]
      · cases h

lemma readKind_toJson (h : readKind v = .ok value) : readKind value.toJson = .ok value := by
  unfold readKind at h
  split_ifs at h with hkind
  obtain rfl := Except.ok.inj h
  exact if_pos hkind

lemma dropWholePoint_eq_self {t : Text} (h : 46 ∉ t) : dropWholePoint t = t := by
  unfold dropWholePoint
  split
  · next r hr =>
    have hmem : 46 ∈ (t.reverse.dropWhile Text.isBlank).dropWhile (· = 48) := by simp [hr]
    have hsuffix := (List.dropWhile_suffix (· = 48)).trans (List.dropWhile_suffix Text.isBlank)
      |>.subset hmem
    exact absurd (List.mem_reverse.1 hsuffix) h
  · rfl

/-- A number that was read is short enough to be read again. -/
lemma readNatural_eq_ok {n : Int} (h : readNatural v = .ok (.number n)) :
    0 ≤ n ∧ n.natAbs < 10 ^ Integer.maxDigits := by
  unfold readNatural at h
  extract_lets long at h
  split_ifs at h
  split at h
  · exact absurd h nofun
  · next k hk =>
    split_ifs at h with hnegative
    obtain rfl := Value.number.inj (Except.ok.inj h)
    exact ⟨not_lt.1 hnegative, Integer.natAbs_lt_of_ofText hk⟩

lemma readNatural_int {n : Nat} (hn : n < 10 ^ Integer.maxDigits) :
    readNatural (.int n) = .ok (.number n) := by
  have hpoint : 46 ∉ Text.ofNat n := fun h =>
    absurd (Text.isAsciiDigit_of_mem_ofNat h) (by decide)
  have htext : dropWholePoint (Json.int n).shown = Text.ofNat n := dropWholePoint_eq_self hpoint
  have hnonneg : ¬ (n : Int) < 0 := not_lt.2 (Int.natCast_nonneg n)
  simp [readNatural, htext, Integer.ofText_ofNat hn, hnonneg]

lemma readNatural_toJson (h : readNatural v = .ok value) :
    readNatural value.toJson = .ok value := by
  have hgives := readNatural_gives h
  cases value with
  | number n =>
    obtain ⟨hnonneg, hn⟩ := readNatural_eq_ok h
    obtain ⟨k, rfl⟩ := Int.eq_ofNat_of_zero_le hnonneg
    exact readNatural_int hn
  | absent | text t | moment m => exact absurd hgives id

/-! ### Dates -/

/-- The text of a date is read as the moment that the zone's clock tells at its instant. -/
theorem readMoment_text {m : Moment} (hm : m.IsTold) (hrange : inRange m.instant)
    (hshown : Moment.IsShown m.instant) :
    readMoment (.text m.text) = .ok (.ok (.moment (.onClock m.instant))) := by
  obtain ⟨-, o, ho, -⟩ := id hm
  have hzone : m.inZone? = some (.onClock m.instant) := by
    simp [Moment.inZone?, ho, hrange, Moment.ofInstant?_eq_some hshown]
  refine readMoment_eq_ok_iff.2 ⟨_, m, _, rfl, Moment.read?_text hm, hzone, ?_, rfl⟩
  rwa [Moment.instant_onClock]

/-- A date that was read is a local time of the zone or one that its clock tells. -/
lemma readMoment_eq_ok (h : readMoment v = .ok (.ok value)) :
    ∃ m : Moment, value = .moment m ∧ m.IsTold ∧ inRange m.instant ∧ Moment.IsShown m.instant ∧
      ((∃ w, m = .ofLocal w) ∨ m = .onClock m.instant) := by
  obtain ⟨t, m, m', -, hm, hm', hrange, rfl⟩ := readMoment_eq_ok_iff.1 h
  have hm := Moment.reads_read? t m hm
  exact ⟨m', rfl, Moment.isTold_of_inZone? hm hm' hrange, hrange,
    Moment.isShown_of_inZone? hm hm' hrange, Moment.eq_of_inZone? hm'⟩

lemma readMoment_toJson (h : readMoment v = .ok (.ok value)) :
    readMoment value.toJson = .ok (.ok value.settled) := by
  obtain ⟨m, rfl, hm, hrange, hshown, -⟩ := readMoment_eq_ok h
  exact readMoment_text hm hrange hshown

/-- A date that the zone's clock does not tell. -/
def Value.IsSkipped (value : Value) : Prop :=
  ∃ w, Zone.IsSkipped w ∧ value = .moment (.ofLocal w)

lemma Value.not_isSkipped_of_settled (h : value.settled = value) : ¬ value.IsSkipped := by
  rintro ⟨w, hw, rfl⟩
  exact Moment.onClock_ofLocal_iff.1 (Value.moment.inj h) hw

lemma readMoment_settled_iff (h : readMoment v = .ok (.ok value)) :
    value.settled = value ↔ ¬ value.IsSkipped := by
  refine ⟨Value.not_isSkipped_of_settled, fun hskipped => ?_⟩
  obtain ⟨m, rfl, -, -, -, ⟨w, rfl⟩ | hclock⟩ := readMoment_eq_ok h
  · have hw : ¬ Zone.IsSkipped w := fun hw => hskipped ⟨w, hw, rfl⟩
    exact congrArg Value.moment (Moment.onClock_ofLocal_iff.2 hw)
  · exact congrArg Value.moment hclock.symm

/-! ### Fields -/

lemma FieldKind.read_toJson {k : FieldKind} (h : k.read v = .ok (.ok value)) :
    k.read value.toJson = .ok (.ok value.settled) := by
  have hgives := FieldKind.read_gives h
  cases k with
  | text most trimmed blank =>
    cases value with
    | text t => exact congrArg Except.ok (readText_toJson (Except.ok.inj h))
    | absent | number n | moment m => exact absurd hgives id
  | kind =>
    cases value with
    | text t => exact congrArg Except.ok (readKind_toJson (Except.ok.inj h))
    | absent | number n | moment m => exact absurd hgives id
  | natural =>
    cases value with
    | number n => exact congrArg Except.ok (readNatural_toJson (Except.ok.inj h))
    | absent | text t | moment m => exact absurd hgives id
  | moment => exact readMoment_toJson h

lemma Field.read_some {f : Field} (hv : v ≠ .null) : f.read (some v) = f.kind.read v := by
  cases v with
  | null => exact absurd rfl hv
  | bool | int | float | text | list | object => rfl

/-- A field whose default it takes itself takes every value that it gave. -/
lemma Field.read_toJson {f : Field} {v? : Option Json}
    (hdefault : ∀ d ∈ f.default?, f.read (some d.toJson) = .ok (.ok d.settled))
    (h : f.read v? = .ok (.ok value)) : f.read (some value.toJson) = .ok (.ok value.settled) := by
  obtain ⟨-, hd⟩ | ⟨-, hnull, rfl⟩ | ⟨v, -, h⟩ := Field.read_eq_ok h
  · exact hdefault value hd
  · simp [Field.read, Value.toJson, Value.settled, hnull]
  · have hvalue : value.toJson ≠ .null := by
      have hgives := FieldKind.read_gives h
      cases value with
      | absent => cases hk : f.kind <;> rw [hk] at hgives <;> exact absurd hgives id
      | text | number | moment => exact nofun
    rw [Field.read_some hvalue]
    exact FieldKind.read_toJson h

/-- A field whose default is settled gives unsettled values for skipped local times only. -/
lemma Field.settled_iff {f : Field} {v? : Option Json} (hdefault : ∀ d ∈ f.default?, d.settled = d)
    (h : f.read v? = .ok (.ok value)) : value.settled = value ↔ ¬ value.IsSkipped := by
  refine ⟨Value.not_isSkipped_of_settled, fun hskipped => ?_⟩
  obtain ⟨-, hd⟩ | ⟨-, -, rfl⟩ | ⟨v, -, h⟩ := Field.read_eq_ok h
  · exact hdefault value hd
  · rfl
  · have hgives := FieldKind.read_gives h
    cases hk : f.kind <;> rw [hk] at h hgives
    case moment => exact (readMoment_settled_iff h).2 hskipped
    all_goals
      cases value with
      | moment => exact absurd hgives id
      | absent | text | number => rfl

/-! ### Skipped local times -/

/-- What gives a skipped local time is a text without an offset. -/
lemma readMoment_isSkipped (h : readMoment v = .ok (.ok value)) (hskipped : value.IsSkipped) :
    ∃ t w, v = .text t ∧ Moment.read? t = some ⟨w, none⟩ ∧ Zone.IsSkipped w ∧
      value = .moment (.ofLocal w) := by
  obtain ⟨t, m, m', rfl, hm, hm', -, rfl⟩ := readMoment_eq_ok_iff.1 h
  obtain ⟨w, hw, heq⟩ := id hskipped
  obtain rfl := Value.moment.inj heq
  obtain ⟨localTime, offset?⟩ := m
  cases offset? with
  | none =>
    obtain rfl : localTime = w := congrArg Moment.localTime (Option.some.inj hm')
    exact ⟨t, localTime, rfl, hm, hw, rfl⟩
  | some o =>
    simp only [Moment.inZone?] at hm'
    split_ifs at hm'
    have hclock := Moment.eq_onClock_of_ofInstant? hm'
    exact absurd hskipped (Value.not_isSkipped_of_settled (congrArg Value.moment hclock.symm))

/-- A field gives a skipped local time for a text without an offset only. -/
lemma Field.isSkipped_of_read {f : Field} {v? : Option Json}
    (hdefault : ∀ d ∈ f.default?, d.settled = d) (h : f.read v? = .ok (.ok value))
    (hskipped : value.IsSkipped) :
    ∃ t w, v? = some (.text t) ∧ Moment.read? t = some ⟨w, none⟩ ∧ Zone.IsSkipped w ∧
      value = .moment (.ofLocal w) := by
  obtain ⟨-, hd⟩ | ⟨-, -, rfl⟩ | ⟨v, hv, h⟩ := Field.read_eq_ok h
  · exact absurd hskipped (Value.not_isSkipped_of_settled (hdefault value hd))
  · exact absurd hskipped (Value.not_isSkipped_of_settled rfl)
  · have hgives := FieldKind.read_gives h
    cases hk : f.kind <;> rw [hk] at h hgives
    case moment =>
      obtain ⟨t, w, rfl, hread⟩ := readMoment_isSkipped h hskipped
      exact ⟨t, w, hv, hread⟩
    all_goals
      obtain ⟨w, -, rfl⟩ := hskipped
      exact absurd hgives id

end CertRegistry.Input
