import CertRegistry.Input.Schema
import CertRegistry.Proofs.Store.Operations
import CertRegistry.Proofs.Time.Reading

/-!
# The values of a submission

A submission is accepted if every field takes what there is for it. A date that is given so can be
shown: it was read from a text, and either it has been shown in the zone already or it is a local
time there. Fields of other kinds give no dates.
-/

namespace CertRegistry

/-- A local time is taken as one of the zone, any other moment is shown there. -/
lemma Moment.isShown_of_inZone? {m m' : Moment} (hm : m.localTime < timeEnd)
    (h : m.inZone? = some m') (hrange : inRange m'.instant) : IsShown m'.instant := by
  unfold inZone? at h
  split at h
  · obtain rfl := Option.some.inj h
    exact isShown_ofLocal hm hrange
  · split_ifs at h
    exact isShown_of_eq_some h

namespace Input

variable {v : Json} {value : Value}

/-! ### What gives a value -/

lemma readMoment_eq_ok_iff : readMoment v = .ok (.ok value) ↔ ∃ t m m', v = .text t ∧
    Moment.read? t = some m ∧ m.inZone? = some m' ∧ inRange m'.instant ∧ value = .moment m' := by
  constructor
  · intro h
    unfold readMoment at h
    split at h
    · next t =>
      split at h
      · exact absurd h nofun
      · next m hm =>
        split at h
        · exact absurd h nofun
        · next m' hm' =>
          split_ifs at h with hrange
          exact ⟨t, m, m', rfl, hm, hm', hrange, (Except.ok.inj (Except.ok.inj h)).symm⟩
    · exact absurd h nofun
  · rintro ⟨t, m, m', rfl, hm, hm', hrange, rfl⟩
    simp [readMoment, hm, hm', hrange]

/-- A value of a field is its default where nothing was given, no value where null was, and else
what its kind reads. -/
lemma Field.read_eq_ok {f : Field} {v? : Option Json} (h : f.read v? = .ok (.ok value)) :
    (v? = none ∧ f.default? = some value) ∨ (v? = some .null ∧ f.nullable ∧ value = .absent) ∨
      ∃ v, v? = some v ∧ f.kind.read v = .ok (.ok value) := by
  unfold Field.read at h
  split at h
  · split at h
    · next d hd =>
      obtain rfl := Except.ok.inj (Except.ok.inj h)
      exact Or.inl ⟨rfl, hd⟩
    · exact absurd (Except.ok.inj h) nofun
  · split_ifs at h with hnull
    · obtain rfl := Except.ok.inj (Except.ok.inj h)
      exact Or.inr (Or.inl ⟨rfl, hnull, rfl⟩)
    · exact absurd (Except.ok.inj h) nofun
  · next v _ => exact Or.inr (Or.inr ⟨v, rfl, h⟩)

/-- A field takes what an object has for it, and gives a value. -/
def Field.Takes (f : Field) (members : List (Text × Json)) (value : Value) : Prop :=
  f.read (Json.member? members f.name) = .ok (.ok value)

/-- The values that the fields give for an object, one for each field. -/
def Schema.Takes (schema : Schema) (members : List (Text × Json)) (vs : Values) : Prop :=
  List.Forall₂ (fun f p => p.1 = f.name ∧ f.Takes members p.2) schema vs

variable {schema : Schema} {members : List (Text × Json)} {vs : Values}

lemma Schema.bind_eq_ok_iff : schema.bind members = .ok (.ok vs) ↔ schema.Takes members vs := by
  induction schema generalizing vs with
  | nil =>
    constructor
    · intro h
      obtain rfl := Except.ok.inj (Except.ok.inj h)
      exact .nil
    · rintro ⟨⟩
      rfl
  | cons f fs ih =>
    simp only [Schema.bind, CertRegistry.bind_eq_ok_iff, pure_eq_ok_iff]
    constructor
    · rintro ⟨first, hfirst, rest, hrest, h⟩
      cases first with
      | error e => cases rest <;> cases h
      | ok value =>
        cases rest with
        | error es => cases h
        | ok vs' =>
          obtain rfl := Except.ok.inj h
          exact .cons ⟨rfl, hfirst⟩ (ih.1 hrest)
    · rintro (_ | ⟨⟨hname, htakes⟩, hrest⟩)
      exact ⟨_, htakes, _, ih.2 hrest, by simp [← hname]⟩

/-- Every value is that of a field. -/
lemma Schema.Takes.exists_field (h : schema.Takes members vs) {p : Text × Value} (hp : p ∈ vs) :
    ∃ f ∈ schema, p.1 = f.name ∧ f.Takes members p.2 := by
  induction h with
  | nil => exact absurd hp List.not_mem_nil
  | @cons g q fs vs' hg _ ih =>
    rcases List.mem_cons.1 hp with rfl | hp
    · exact ⟨g, List.mem_cons_self, hg⟩
    · obtain ⟨f, hf, htakes⟩ := ih hp
      exact ⟨f, List.mem_cons_of_mem _ hf, htakes⟩

/-! ### Dates -/

/-- A date that can be shown, or no date. -/
def Value.IsShown : Value → Prop
  | .moment m => Moment.IsShown m.instant
  | _ => True

lemma readText_isShown {most : Option Nat} {trimmed blank : Bool}
    (h : readText most trimmed blank v = .ok value) : value.IsShown := by
  unfold readText at h
  split at h
  · exact absurd h nofun
  · dsimp only at h
    split at h
    · split at h
      · obtain rfl := Except.ok.inj h
        trivial
      · exact absurd h nofun
    · split at h
      · obtain rfl := Except.ok.inj h
        trivial
      · exact absurd h nofun

lemma readKind_isShown (h : readKind v = .ok value) : value.IsShown := by
  unfold readKind at h
  split_ifs at h
  obtain rfl := Except.ok.inj h
  trivial

lemma readNatural_isShown (h : readNatural v = .ok value) : value.IsShown := by
  unfold readNatural at h
  extract_lets long at h
  split_ifs at h
  split at h
  · exact absurd h nofun
  · split_ifs at h
    obtain rfl := Except.ok.inj h
    trivial

lemma readMoment_isShown (h : readMoment v = .ok (.ok value)) : value.IsShown := by
  obtain ⟨t, m, m', rfl, hm, hm', hrange, rfl⟩ := readMoment_eq_ok_iff.1 h
  exact Moment.isShown_of_inZone? (Moment.reads_read? t m hm) hm' hrange

/-- A field whose default can be shown gives values that can be shown. -/
lemma Field.read_isShown {f : Field} {v? : Option Json}
    (hdefault : ∀ value ∈ f.default?, value.IsShown) (h : f.read v? = .ok (.ok value)) :
    value.IsShown := by
  obtain ⟨-, hd⟩ | ⟨-, -, rfl⟩ | ⟨v, -, h⟩ := Field.read_eq_ok h
  · exact hdefault value hd
  · trivial
  · cases hkind : f.kind <;> rw [hkind] at h
    · exact readText_isShown (Except.ok.inj h)
    · exact readKind_isShown (Except.ok.inj h)
    · exact readNatural_isShown (Except.ok.inj h)
    · exact readMoment_isShown h

lemma Schema.bind_isShown (hdefault : ∀ f ∈ schema, ∀ value ∈ f.default?, value.IsShown)
    (h : schema.bind members = .ok (.ok vs)) : ∀ p ∈ vs, p.2.IsShown := by
  intro p hp
  obtain ⟨f, hf, -, hvalue⟩ := (Schema.bind_eq_ok_iff.1 h).exists_field hp
  exact Field.read_isShown (hdefault f hf) hvalue

lemma Values.moment?_isShown (hvs : ∀ p ∈ vs, p.2.IsShown) {name : Text}
    {m : Moment} (h : vs.moment? name = some m) : Moment.IsShown m.instant := by
  unfold Values.moment? at h
  split at h
  · next m' hm =>
    obtain rfl := Option.some.inj h
    obtain ⟨front, back, rfl, -⟩ := List.lookup_eq_some_iff.1 hm
    exact hvs (name, .moment m') (by simp)
  · exact absurd h nofun

end Input

end CertRegistry
