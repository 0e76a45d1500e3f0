import CertRegistry.Proofs.Input.Schema

/-!
# What a submission gives

The values of a submission that was accepted keep what their fields declare: a text is trimmed and
no longer than it may be, a kind is a declared one, and what stands for a missing value is held to
the same. So who reads an accepted submission need not look at the JSON that it came from.
-/

namespace CertRegistry

namespace Text

/-- Trimming a text twice is trimming it once. -/
lemma strip_strip (t : Text) : t.strip.strip = t.strip := by
  have htrim : ∀ u : Text, u.strip = (u.dropWhile isBlank).rdropWhile isBlank := fun _ => rfl
  have hfront : t.strip.dropWhile isBlank = t.strip := by
    rw [List.dropWhile_eq_self_iff]
    intro hpos hblank
    -- the first code point of what is left is the first one that was not dropped
    have hlead : t.strip <+: t.dropWhile isBlank := List.rdropWhile_prefix _ _
    have hpos' := hpos.trans_le hlead.length_le
    rw [hlead.getElem hpos] at hblank
    exact List.dropWhile_get_zero_not isBlank t hpos' hblank
  rw [htrim t.strip, hfront, htrim t, List.rdropWhile_idempotent]

end Text

namespace Input

/-- The values that fields of a kind give. -/
def FieldKind.Gives : FieldKind → Value → Prop
  | .text most trimmed blank, .text t =>
    (∀ n ∈ most, t.length ≤ n) ∧ (trimmed → t.strip = t) ∧ (blank = false → t ≠ [])
  | .kind, .text t => t ∈ kindNames
  | .natural, .number n => 0 ≤ n
  | .moment, .moment _ => True
  | _, _ => False

/-- The values that a field gives; where it may be null it may give none. -/
def Field.Gives (f : Field) (value : Value) : Prop :=
  f.kind.Gives value ∨ (f.nullable ∧ value = .absent)

/-- The values that a schema gives, one for each of its fields. -/
def Schema.Gives (schema : Schema) (vs : Values) : Prop :=
  List.Forall₂ (fun f p => p.1 = f.name ∧ f.Gives p.2) schema vs

variable {v : Json} {value : Value} {schema : Schema} {vs : Values} {name : Text}

/-! ### Reading -/

lemma textFaults_eq_nil {most : Option Nat} {t : Text} (h : textFaults most t = []) :
    ∀ n ∈ most, t.length ≤ n := by
  intro n hn
  obtain rfl := Option.mem_def.1 hn
  by_contra hlong
  simp [textFaults, not_le.1 hlong] at h

lemma readText_gives {most : Option Nat} {trimmed blank : Bool}
    (h : readText most trimmed blank v = .ok value) :
    (FieldKind.text most trimmed blank).Gives value := by
  unfold readText at h
  split at h
  · exact absurd h nofun
  · next t _ =>
    by_cases hblank : isBlankText trimmed t
    · rw [if_pos hblank] at h
      cases blank with
      | false => exact absurd h nofun
      | true =>
        obtain rfl := Except.ok.inj h
        exact ⟨fun _ _ => Nat.zero_le _, fun _ => rfl, nofun⟩
    · rw [if_neg hblank] at h
      simp only [isBlankText, decide_eq_true_eq] at hblank
      dsimp only at h
      split at h
      · next hfaults =>
        obtain rfl := Except.ok.inj h
        refine ⟨textFaults_eq_nil hfaults, ?_, fun _ => hblank⟩
        rintro rfl
        exact t.strip_strip
      · exact absurd h nofun

lemma readKind_gives (h : readKind v = .ok value) : FieldKind.kind.Gives value := by
  unfold readKind at h
  split_ifs at h with hkind
  obtain rfl := Except.ok.inj h
  exact hkind

lemma readNatural_gives (h : readNatural v = .ok value) : FieldKind.natural.Gives value := by
  unfold readNatural at h
  extract_lets long at h
  split_ifs at h
  split at h
  · exact absurd h nofun
  · next n hn =>
    split_ifs at h with hnegative
    obtain rfl := Except.ok.inj h
    exact not_lt.1 hnegative

lemma readMoment_gives (h : readMoment v = .ok (.ok value)) : FieldKind.moment.Gives value := by
  obtain ⟨t, m, m', -, -, -, -, rfl⟩ := readMoment_eq_ok_iff.1 h
  trivial

lemma FieldKind.read_gives {k : FieldKind} (h : k.read v = .ok (.ok value)) : k.Gives value := by
  cases k with
  | text most trimmed blank => exact readText_gives (Except.ok.inj h)
  | kind => exact readKind_gives (Except.ok.inj h)
  | natural => exact readNatural_gives (Except.ok.inj h)
  | moment => exact readMoment_gives h

/-- A field whose default keeps what it declares gives no other values. -/
lemma Field.read_gives {f : Field} {v? : Option Json} (hdefault : ∀ d ∈ f.default?, f.Gives d)
    (h : f.read v? = .ok (.ok value)) : f.Gives value := by
  obtain ⟨-, hd⟩ | ⟨-, hnull, rfl⟩ | ⟨v, -, h⟩ := Field.read_eq_ok h
  · exact hdefault value hd
  · exact Or.inr ⟨hnull, rfl⟩
  · exact Or.inl (FieldKind.read_gives h)

lemma Schema.bind_gives {members : List (Text × Json)}
    (hdefault : ∀ f ∈ schema, ∀ d ∈ f.default?, f.Gives d)
    (h : schema.bind members = .ok (.ok vs)) : schema.Gives vs := by
  have htakes := Schema.bind_eq_ok_iff.1 h
  clear h
  induction htakes with
  | nil => exact .nil
  | cons hf _ ih =>
    obtain ⟨hhead, htail⟩ := List.forall_mem_cons.1 hdefault
    exact .cons ⟨hf.1, Field.read_gives hhead hf.2⟩ (ih htail)

/-- The submissions of the registry. -/
def schemas : List Schema :=
  [certificateSchema, changeSchema, requestSchema, tenantRequestSchema, rejectionSchema]

/-- Every default passes the check of its own field. -/
lemma default_gives : ∀ schema ∈ schemas, ∀ f ∈ schema, ∀ d ∈ f.default?, f.Gives d := by
  simp [schemas, certificateSchema, changeSchema, requestSchema, tenantRequestSchema,
    rejectionSchema, shortText, kindField, userIdField, reasonField, expiresField, Field.Gives,
    FieldKind.Gives, Text.strip, Text.trim]

/-! ### Looking values up -/

/-- The fields of a submission have different names, so a value is found under the name of its
field. -/
lemma Schema.Gives.lookup (h : schema.Gives vs) (hnames : (schema.map Field.name).Nodup)
    {f : Field} (hf : f ∈ schema) : ∃ value, vs.lookup f.name = some value ∧ f.Gives value := by
  induction h with
  | nil => exact absurd hf List.not_mem_nil
  | @cons g p fs vs' hp _ ih =>
    obtain ⟨name, value⟩ := p
    obtain ⟨rfl, hvalue⟩ := hp
    rw [List.map_cons, List.nodup_cons] at hnames
    rcases List.mem_cons.1 hf with rfl | hf
    · exact ⟨value, by simp, hvalue⟩
    · have hne : f.name ≠ g.name := fun heq => hnames.1 (heq ▸ List.mem_map_of_mem hf)
      obtain ⟨value', hlookup, hvalue'⟩ := ih hnames.2 hf
      refine ⟨value', ?_, hvalue'⟩
      rw [List.lookup_cons, beq_false_of_ne hne]
      exact hlookup

/-- A text that an accepted submission has for a field. -/
lemma Schema.Gives.text (h : schema.Gives vs) (hnames : (schema.map Field.name).Nodup)
    {most : Option Nat} {trimmed blank : Bool} {default? : Option Value}
    (hf : ⟨name, .text most trimmed blank, default?, false⟩ ∈ schema) :
    (FieldKind.text most trimmed blank).Gives (.text (vs.text name)) := by
  obtain ⟨value, hlookup, hvalue | ⟨hnull, -⟩⟩ := h.lookup hnames hf
  · cases value with
    | text t => simpa only [Values.text, hlookup] using hvalue
    | absent | number n | moment m => exact absurd hvalue id
  · exact absurd hnull Bool.false_ne_true

lemma Schema.Gives.length_le (h : schema.Gives vs) (hnames : (schema.map Field.name).Nodup)
    {most : Nat} {trimmed blank : Bool} {default? : Option Value}
    (hf : ⟨name, .text (some most) trimmed blank, default?, false⟩ ∈ schema) :
    (vs.text name).length ≤ most :=
  (h.text hnames hf).1 most rfl

/-- The kind that an accepted submission has is a declared one. -/
lemma Schema.Gives.kind (h : schema.Gives vs) (hnames : (schema.map Field.name).Nodup)
    (hf : kindField ∈ schema) : vs.text "type" ∈ kindNames := by
  obtain ⟨value, hlookup, hvalue | ⟨hnull, -⟩⟩ := h.lookup hnames hf
  · cases value with
    | text t =>
      have hlookup : vs.lookup (Text.ofString "type") = some (.text t) := hlookup
      rw [Values.text, hlookup]
      exact hvalue
    | absent | number n | moment m => exact absurd hvalue id
  · exact absurd hnull Bool.false_ne_true

/-- A reason is not blank. -/
lemma reason_strip_ne_nil (h : rejectionSchema.Gives vs) : (vs.text "reason").strip ≠ [] := by
  have hreason := h.text (List.nodup_singleton _) (List.mem_singleton_self reasonField)
  rw [hreason.2.1 rfl]
  exact hreason.2.2 rfl

end Input

end CertRegistry
