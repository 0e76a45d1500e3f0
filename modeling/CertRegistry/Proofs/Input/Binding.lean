import CertRegistry.Http.Endpoint
import CertRegistry.Proofs.Input.Rereading

/-!
# Binding field by field

A submission is taken if every declared field takes what the object has for it, and otherwise
refused with the messages of just the fields that do not. Nothing else that the object holds
matters. The values of an accepted submission are accepted again, and give themselves.
-/

namespace CertRegistry

namespace Input

/-- The messages that refuse what an object has for a field, under the name of the field. -/
def Field.refusal? (members : List (Text × Json)) (f : Field) : Option (Text × List Text) :=
  match f.read (Json.member? members f.name) with
  | .ok (.error messages) => some (f.name, messages)
  | _ => none

/-- Values as the members of an object. -/
def Values.toMembers (vs : Values) : List (Text × Json) := vs.map fun p => (p.1, p.2.toJson)

/-- Values with their dates as the zone's clock tells them. -/
def Values.settled (vs : Values) : Values := vs.map fun p => (p.1, p.2.settled)

variable {schema : Schema} {members members' : List (Text × Json)} {vs : Values}
  {outcome : Except Errors Values}

lemma Values.settled_settled (vs : Values) : vs.settled.settled = vs.settled := by
  simp [settled]

/-! ### All fields -/

/-- Only what an object has for the fields matters. -/
lemma Schema.bind_congr
    (h : ∀ f ∈ schema, Json.member? members' f.name = Json.member? members f.name) :
    schema.bind members' = schema.bind members := by
  induction schema with
  | nil => rfl
  | cons f fs ih =>
    obtain ⟨hf, hfs⟩ := List.forall_mem_cons.1 h
    rw [Schema.bind, Schema.bind, hf, ih hfs]

/-- The order of the members of an object with different names does not matter. -/
lemma member?_perm (h : members'.Perm members) (hnames : (members.map Prod.fst).Nodup)
    (name : Text) : Json.member? members' name = Json.member? members name := by
  unfold Json.member?
  induction h with
  | nil => rfl
  | cons p _ ih =>
    rw [List.map_cons, List.nodup_cons] at hnames
    rw [List.lookup_cons, List.lookup_cons, ih hnames.2]
  | swap p q _ =>
    obtain ⟨k, v⟩ := p
    obtain ⟨l, w⟩ := q
    simp only [List.map_cons, List.nodup_cons, List.mem_cons, not_or] at hnames
    have hne : k ≠ l := hnames.1.1
    by_cases hk : name = k
    · simp [List.lookup_cons, hk, beq_false_of_ne hne]
    · simp [List.lookup_cons, beq_false_of_ne hk]
  | trans _ h ih ih' =>
    have hmiddle := (h.map Prod.fst).nodup_iff.2 hnames
    rw [ih hmiddle, ih' hnames]

/-- Every field has given a value under its name. -/
lemma Schema.Takes.exists_of_mem (h : schema.Takes members vs) {f : Field} (hf : f ∈ schema) :
    ∃ value, (f.name, value) ∈ vs ∧ f.Takes members value := by
  induction h with
  | nil => exact absurd hf List.not_mem_nil
  | @cons g p fs vs' hg _ ih =>
    obtain ⟨name, value⟩ := p
    obtain ⟨rfl, htakes⟩ := hg
    rcases List.mem_cons.1 hf with rfl | hf
    · exact ⟨value, List.mem_cons_self, htakes⟩
    · obtain ⟨value', hmem, htakes'⟩ := ih hf
      exact ⟨value', List.mem_cons_of_mem _ hmem, htakes'⟩

lemma Schema.Takes.map_fst (h : schema.Takes members vs) :
    vs.map Prod.fst = schema.map Field.name := by
  induction h with
  | nil => rfl
  | cons hf _ ih => rw [List.map_cons, List.map_cons, hf.1, ih]

lemma Field.refusal?_of_takes {f : Field} {value : Value} (h : f.Takes members value) :
    f.refusal? members = none := by
  rw [Takes] at h
  rw [refusal?, h]

lemma Schema.Takes.refusals_eq_nil (h : schema.Takes members vs) :
    schema.filterMap (Field.refusal? members) = [] := by
  induction h with
  | nil => rfl
  | cons hf _ ih => rw [List.filterMap_cons_none (Field.refusal?_of_takes hf.2), ih]

/-- Refused is what some field refuses, with the messages of all that do. -/
lemma Schema.bind_eq_error {es : Errors} (h : schema.bind members = .ok (.error es)) :
    es = schema.filterMap (Field.refusal? members) ∧ es ≠ [] := by
  induction schema generalizing es with
  | nil => cases Except.ok.inj h
  | cons f fs ih =>
    simp only [Schema.bind, CertRegistry.bind_eq_ok_iff, pure_eq_ok_iff] at h
    obtain ⟨first, hfirst, rest, hrest, h⟩ := h
    cases first with
    | ok value =>
      rw [List.filterMap_cons_none (Field.refusal?_of_takes hfirst)]
      cases rest with
      | ok vs => cases h
      | error es' =>
        obtain rfl := Except.error.inj h
        exact ih hrest
    | error e =>
      have hrefused : f.refusal? members = some (f.name, e) := by rw [Field.refusal?, hfirst]
      rw [List.filterMap_cons_some hrefused]
      cases rest with
      | ok vs =>
        obtain rfl := Except.error.inj h
        rw [(Schema.bind_eq_ok_iff.1 hrest).refusals_eq_nil]
        exact ⟨rfl, List.cons_ne_nil _ _⟩
      | error es' =>
        obtain rfl := Except.error.inj h
        rw [← (ih hrest).1]
        exact ⟨rfl, List.cons_ne_nil _ _⟩

/-- A submission is accepted just if every field takes what there is for it. -/
lemma Schema.exists_eq_ok_iff (h : schema.bind members = .ok outcome) :
    (∃ vs, outcome = .ok vs) ↔ ∀ f ∈ schema, ∃ value, f.Takes members value := by
  constructor
  · rintro ⟨vs, rfl⟩ f hf
    obtain ⟨value, -, htakes⟩ := (Schema.bind_eq_ok_iff.1 h).exists_of_mem hf
    exact ⟨value, htakes⟩
  · intro htakes
    cases outcome with
    | ok vs => exact ⟨vs, rfl⟩
    | error es =>
      obtain ⟨hes, hne⟩ := Schema.bind_eq_error h
      have hnil : schema.filterMap (Field.refusal? members) = [] := by
        rw [List.filterMap_eq_nil_iff]
        intro f hf
        obtain ⟨value, hvalue⟩ := htakes f hf
        exact Field.refusal?_of_takes hvalue
      exact absurd (hes.trans hnil) hne

/-! ### Accepted values once more -/

/-- Where nothing was given, the value is the default. -/
lemma Field.default?_of_read_none {f : Field} {value : Value}
    (h : f.read none = .ok (.ok value)) : f.default? = some value := by
  obtain ⟨-, hd⟩ | ⟨hnull, -, -⟩ | ⟨v, hv, -⟩ := Field.read_eq_ok h
  · exact hd
  · cases hnull
  · cases hv

/-- As the names of the fields differ, every value is the member of its own field. -/
lemma Schema.Takes.member? (h : schema.Takes members vs) (hnames : (schema.map Field.name).Nodup)
    {f : Field} {p : Text × Value} (hp : (f, p) ∈ schema.zip vs) :
    Json.member? vs.toMembers f.name = some p.2.toJson := by
  induction h with
  | nil => exact absurd hp List.not_mem_nil
  | @cons g q fs vs' hg _ ih =>
    obtain ⟨name, value⟩ := q
    obtain ⟨rfl, -⟩ := hg
    rw [List.map_cons, List.nodup_cons] at hnames
    rw [Json.member?, Values.toMembers, List.map_cons, List.lookup_cons]
    rw [List.zip_cons_cons, List.mem_cons] at hp
    rcases hp with heq | hp
    · obtain ⟨rfl, rfl⟩ := Prod.mk.inj heq
      simp
    · have hmem : f ∈ fs := (List.of_mem_zip hp).1
      have hne : f.name ≠ g.name := fun heq => hnames.1 (heq ▸ List.mem_map_of_mem hmem)
      simp only [beq_false_of_ne hne]
      exact ih hnames.2 hp

/-- Accepted values are accepted again, and settled. -/
lemma Schema.Takes.toMembers (h : schema.Takes members vs)
    (hnames : (schema.map Field.name).Nodup)
    (hdefault : ∀ f ∈ schema, ∀ d ∈ f.default?, f.read (some d.toJson) = .ok (.ok d.settled)) :
    schema.Takes vs.toMembers vs.settled := by
  rw [Schema.Takes, Values.settled, List.forall₂_map_right_iff]
  have hmember {f : Field} {p : Text × Value} := h.member? hnames (f := f) (p := p)
  rw [Schema.Takes, List.forall₂_iff_zip] at h
  rw [List.forall₂_iff_zip]
  refine ⟨h.1, fun {f p} hp => ?_⟩
  obtain ⟨hname, htakes⟩ := h.2 hp
  refine ⟨hname, ?_⟩
  rw [Field.Takes, hmember hp]
  exact Field.read_toJson (hdefault f (List.of_mem_zip hp).1) htakes

/-- The fields of each submission have different names. -/
lemma names_nodup : ∀ schema ∈ schemas, (schema.map Field.name).Nodup := by
  decide

/-- Every field takes its own default and has no date for one. -/
lemma default_reread : ∀ schema ∈ schemas, ∀ f ∈ schema, ∀ d ∈ f.default?,
    f.read (some d.toJson) = .ok (.ok d.settled) ∧ d.settled = d := by
  have hblank : readText (some 150) true true (.text []) = .ok (.text []) := rfl
  have hzero : readNatural (.int 0) = .ok (.number 0) := rfl
  simp [schemas, certificateSchema, changeSchema, requestSchema, tenantRequestSchema,
    rejectionSchema, shortText, kindField, userIdField, reasonField, expiresField, Field.read,
    FieldKind.read, Value.toJson, Value.settled, hblank, hzero]

/-- An accepted submission is accepted again, and settled. -/
lemma Schema.bind_toMembers (hschema : schema ∈ schemas) (h : schema.bind members = .ok (.ok vs)) :
    schema.bind vs.toMembers = .ok (.ok vs.settled) :=
  Schema.bind_eq_ok_iff.2 <| (Schema.bind_eq_ok_iff.1 h).toMembers (names_nodup schema hschema)
    fun f hf d hd => (default_reread schema hschema f hf d hd).1

/-- Only local times that the zone skips are not settled. -/
lemma Schema.settled_iff (hschema : schema ∈ schemas) (h : schema.bind members = .ok (.ok vs)) :
    ∀ p ∈ vs, p.2.settled = p.2 ↔ ¬ p.2.IsSkipped := by
  intro p hp
  obtain ⟨f, hf, -, hvalue⟩ := (Schema.bind_eq_ok_iff.1 h).exists_field hp
  exact Field.settled_iff (fun d hd => (default_reread schema hschema f hf d hd).2) hvalue

/-- A skipped local time was given as one. -/
lemma Schema.isSkipped_given (hschema : schema ∈ schemas) (h : schema.bind members = .ok (.ok vs))
    {p : Text × Value} (hp : p ∈ vs) (hskipped : p.2.IsSkipped) :
    ∃ t w, Json.member? members p.1 = some (.text t) ∧ Moment.read? t = some ⟨w, none⟩ ∧
      Zone.IsSkipped w ∧ p.2 = .moment (.ofLocal w) := by
  obtain ⟨f, hf, hname, hvalue⟩ := (Schema.bind_eq_ok_iff.1 h).exists_field hp
  rw [hname]
  exact Field.isSkipped_of_read (fun d hd => (default_reread schema hschema f hf d hd).2) hvalue
    hskipped

end Input

/-! ### The answer -/

open Input

/-- The submission that a route reads. -/
def Route.schema? : Route → Option Schema
  | newCertificate => some certificateSchema
  | updateCertificate _ => some changeSchema
  | newRequest => some requestSchema
  | rejectRequest _ => some rejectionSchema
  | submit => some tenantRequestSchema
  | _ => none

/-- A submission that is refused is answered with the messages, and nothing else is done. -/
lemma Endpoint.answerRoute_refused {ctx : Context} {c : Call} {r : Route} {s : Store}
    {schema : Schema} {members : List (Text × Json)} {es : Errors}
    (hschema : r.schema? = some schema) (hdenial : denial? c r = none) (hallows : allows r c.method)
    (hbody : readBody ctx.settings c.declaredSize c.body = .ok members)
    (h : schema.bind members = .ok (.error es)) :
    answerRoute ctx c r s = { value := .refused 400 (errorsText es), store := s } := by
  have hperform : perform ctx c s r = unchanged s (.ok (.refused 400 (errorsText es))) := by
    have hbound (next : Values → Outcome) : withBody schema ctx c s next =
        unchanged s (.ok (.refused 400 (errorsText es))) := by
      simp [withBody, hbody, h, bind, Except.bind]
    cases r with
    | newCertificate | updateCertificate | newRequest | rejectRequest | submit =>
      obtain rfl := Option.some.inj hschema
      exact hbound _
    | certificates | deleteCertificate | revokeCertificate | requests | approveRequest | download
    | ownCertificate | ownRequests => exact absurd hschema nofun
  simp [answerRoute, hdenial, hallows, hperform, unchanged, conclude]

/-! ### Binding -/

/-- A submission is bound field by field. The outcome depends on nothing but what the object has for
the declared fields. It is accepted just if every field takes what there is for it, and else
answered with the messages of the fields that do not, in the order of declaration. Accepted values
are those of the declared fields, defaults where nothing was given; submitted again they are
accepted and give themselves, only that a local time that the zone skips becomes what the clock
tells at its instant, which is settled then. -/
theorem Input.Schema.bind_fieldwise {schema : Schema} (hschema : schema ∈ schemas)
    {members : List (Text × Json)} {outcome : Except Errors Values}
    (h : schema.bind members = .ok outcome) :
    (∀ members', (∀ f ∈ schema, Json.member? members' f.name = Json.member? members f.name) →
      schema.bind members' = .ok outcome) ∧
    (∀ members', members'.Perm members → (members.map Prod.fst).Nodup →
      schema.bind members' = .ok outcome) ∧
    ((∃ vs, outcome = .ok vs) ↔ ∀ f ∈ schema, ∃ value, f.Takes members value) ∧
    (∀ es, outcome = .error es → es = schema.filterMap (Field.refusal? members) ∧ es ≠ [] ∧
      ∀ ctx c r s, Route.schema? r = some schema → Endpoint.denial? c r = none →
        Endpoint.allows r c.method → readBody ctx.settings c.declaredSize c.body = .ok members →
        Endpoint.answerRoute ctx c r s =
          { value := .refused 400 (Text.join "; " (es.map errorText)), store := s }) ∧
    (∀ vs, outcome = .ok vs → vs.map Prod.fst = schema.map Field.name ∧
      (∀ f ∈ schema, ∃ value, (f.name, value) ∈ vs ∧ f.Takes members value ∧
        (Json.member? members f.name = none → f.default? = some value)) ∧
      schema.bind vs.toMembers = .ok (.ok vs.settled) ∧
      schema.bind vs.settled.toMembers = .ok (.ok vs.settled) ∧
      ∀ p ∈ vs, p.2.settled = p.2 ↔ ¬ p.2.IsSkipped) := by
  refine ⟨fun members' hmembers => (bind_congr hmembers).trans h,
    fun members' hperm hkeys => ?_, exists_eq_ok_iff h, ?_, ?_⟩
  · exact (bind_congr fun f _ => member?_perm hperm hkeys f.name).trans h
  · rintro es rfl
    obtain ⟨hes, hne⟩ := bind_eq_error h
    exact ⟨hes, hne, fun ctx c r s hroute hdenial hallows hbody =>
      Endpoint.answerRoute_refused hroute hdenial hallows hbody h⟩
  · rintro vs rfl
    have htakes := bind_eq_ok_iff.1 h
    have hagain := bind_toMembers hschema h
    refine ⟨htakes.map_fst, fun f hf => ?_, hagain, ?_, settled_iff hschema h⟩
    · obtain ⟨value, hmem, hvalue⟩ := htakes.exists_of_mem hf
      refine ⟨value, hmem, hvalue, fun hnone => ?_⟩
      rw [Field.Takes, hnone] at hvalue
      exact Field.default?_of_read_none hvalue
    · have hthird := bind_toMembers hschema hagain
      rwa [vs.settled_settled] at hthird

/-- A change of the end to a local time of the hour that the summer of 1986 began by skipping. -/
def skippedChange : List (Text × Json) :=
  [("name", .text "n"), ("expiration_date", .text "1986-05-04T02:30:00")]

/-- What is taken from it. -/
def skippedValues : Values :=
  [("name", .text "n"), ("expiration_date", .moment (.ofLocal (utc 1986 5 4 2 30)))]

lemma isSkipped_summer : Zone.IsSkipped (utc 1986 5 4 2 30) := by
  by_contra h
  exact absurd (Zone.offsetAt_localOffset_iff.2 h) (by decide)

lemma bind_skippedChange : changeSchema.bind skippedChange = .ok (.ok skippedValues) := rfl

theorem skippedChange_settled :
    changeSchema ∈ schemas ∧ changeSchema.bind skippedChange = .ok (.ok skippedValues) ∧
      changeSchema.bind skippedValues.toMembers = .ok (.ok skippedValues.settled) ∧
      changeSchema.bind skippedValues.settled.toMembers = .ok (.ok skippedValues.settled) := by
  have hschema : changeSchema ∈ schemas := by simp [schemas]
  obtain ⟨-, -, -, -, haccepted⟩ := Input.Schema.bind_fieldwise hschema bind_skippedChange
  obtain ⟨-, -, hagain, hthird, -⟩ := haccepted skippedValues rfl
  exact ⟨hschema, bind_skippedChange, hagain, hthird⟩

/-- A skipped local time does not give itself when it is submitted again. -/
theorem skippedChange_not_rebound :
    changeSchema.bind skippedChange = .ok (.ok skippedValues) ∧
      changeSchema.bind skippedValues.toMembers ≠ .ok (.ok skippedValues) := by
  refine ⟨bind_skippedChange, fun h => ?_⟩
  have hschema : changeSchema ∈ schemas := by simp [schemas]
  rw [Schema.bind_toMembers hschema bind_skippedChange] at h
  have hsettled : skippedValues.settled = skippedValues := Except.ok.inj (Except.ok.inj h)
  simp [Values.settled, skippedValues, Value.settled, Moment.onClock_ofLocal_iff,
    isSkipped_summer] at hsettled

end CertRegistry
