import CertRegistry.Proofs.Step.Echo
import CertRegistry.Proofs.Store.Fault

/-!
# Storing what was accepted

An administrator may record a certificate or make a request by a body whose fields are accepted.
Then exactly one row is appended, and it holds the values that were taken. The only accepted value
that a column cannot hold is the id of a user past the largest number of the column: the fields have
no upper bound for it, so that the storage fails where the submission ought to have been refused.
-/

namespace CertRegistry

open Moment (IsShown)

/-! ### Accepted values -/

namespace Input

/-- The certificate that accepted values describe, with an owner. -/
def Values.certificate (vs : Values) (ownerId : Nat) : Certificate where
  name := vs.text "name"
  kind := .ofText (vs.text "type")
  status := .valid
  owner := vs.text "owner"
  ownerId
  content := vs.text "content"
  issued := (vs.moment? "issued_date").map (·.instant)
  expires := ((vs.moment? "expiration_date").map (·.instant)).getD 0

/-- The request that accepted values describe, for a user. -/
def Values.request (vs : Values) (userId : Nat) : CertificateRequest where
  userName := vs.text "user_name"
  userId
  kind := .ofText (vs.text "type")
  status := .pending
  reason := vs.text "reason"

variable {schema : Schema} {vs : Values}

/-- The dates of a certificate can be shown if those that describe it can. -/
lemma Values.certificate_isShown (h : ∀ p ∈ vs, p.2.IsShown) (ownerId : Nat) :
    (∀ t ∈ (vs.certificate ownerId).issued, IsShown t) ∧
      IsShown (vs.certificate ownerId).expires := by
  constructor
  · intro t ht
    obtain ⟨m, hm, rfl⟩ := Option.map_eq_some_iff.1 ht
    exact moment?_isShown h hm
  · cases hm : vs.moment? "expiration_date" with
    | none => simpa [certificate, hm] using Moment.isShown_iff.2 (by decide)
    | some m => simpa [certificate, hm] using moment?_isShown h hm

/-- The id of a user that was accepted is a natural number. -/
lemma Schema.Gives.exists_number (h : schema.Gives vs) (hnames : (schema.map Field.name).Nodup)
    (name : Text) (hf : userIdField name ∈ schema) : ∃ n : ℕ, vs.number name = n := by
  obtain ⟨value, hlookup, hvalue | ⟨hnull, -⟩⟩ := h.lookup hnames hf
  · cases value with
    | number n =>
      have hlookup : vs.lookup name = some (.number n) := hlookup
      refine ⟨n.toNat, ?_⟩
      rw [Values.number, hlookup]
      exact (Int.toNat_of_nonneg hvalue).symm
    | absent | text t | moment m => exact absurd hvalue id
  · exact absurd hnull Bool.false_ne_true

/-- The end of a certificate that was accepted is there. -/
lemma Schema.Gives.exists_moment (h : schema.Gives vs) (hnames : (schema.map Field.name).Nodup)
    (hf : expiresField ∈ schema) : ∃ m, vs.moment? "expiration_date" = some m := by
  obtain ⟨value, hlookup, hvalue | ⟨hnull, -⟩⟩ := h.lookup hnames hf
  · cases value with
    | moment m =>
      have hlookup : vs.lookup (Text.ofString "expiration_date") = some (.moment m) := hlookup
      exact ⟨m, by rw [Values.moment?, hlookup]⟩
    | absent | text t | number n => exact absurd hvalue id
  · exact absurd hnull Bool.false_ne_true

end Input

/-! ### Storing them -/

/-- A table with one row more, that was made at a time. -/
structure Table.Gains {α : Type} (t u : Table α) (now : Instant) (a : α) : Prop where
  rows : u.rows = t.rows ++ [⟨t.lastId + 1, now, now, a⟩]
  lastId : u.lastId = t.lastId + 1

/-- Whether a new row that names a user can be stored: the storage can be reached and does not break
down, the table has an id left, and the columns can hold the time now and the id of the user. -/
structure Context.CanStore (ctx : Context) (site : FaultSite) (lastId userId : Nat) : Prop where
  fault : ∀ f ∈ ctx.fault, f.site ≠ site
  debug : ctx.settings.debug.isSome
  clock : inRange ctx.clock.instant
  room : lastId < maxColumn
  user : userId ≤ maxColumn

variable {ctx : Context} {s : Store}

lemma Context.canStore_iff {α : Type} {site : FaultSite} {t : Table α} {x : Except Failure α}
    {a : α} {userId : ℕ} (hx : ∀ b, x = .ok b ↔ userId ≤ maxColumn ∧ b = a)
    {P : Row α → Table α → Prop} :
    (ctx.pass site = .ok () ∧ ctx.settings.debug.isSome ∧ inRange ctx.clock.instant ∧
      ∃ b row u, x = .ok b ∧ t.append? ctx.clock.instant b = some (row, u) ∧ P row u) ↔
    ctx.CanStore site t.lastId userId ∧
      ∃ row u, t.append? ctx.clock.instant a = some (row, u) ∧ P row u := by
  constructor
  · rintro ⟨hpass, hdebug, hclock, b, row, u, hb, happ, hP⟩
    obtain ⟨huser, rfl⟩ := (hx b).1 hb
    exact ⟨⟨pass_eq_ok_iff.1 hpass, hdebug, hclock, (Table.append?_eq_some_iff.1 happ).1, huser⟩,
      row, u, happ, hP⟩
  · rintro ⟨hstore, row, u, happ, hP⟩
    exact ⟨pass_eq_ok_iff.2 hstore.fault, hstore.debug, hstore.clock, a, row, u,
      (hx a).2 ⟨hstore.user, rfl⟩, happ, hP⟩

/-! ### Submissions -/

/-- The values of the body of a call, where a schema accepts it. -/
def Call.values? (c : Call) (settings : Settings) (schema : Input.Schema) : Option Input.Values :=
  match Input.readBody settings c.declaredSize c.body with
  | .ok members =>
    match schema.bind members with
    | .ok (.ok vs) => some vs
    | _ => none
  | .error _ => none

lemma Call.values?_eq_some_iff {c : Call} {settings : Settings} {schema : Input.Schema}
    {vs : Input.Values} : c.values? settings schema = some vs ↔
      ∃ members, Input.readBody settings c.declaredSize c.body = .ok members ∧
        schema.bind members = .ok (.ok vs) := by
  unfold values?
  cases Input.readBody settings c.declaredSize c.body with
  | error f => simp
  | ok members =>
    simp only [Except.ok.injEq, exists_eq_left']
    split
    · next vs' hvs' => simp [hvs']
    · next hnone => exact ⟨nofun, fun h => absurd h (hnone vs)⟩

/-- A call of the staff to a route, with a body that is accepted. -/
structure Call.Submits (c : Call) (settings : Settings) (r : Route) (schema : Input.Schema)
    (vs : Input.Values) : Prop extends Call.IsByStaff c r where
  accepted : c.values? settings schema = some vs

namespace Endpoint

variable {c : Call} {r : Route} {schema : Input.Schema} {vs : Input.Values}

/-- The values of a body that is accepted are gone on with. -/
lemma withBody_of_submits (h : c.Submits ctx.settings r schema vs) (next : Input.Values → Outcome) :
    withBody schema ctx c s next = next vs := by
  obtain ⟨members, hmembers, hvs⟩ := Call.values?_eq_some_iff.1 h.accepted
  simp [withBody, hmembers, hvs, bind, Except.bind]

/-- The dates of an accepted submission can be shown. -/
lemma isShown_of_submits (hschema : schema ∈ Input.schemas)
    (h : c.Submits ctx.settings r schema vs) : ∀ p ∈ vs, p.2.IsShown := by
  obtain ⟨members, -, hvs⟩ := Call.values?_eq_some_iff.1 h.accepted
  refine Input.Schema.bind_isShown ?_ hvs
  revert schema
  simp [Input.schemas, Input.certificateSchema, Input.changeSchema, Input.requestSchema,
    Input.tenantRequestSchema, Input.rejectionSchema, Input.shortText, Input.kindField,
    Input.userIdField, Input.reasonField, Input.expiresField, Input.Value.IsShown]

lemma gives_of_submits (hschema : schema ∈ Input.schemas)
    (h : c.Submits ctx.settings r schema vs) : schema.Gives vs := by
  obtain ⟨members, -, hvs⟩ := Call.values?_eq_some_iff.1 h.accepted
  exact Input.Schema.bind_gives (Input.default_gives schema hschema) hvs

/-- Where a submission can be stored, a row is appended and told of; elsewhere the submission ends
as a fault of the registry. -/
lemma answerRoute_of_submits {α : Type} {x : Except Failure (Done (Row α))} {t : Table α} {a : α}
    {put : Table α → Store} {log : Row α → List LogRecord} {site : FaultSite} {userId : ℕ}
    (reply : Row α → Except Failure Reply) (h : c.Submits ctx.settings r schema vs)
    (hperform : perform ctx c s r = x >>= fun d => pure { d with value := reply d.value })
    (hx : ∀ d, x = .ok d ↔ ctx.CanStore site t.lastId userId ∧
      ∃ row u, t.append? ctx.clock.instant a = some (row, u) ∧
        d = { value := row, store := put u, log := log row })
    (hfails : FailsWith (·.status = 500) x)
    (hreply : ∃ y, reply ⟨t.lastId + 1, ctx.clock.instant, ctx.clock.instant, a⟩ = .ok y ∧
      y.status = 200) :
    (ctx.CanStore site t.lastId userId → (answerRoute ctx c r s).value.status = 200 ∧
      ∃ u, t.Gains u ctx.clock.instant a ∧ (answerRoute ctx c r s).store = put u) ∧
    (¬ ctx.CanStore site t.lastId userId → (answerRoute ctx c r s).value.status = 500 ∧
      (answerRoute ctx c r s).store = s) := by
  rw [answerRoute_eq_conclude h.toIsByStaff, hperform]
  constructor
  · intro hstore
    obtain ⟨row, u, happ⟩ := Table.exists_append? hstore.room ctx.clock.instant a
    obtain ⟨-, hrow, hrows, hlast⟩ := Table.append?_eq_some_iff.1 happ
    obtain ⟨y, hy, hstatus⟩ := hreply
    rw [← hrow] at hy
    rw [(hx _).2 ⟨hstore, row, u, happ, rfl⟩]
    refine ⟨?_, u, ⟨hrow ▸ hrows, hlast⟩, ?_⟩
    · simp [bind, Except.bind, pure, Except.pure, conclude, hy, hstatus]
    · simp [bind, Except.bind, pure, Except.pure, conclude, hy]
  · intro hfull
    cases hd : x with
    | error f => exact ⟨(Reply.status_ofFailure ctx f).trans (hfails f hd), rfl⟩
    | ok d => exact absurd ((hx d).1 hd).1 hfull

/-! ### Certificates and requests -/

lemma submittedCertificate_eq_ok_iff {ownerId : ℕ} (hnumber : vs.number "owner_id" = ownerId)
    (cert : Certificate) :
    submittedCertificate vs = .ok cert ↔ ownerId ≤ maxColumn ∧ cert = vs.certificate ownerId := by
  simp only [submittedCertificate, hnumber, bind_eq_ok_iff, Store.userColumn_eq_ok_iff,
    pure_eq_ok_iff, Int.natCast_inj, Input.Values.certificate]
  constructor
  · rintro ⟨_, ⟨rfl, hle⟩, rfl⟩
    exact ⟨hle, rfl⟩
  · rintro ⟨hle, rfl⟩
    exact ⟨_, ⟨rfl, hle⟩, rfl⟩

lemma newRequest_submitted_eq_ok_iff {userId : ℕ} (hnumber : vs.number "user_id" = userId)
    (req : CertificateRequest) :
    Store.newRequest (vs.text "user_name") (some (vs.number "user_id")) (.ofText (vs.text "type"))
        (vs.text "reason") = .ok req ↔ userId ≤ maxColumn ∧ req = vs.request userId := by
  rw [hnumber, Store.newRequest_eq_ok_iff]
  constructor
  · rintro ⟨id, hid, hle, rfl⟩
    obtain rfl := Int.ofNat.inj (Option.some.inj hid)
    exact ⟨hle, rfl⟩
  · rintro ⟨hle, rfl⟩
    exact ⟨userId, rfl, hle, rfl⟩

lemma create_submitted (h : c.Submits ctx.settings .newCertificate Input.certificateSchema vs)
    (hnow : IsShown ctx.clock.instant) {ownerId : ℕ} (hnumber : vs.number "owner_id" = ownerId) :
    let d := answerRoute ctx c .newCertificate s
    (ctx.CanStore .certificateSave s.certificates.lastId ownerId → d.value.status = 200 ∧
      ∃ u, s.certificates.Gains u ctx.clock.instant (vs.certificate ownerId) ∧
        d.store = { s with certificates := u }) ∧
    (¬ ctx.CanStore .certificateSave s.certificates.lastId ownerId → d.value.status = 500 ∧
      d.store = s) := by
  refine answerRoute_of_submits (fun row =>
      ((CertificateView.ofRow row).map (asSubmitted vs)).map fun v => .certificate (some v))
    h (x := s.recordCertificate ctx (submittedCertificate vs)) (withBody_of_submits h _)
    (fun d => Store.recordCertificate_eq_ok_iff.trans
      (Context.canStore_iff (submittedCertificate_eq_ok_iff hnumber)))
    (Store.recordCertificate_faults ((Store.userColumn_faults _ _).bind fun _ => .ok _)) ?_
  have hschema : Input.certificateSchema ∈ Input.schemas := by simp [Input.schemas]
  obtain ⟨hissued, hexpires⟩ :=
    Input.Values.certificate_isShown (isShown_of_submits hschema h) ownerId
  obtain ⟨v, hv⟩ := CertificateView.ofRow_eq_ok
    (r := ⟨s.certificates.lastId + 1, ctx.clock.instant, ctx.clock.instant, vs.certificate ownerId⟩)
    hissued hexpires hnow hnow
  exact ⟨_, by rw [hv]; rfl, rfl⟩

lemma createRequest_submitted (h : c.Submits ctx.settings .newRequest Input.requestSchema vs)
    (hnow : IsShown ctx.clock.instant) {userId : ℕ} (hnumber : vs.number "user_id" = userId) :
    let d := answerRoute ctx c .newRequest s
    (ctx.CanStore .requestSave s.requests.lastId userId → d.value.status = 200 ∧
      ∃ u, s.requests.Gains u ctx.clock.instant (vs.request userId) ∧
        d.store = { s with requests := u }) ∧
    (¬ ctx.CanStore .requestSave s.requests.lastId userId → d.value.status = 500 ∧
      d.store = s) := by
  refine answerRoute_of_submits (fun row => (RequestView.ofRow row).map .request) h
    (x := s.createRequest ctx _) (withBody_of_submits h _)
    (fun d => Store.createRequest_eq_ok_iff.trans
      (Context.canStore_iff (newRequest_submitted_eq_ok_iff hnumber)))
    (Store.createRequest_faults ((Store.userColumn_faults _ _).bind fun _ => .ok _)) ?_
  obtain ⟨v, hv⟩ := RequestView.ofRow_eq_ok_of_isNew
    (r := ⟨s.requests.lastId + 1, ctx.clock.instant, ctx.clock.instant, vs.request userId⟩)
    ⟨rfl, rfl, rfl, rfl, rfl, rfl⟩ hnow hnow
  exact ⟨_, by rw [hv]; rfl, rfl⟩

end Endpoint

namespace Step

/-- A certificate or a request that an administrator submits with accepted values is stored, with
just these values, where a new row for the user whom they name can be stored. Of the values, only
the id of the user may be too large for that, since the fields have no upper bound. The submission
then ends as a fault of the registry, and nothing changes. -/
theorem accepted_stored {ctx : Context} {s : Store} {c : Call} {vs : Input.Values}
    (hnow : IsShown ctx.clock.instant) :
    let d := (call c).run ctx s
    (c.Submits ctx.settings .newCertificate Input.certificateSchema vs →
      ∃ ownerId : ℕ, vs.number "owner_id" = ownerId ∧ (vs.moment? "expiration_date").isSome ∧
        (ctx.CanStore .certificateSave s.certificates.lastId ownerId →
          d.value.status? = some 200 ∧ d.store.requests = s.requests ∧
          s.certificates.Gains d.store.certificates ctx.clock.instant (vs.certificate ownerId)) ∧
        (¬ ctx.CanStore .certificateSave s.certificates.lastId ownerId →
          d.value.status? = some 500 ∧ d.store = s)) ∧
    (c.Submits ctx.settings .newRequest Input.requestSchema vs →
      ∃ userId : ℕ, vs.number "user_id" = userId ∧
        (ctx.CanStore .requestSave s.requests.lastId userId →
          d.value.status? = some 200 ∧ d.store.certificates = s.certificates ∧
          s.requests.Gains d.store.requests ctx.clock.instant (vs.request userId)) ∧
        (¬ ctx.CanStore .requestSave s.requests.lastId userId →
          d.value.status? = some 500 ∧ d.store = s)) := by
  intro d
  constructor
  · intro h
    have hd : d = _ := run_call h.route
    have hschema : Input.certificateSchema ∈ Input.schemas := by simp [Input.schemas]
    have hgives := Endpoint.gives_of_submits hschema h
    obtain ⟨ownerId, hnumber⟩ :=
      hgives.exists_number (Input.names_nodup _ hschema) "owner_id"
        (by simp [Input.certificateSchema])
    obtain ⟨m, hm⟩ := hgives.exists_moment (Input.names_nodup _ hschema)
      (by simp [Input.certificateSchema])
    obtain ⟨hstored, hfault⟩ := Endpoint.create_submitted (s := s) h hnow hnumber
    refine ⟨ownerId, hnumber, by simp [hm], fun hstore => ?_, fun hfull => ?_⟩
    · obtain ⟨hstatus, u, hgains, hu⟩ := hstored hstore
      rw [hd, hu]
      exact ⟨congrArg some hstatus, rfl, hgains⟩
    · obtain ⟨hstatus, hs⟩ := hfault hfull
      rw [hd]
      exact ⟨congrArg some hstatus, hs⟩
  · intro h
    have hd : d = _ := run_call h.route
    have hschema : Input.requestSchema ∈ Input.schemas := by simp [Input.schemas]
    obtain ⟨userId, hnumber⟩ :=
      (Endpoint.gives_of_submits hschema h).exists_number (Input.names_nodup _ hschema)
        "user_id" (by simp [Input.requestSchema])
    obtain ⟨hstored, hfault⟩ := Endpoint.createRequest_submitted (s := s) h hnow hnumber
    refine ⟨userId, hnumber, fun hstore => ?_, fun hfull => ?_⟩
    · obtain ⟨hstatus, u, hgains, hu⟩ := hstored hstore
      rw [hd, hu]
      exact ⟨congrArg some hstatus, rfl, hgains⟩
    · obtain ⟨hstatus, hs⟩ := hfault hfull
      rw [hd]
      exact ⟨congrArg some hstatus, hs⟩

/-- An administrator submits a certificate or a request for a user, by what fits both. -/
def creationCall (path userId : Text) : Call :=
  { changeCall with
    method := "POST"
    path
    body := Text.Utf8.encode
      ("\x7b\"name\": \"n\", \"type\": \"client\", \"content\": \"c\", \"user_name\": \"ann\", " ++
        "\"reason\": \"more\", \"expiration_date\": \"2027-01-15T12:30:00+08:00\", " ++
        "\"owner_id\": " ++ userId ++ ", \"user_id\": " ++ userId ++ "\x7d") }

lemma creationCall_submits {path userId name : Text} {r : Route} {schema : Input.Schema} {n : Int}
    (hroute : Route.resolve path = some r) (hmethod : .post ∈ r.methods)
    (h : ((creationCall path userId).values? {} schema).map (·.number name) = some n) :
    ∃ vs, (creationCall path userId).Submits {} r schema vs ∧ vs.number name = n := by
  obtain ⟨vs, hvs, hn⟩ := Option.map_eq_some_iff.1 h
  have hpost : Method.ofText? "POST" = some .post := by decide
  have hstaff : (creationCall path userId).IsByStaff r :=
    ⟨⟨_, rfl, rfl⟩, hroute, .post, hmethod, hpost⟩
  exact ⟨vs, ⟨hstaff, hvs⟩, hn⟩

theorem accepted_stored_creationCall :
    let ctx : Context := { clock := .ofUtc (utc 2026 1 15 4 30) }
    let certificate := creationCall "/certificates/admin/certificates/create/" "7"
    let request := creationCall "/certificates/admin/requests/create/" "7"
    ctx.CanStore .certificateSave 0 7 ∧ ctx.CanStore .requestSave 0 7 ∧
    (∃ vs, certificate.Submits ctx.settings .newCertificate Input.certificateSchema vs ∧
      ((call certificate).run ctx {}).value.status? = some 200 ∧
      ((call certificate).run ctx {}).store.certificates.rows =
        [⟨1, ctx.clock.instant, ctx.clock.instant, vs.certificate 7⟩]) ∧
    ∃ vs, request.Submits ctx.settings .newRequest Input.requestSchema vs ∧
      ((call request).run ctx {}).value.status? = some 200 ∧
      ((call request).run ctx {}).store.requests.rows =
        [⟨1, ctx.clock.instant, ctx.clock.instant, vs.request 7⟩] := by
  intro ctx certificate request
  have hnow : IsShown ctx.clock.instant := Moment.isShown_iff.2 (by decide)
  have hstore (site : FaultSite) : ctx.CanStore site 0 7 :=
    ⟨nofun, rfl, by decide, by decide, by decide⟩
  refine ⟨hstore _, hstore _, ?_, ?_⟩
  · have hsubmits : ∃ vs, certificate.Submits ctx.settings .newCertificate
        Input.certificateSchema vs ∧ vs.number "owner_id" = 7 :=
      creationCall_submits (by decide) (by decide) (by decide +kernel)
    obtain ⟨vs, hsubmits, hnumber⟩ := hsubmits
    obtain ⟨ownerId, hownerId, -, hstored, -⟩ := (accepted_stored (s := {}) hnow).1 hsubmits
    obtain rfl : ownerId = 7 := by omega
    obtain ⟨hstatus, -, hgains⟩ := hstored (hstore _)
    exact ⟨vs, hsubmits, hstatus, hgains.rows⟩
  · have hsubmits : ∃ vs, request.Submits ctx.settings .newRequest Input.requestSchema vs ∧
        vs.number "user_id" = 7 :=
      creationCall_submits (by decide) (by decide) (by decide +kernel)
    obtain ⟨vs, hsubmits, hnumber⟩ := hsubmits
    obtain ⟨userId, huserId, hstored, -⟩ := (accepted_stored (s := {}) hnow).2 hsubmits
    obtain rfl : userId = 7 := by omega
    obtain ⟨hstatus, -, hgains⟩ := hstored (hstore _)
    exact ⟨vs, hsubmits, hstatus, hgains.rows⟩

/-- The ids of the users are past the largest number of their columns. -/
theorem creationCall_faults :
    let ctx : Context := { clock := .ofUtc (utc 2026 1 15 4 30) }
    let certificate := creationCall "/certificates/admin/certificates/create/" "9223372036854775808"
    let request := creationCall "/certificates/admin/requests/create/" "9223372036854775808"
    ((∃ vs, certificate.Submits ctx.settings .newCertificate Input.certificateSchema vs ∧
        vs.number "owner_id" = maxColumn + 1) ∧
      ((call certificate).run ctx {}).value.status? = some 500) ∧
    (∃ vs, request.Submits ctx.settings .newRequest Input.requestSchema vs ∧
        vs.number "user_id" = maxColumn + 1) ∧
      ((call request).run ctx {}).value.status? = some 500 := by
  intro ctx certificate request
  exact ⟨⟨creationCall_submits (by decide) (by decide) (by decide +kernel), by decide +kernel⟩,
    creationCall_submits (by decide) (by decide) (by decide +kernel), by decide +kernel⟩

end Step

end CertRegistry
