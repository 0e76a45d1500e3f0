import CertRegistry.Proofs.Step.Record

/-!
# Echoes

A certificate may be given the name and the end that it is listed with. The name passes the checks
of its field as it is, and the text of the end is read as the very instant that it shows. So nothing
changes but the time of the last change.
-/

namespace CertRegistry

open Moment (IsShown)

/-! ### Reading what is shown -/

/-- A name that is taken as it is. -/
structure Text.IsPlainName (t : Text) : Prop where
  strip : t.strip = t
  ne_nil : t ≠ []
  length_le : t.length ≤ 255
  zero_notMem : 0 ∉ t
  encodable : ∀ c ∈ t, Text.isSurrogate c = false

namespace Input

lemma readText_of_isPlainName {t : Text} (h : t.IsPlainName) :
    readText (some 255) true false (.text t) = .ok (.text t) := by
  have hfaults : textFaults (some 255) t = [] := by
    have hsurrogate : t.find? Text.isSurrogate = none := by
      rw [List.find?_eq_none]
      intro c hc
      rw [h.encodable c hc]
      exact Bool.false_ne_true
    simp [textFaults, h.length_le.not_gt, h.zero_notMem, hsurrogate]
  simp [readText, plainText?, isBlankText, h.strip, h.ne_nil, hfaults]

/-- An instant that is shown is read back. -/
lemma readMoment_onClock {t : Instant} (hrange : inRange t) (hshown : IsShown t) :
    readMoment (.text (Moment.onClock t).text) = .ok (.ok (.moment (.onClock t))) := by
  have hread := readMoment_text (Moment.isTold_onClock hshown)
  rw [Moment.instant_onClock] at hread
  exact hread hrange hshown

lemma bind_change {members : List (Text × Json)} {name : Text} {t : Instant}
    (hname : Json.member? members "name" = some (.text name))
    (hexpires : Json.member? members "expiration_date" = some (.text (Moment.onClock t).text))
    (hplain : name.IsPlainName) (hrange : inRange t) (hshown : IsShown t) :
    ∃ vs, changeSchema.bind members = .ok (.ok vs) ∧ Values.text vs "name" = name ∧
      Values.moment? vs "expiration_date" = some (.onClock t) := by
  have hmember : Json.member? members (shortText "name" 255).name = some (.text name) := hname
  have hmember' : Json.member? members expiresField.name = some (.text (Moment.onClock t).text) :=
    hexpires
  have htakes : (shortText "name" 255).Takes members (.text name) := by
    rw [Field.Takes, hmember, Field.read_some (v := .text name) (by simp)]
    exact congrArg Except.ok (readText_of_isPlainName hplain)
  have htakes' : expiresField.Takes members (.moment (.onClock t)) := by
    have hkind : expiresField.kind = .moment := rfl
    rw [Field.Takes, hmember', Field.read_some (v := .text _) (by simp), hkind, FieldKind.read,
      readMoment_onClock hrange hshown]
  refine ⟨[("name", .text name), ("expiration_date", .moment (.onClock t))], ?_, rfl, rfl⟩
  exact Schema.bind_eq_ok_iff.2 (.cons ⟨rfl, htakes⟩ (.cons ⟨rfl, htakes'⟩ .nil))

end Input

lemma CertificateView.texts_of_ofRow {row : Row Certificate} {v : CertificateView}
    (h : ofRow row = .ok v) :
    v.name = row.data.name ∧ v.expires = (Moment.onClock row.data.expires).text := by
  simp only [ofRow, bind_eq_ok_iff, pure_eq_ok_iff] at h
  obtain ⟨issued, -, expires, hexpires, createdAt, -, updatedAt, -, rfl⟩ := h
  exact ⟨rfl, (zoneText_eq_ok_iff.1 hexpires).2⟩

/-! ### Changes -/

/-- The text that the body of a call has for a name. -/
def Call.text? (c : Call) (settings : Settings) (name : Text) : Option Text :=
  match Input.readBody settings c.declaredSize c.body with
  | .ok members =>
    match Json.member? members name with
    | some (.text t) => some t
    | _ => none
  | .error _ => none

/-- A call of the staff to a route, by one of its methods. -/
structure Call.IsByStaff (c : Call) (r : Route) : Prop where
  caller : ∃ a, c.caller = .user a ∧ a.isStaff
  route : Route.resolve c.path = some r
  method : ∃ m ∈ r.methods, Method.ofText? c.method = some m

/-- A call of the staff to give a certificate a name and an end. -/
structure Call.Changes (c : Call) (settings : Settings) (id : Nat) (name expires : Text) : Prop
    extends Call.IsByStaff c (.updateCertificate id) where
  name : c.text? settings "name" = some name
  expires : c.text? settings "expiration_date" = some expires

/-- A body is read by the limit on its size alone. -/
lemma Call.text?_congr {c : Call} {settings settings' : Settings} {name : Text}
    (h : settings.maxBodySize = settings'.maxBodySize) :
    c.text? settings name = c.text? settings' name := by
  simp only [text?, Input.readBody, h]

lemma Call.exists_of_text? {c : Call} {settings : Settings} {name t : Text}
    (h : c.text? settings name = some t) :
    ∃ members, Input.readBody settings c.declaredSize c.body = .ok members ∧
      Json.member? members name = some (.text t) := by
  unfold Call.text? at h
  split at h
  · next members hmembers =>
    split at h
    · next u hu => exact ⟨members, hmembers, by rw [hu, Option.some.inj h]⟩
    · exact absurd h nofun
  · exact absurd h nofun

namespace Endpoint

variable {ctx : Context} {c : Call} {s : Store} {r : Route}

/-- What a route does is answered to a member of the staff who calls it by one of its methods. -/
lemma answerRoute_eq_conclude (h : c.IsByStaff r) :
    answerRoute ctx c r s = conclude ctx r.action s (perform ctx c s r) := by
  obtain ⟨a, ha, hstaff⟩ := h.caller
  have hdenial : denial? c r = none := by simp [denial?, ha, hstaff]
  have hallows : allows r c.method := allows_eq_true_iff.2 h.method
  simp [answerRoute, hdenial, hallows]

/-- A change to the name and the end that a certificate has changes the time of its last change. -/
lemma update_eq_ok {row : Row Certificate} {v : CertificateView} {id : Nat}
    {members : List (Text × Json)} {vs : Input.Values}
    (hmembers : Input.readBody ctx.settings c.declaredSize c.body = .ok members)
    (hbound : Input.changeSchema.bind members = .ok (.ok vs))
    (hname : vs.text "name" = row.data.name)
    (hexpires : vs.moment? "expiration_date" = some (.onClock row.data.expires))
    (hrow : row ∈ s.certificates.rows) (hid : row.id = id) (hdebug : ctx.settings.debug.isSome)
    (hfault : ∀ f ∈ ctx.fault, f.site ≠ .certificateSave) (hclock : inRange ctx.clock.instant)
    (hv : CertificateView.ofRow (row.change ctx.clock.instant row.data) = .ok v) :
    ∃ d view, update ctx c id s = .ok d ∧ d.value = .ok (.certificate (some view)) ∧
      d.store = { s with
        certificates := s.certificates.change row ctx.clock.instant row.data } := by
  have hfound : s.certificates.get? (.ofInt id) = some row :=
    Table.get?_eq_some_iff.2 ⟨hrow, congrArg some hid.symm⟩
  obtain ⟨d, hd, hvalue, hstore⟩ : ∃ d, s.updateCertificate ctx (.ofInt id) row.data.name
      (.onClock row.data.expires) = .ok d ∧ d.value = row.change ctx.clock.instant row.data ∧
      d.store = { s with
        certificates := s.certificates.change row ctx.clock.instant row.data } := by
    refine ⟨_, Store.updateCertificate_eq_ok_iff.2
      ⟨Context.reachFor_of_isSome hdebug minColumn (.ofInt id), row, hfound,
        Context.pass_eq_ok_iff.2 hfault, hclock, rfl⟩, ?_, ?_⟩
    · rw [Moment.instant_onClock]
    · rw [Moment.instant_onClock]
  refine ⟨{ d with value := .ok (.certificate (some (asSubmitted vs v))) }, _, ?_, rfl, hstore⟩
  simp only [update, withBody, bind_eq_ok_iff]
  refine ⟨members, hmembers, _, hbound, ?_⟩
  simp only [hname, hexpires, Option.getD_some, bind_eq_ok_iff, pure_eq_ok_iff]
  refine ⟨d, hd, ?_⟩
  rw [hvalue, hv]
  rfl

end Endpoint

namespace Step

/-- A certificate that is given the name and the end that it is listed with stays as it is, but for
the time of its last change, and nothing else changes. What is listed is the text of the instant
that is stored, and every such text is read as its instant. The clock must show a time that can be
stored and shown, and it must be settled whether to debug. -/
theorem echo_noop {ctx : Context} {s : Store} {row : Row Certificate} {id : Nat}
    (hrow : row ∈ s.certificates.rows) (hid : row.id = id) (hname : row.data.name.IsPlainName)
    (hissued : ∀ t ∈ row.data.issued, IsShown t) (hexpires : IsShown row.data.expires)
    (hcreated : IsShown row.createdAt) (hupdated : IsShown row.updatedAt)
    (hrange : inRange row.data.expires) (hdebug : ctx.settings.debug.isSome)
    (hfault : ∀ f ∈ ctx.fault, f.site ≠ .certificateSave) (hclock : inRange ctx.clock.instant)
    (hnow : IsShown ctx.clock.instant) :
    (∀ t, inRange t → IsShown t → ∃ text m, zoneText t = .ok text ∧
      Input.readMoment (.text text) = .ok (.ok (.moment m)) ∧ m.instant = t) ∧
    ∃ v, CertificateView.ofRow row = .ok v ∧
      (∀ ctx' c' reply, Route.resolve c'.path = some .certificates →
        ((call c').run ctx' s).value = .replied reply → ∀ listed ∈ reply.records,
        listed.place = (.certificates, row.id) → listed = .certificate v) ∧
      ∀ c : Call, c.Changes ctx.settings id v.name v.expires →
        let d := (call c).run ctx s
        d.value.status? = some 200 ∧ d.store.requests = s.requests ∧
        d.store.certificates.lastId = s.certificates.lastId ∧
        d.store.certificates.rows = s.certificates.rows.map fun r =>
          if r.id = row.id then { r with updatedAt := ctx.clock.instant } else r := by
  refine ⟨fun t hrange hshown => ⟨_, .onClock t, zoneText_eq_ok_iff.2 ⟨hshown, rfl⟩,
    Input.readMoment_onClock hrange hshown, Moment.instant_onClock t⟩, ?_⟩
  obtain ⟨v, hv⟩ := CertificateView.ofRow_eq_ok hissued hexpires hcreated hupdated
  refine ⟨v, hv, ?_, ?_⟩
  · intro ctx' c' reply hroute hreply listed hlisted hplace
    have hvalue : ((call c').run ctx' s).value = .replied _ := congrArg Done.value (run_call hroute)
    obtain rfl := StepResult.replied.inj (hvalue.symm.trans hreply)
    have hshows : (Record.certificate v).Shows s := ⟨row, hrow, hv⟩
    apply (Endpoint.shows_of_mem_records (Or.inl rfl) hlisted).eq_of_place_eq hshows
    rw [hplace, Record.place, CertificateView.id_of_ofRow hv]
  · intro c hc d
    obtain ⟨members, hmembers, hname'⟩ := Call.exists_of_text? hc.name
    obtain ⟨members', hmembers', hexpires'⟩ := Call.exists_of_text? hc.expires
    obtain rfl := Except.ok.inj (hmembers.symm.trans hmembers')
    obtain ⟨hviewName, hviewExpires⟩ := CertificateView.texts_of_ofRow hv
    rw [hviewName] at hname'
    rw [hviewExpires] at hexpires'
    obtain ⟨vs, hbound, hvsName, hvsExpires⟩ :=
      Input.bind_change hname' hexpires' hname hrange hexpires
    obtain ⟨w, hw⟩ := CertificateView.ofRow_eq_ok (r := row.change ctx.clock.instant row.data)
      hissued hexpires hcreated hnow
    obtain ⟨d', view, hd', hvalue, hstore⟩ :=
      Endpoint.update_eq_ok hmembers hbound hvsName hvsExpires hrow hid hdebug hfault hclock hw
    have hanswer : Endpoint.answerRoute ctx c (.updateCertificate id) s =
        { value := .certificate (some view), store := d'.store, log := d'.log } := by
      rw [Endpoint.answerRoute_eq_conclude hc.toIsByStaff, Endpoint.perform, hd']
      simp [Endpoint.conclude, hvalue]
    have hd : d = _ := run_call hc.route
    rw [hd, hanswer, hstore]
    refine ⟨rfl, rfl, rfl, ?_⟩
    rw [Table.rows_change]
    refine List.map_congr_left fun r hr => ?_
    split_ifs with h
    · rw [Table.eq_of_id_eq hr hrow h]
      rfl
    · rfl

lemma heldRow_isPlainName : heldRow.data.name.IsPlainName where
  strip := by decide
  ne_nil := by decide
  length_le := by decide
  zero_notMem := by decide
  encodable := by decide

/-- An administrator gives the certificate the name and the end that it is listed with. -/
def echoCall : Call :=
  { changeCall with
    body := Text.Utf8.encode
      "\x7b\"name\": \"ann-client-cert\", \"expiration_date\": \"2027-01-15T12:30:00+08:00\"\x7d" }

lemma echoCall_changes {debug : Option Bool} :
    echoCall.Changes { debug } 1 heldRow.data.name (Moment.onClock heldRow.data.expires).text := by
  have htext (name : Text) : echoCall.text? { debug } name = echoCall.text? {} name :=
    Call.text?_congr rfl
  have hname : echoCall.text? {} "name" = some heldRow.data.name := by decide +kernel
  have hexpires : echoCall.text? {} "expiration_date" =
      some (Moment.onClock heldRow.data.expires).text := by
    decide +kernel
  have hstaff : echoCall.IsByStaff (.updateCertificate 1) :=
    ⟨⟨_, rfl, rfl⟩, by decide, .put, by decide, by decide⟩
  exact ⟨hstaff, (htext _).trans hname, (htext _).trans hexpires⟩

theorem echo_noop_echoCall :
    let ctx : Context := { clock := .ofUtc (utc 2026 1 15 4 30) }
    heldRow.data.name.IsPlainName ∧ inRange heldRow.data.expires ∧
    ∃ v, CertificateView.ofRow heldRow = .ok v ∧
      echoCall.Changes ctx.settings 1 v.name v.expires ∧
      ((call echoCall).run ctx heldStore).value.status? = some 200 ∧
      ((call echoCall).run ctx heldStore).store.certificates.rows =
        [{ heldRow with updatedAt := ctx.clock.instant }] := by
  intro ctx
  have hrow : heldRow ∈ heldStore.certificates.rows := List.mem_singleton_self _
  obtain ⟨hissued, hexpires, hcreated, hupdated⟩ := heldStore_isShown heldRow hrow
  have hid : heldRow.id = (1 : ℕ) := rfl
  have hrange : inRange heldRow.data.expires := by decide
  have hdebug : ctx.settings.debug.isSome := rfl
  have hclock : inRange ctx.clock.instant := by decide
  have hnow : IsShown ctx.clock.instant := Moment.isShown_iff.2 (by decide)
  obtain ⟨-, v, hv, -, hecho⟩ := echo_noop hrow hid heldRow_isPlainName hissued hexpires hcreated
    hupdated hrange hdebug nofun hclock hnow
  have hchanges : echoCall.Changes ctx.settings 1 v.name v.expires := by
    obtain ⟨hname, hend⟩ := CertificateView.texts_of_ofRow hv
    rw [hname, hend]
    exact echoCall_changes
  have hdone := hecho echoCall hchanges
  have hheld : (heldStore.certificates.rows.map fun r =>
      if r.id = heldRow.id then { r with updatedAt := ctx.clock.instant } else r) =
        [{ heldRow with updatedAt := ctx.clock.instant }] := rfl
  exact ⟨heldRow_isPlainName, hrange, v, hv, hchanges, hdone.1, hdone.2.2.2.trans hheld⟩

/-- The echo is refused where the clock shows a time before the year 1 in UTC, and where nothing
says whether to debug. -/
theorem echoCall_refused :
    let early : Context := { clock := ⟨0, some hour⟩ }
    let undebugged : Context :=
      { clock := .ofUtc (utc 2026 1 15 4 30), settings := { debug := none } }
    heldRow.data.name.IsPlainName ∧ Listing.certificates.IsShown heldStore ∧
    inRange heldRow.data.expires ∧ ∃ v, CertificateView.ofRow heldRow = .ok v ∧
      echoCall.Changes early.settings 1 v.name v.expires ∧
      ((call echoCall).run early heldStore).value.status? = some 500 ∧
      echoCall.Changes undebugged.settings 1 v.name v.expires ∧
      ((call echoCall).run undebugged heldStore).value.status? = some 500 := by
  intro early undebugged
  obtain ⟨hissued, hexpires, hcreated, hupdated⟩ :=
    heldStore_isShown heldRow (List.mem_singleton_self _)
  obtain ⟨v, hv⟩ := CertificateView.ofRow_eq_ok hissued hexpires hcreated hupdated
  obtain ⟨hname, hend⟩ := CertificateView.texts_of_ofRow hv
  have hearly : ((call echoCall).run early heldStore).value.status? = some 500 := by
    decide +kernel
  have hundebugged : ((call echoCall).run undebugged heldStore).value.status? = some 500 := by
    decide +kernel
  refine ⟨heldRow_isPlainName, heldStore_isShown, by decide, v, hv, ?_⟩
  rw [hname, hend]
  exact ⟨echoCall_changes, hearly, echoCall_changes, hundebugged⟩

end Step

end CertRegistry
