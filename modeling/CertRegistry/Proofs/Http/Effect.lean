import CertRegistry.Http.Endpoint
import CertRegistry.Proofs.Input.Schema
import CertRegistry.Proofs.Store.Effect
import CertRegistry.Proofs.View

/-!
# What a call does and how it is answered

A call does the deed of its route or nothing, and nothing at all unless its caller may make it and
the route is for its method. The answer tells which of the two it was: a call that did something is
answered as a success, and a call that is answered as a success did what its route is for. Only
what cannot be shown or noted after it was done is answered as a failure nevertheless.
-/

namespace CertRegistry

open Moment (IsShown)

namespace Route

/-- What a call to a route may do. -/
def deeds : Route → List Deed
  | newCertificate => [.record]
  | updateCertificate id => [.update id]
  | deleteCertificate id => [.delete id]
  | revokeCertificate id => [.revoke id]
  | newRequest => [.request false]
  | approveRequest id => [.approve id]
  | rejectRequest id => [.reject id]
  | submit => [.submit]
  | certificates | requests | download | ownCertificate | ownRequests => []

end Route

/-! ### Answers -/

/-- An answer that tells of a success. -/
structure Reply.IsSuccess (reply : Reply) : Prop where
  status : reply.status = 200
  body : ∃ name v, reply.body? = some (success name v)

lemma Failure.status_eq (f : Failure) : f.status = 400 ∨ f.status = 500 := by
  unfold status
  split
  · exact Or.inl rfl
  · exact Or.inl rfl
  · exact Or.inl rfl
  · exact Or.inl rfl
  · exact Or.inr rfl

/-- A failure is answered with its own status, in words or without. -/
lemma Reply.status_ofFailure (ctx : Context) (f : Failure) :
    (ofFailure ctx f).status = f.status := by
  rcases f.status_eq with hf | hf
  · simp [ofFailure, ofError, words?, hf, status]
  · cases hdebug : ctx.settings.debug <;> simp [ofFailure, ofError, words?, hf, hdebug, status]

/-- A failure is not answered as a success. -/
lemma Reply.status_ofFailure_ne (ctx : Context) (f : Failure) : (ofFailure ctx f).status ≠ 200 := by
  rw [status_ofFailure]
  have hstatus := f.status_eq
  omega

lemma Failure.record_isNews (f : Failure) (action : Text) : (f.record action).isNews = false := by
  unfold Failure.record
  split_ifs <;> rfl

namespace Endpoint

/-- The answer to a call that came so far: a view or a note that fails is answered as a failure. -/
def reply (ctx : Context) : Except Failure Reply → Reply
  | .ok reply => reply
  | .error f => .ofFailure ctx f

/-- The reply to a call that did something tells of a failure: what was done has a date that cannot
be shown, or the origin of the call cannot be noted. -/
def Unreported (ctx : Context) (c : Call) (s : Store) (reply : Reply) : Route → Prop
  | .newCertificate | .newRequest | .submit =>
    ¬ IsShown ctx.clock.instant ∧ reply = .ofFailure ctx .zoneOverflow
  | .updateCertificate id =>
    ¬ (IsShown ctx.clock.instant ∧ ∀ row ∈ s.certificates.rows, row.id = id → row.ShowsIssue) ∧
      reply = .ofFailure ctx .zoneOverflow
  | .revokeCertificate _ | .approveRequest _ =>
    ∃ f, c.origin = .error f ∧ reply = .ofFailure ctx f
  | _ => False

/-- There is nothing to do for a call to a route. -/
def Idle (s : Store) : Route → Prop
  | .deleteCertificate id => s.certificates.find? id = none
  | _ => False

/-- A call to a route did some deeds, and its answer tells of them. -/
structure Settled (ctx : Context) (c : Call) (s : Store) (r : Route) (d : Done Reply)
    (ds : List Deed) : Prop where
  effect : Effect ctx.clock.instant ds s d.store d.log
  sublist : ds.Sublist r.deeds
  reported : ds ≠ [] → d.value.IsSuccess ∨ Unreported ctx c s d.value r
  complete : d.value.status = 200 → ds = r.deeds ∨ Idle s r

/-- What came of a call to a route is settled by its answer. -/
def Settles (ctx : Context) (c : Call) (s : Store) (r : Route) (o : Outcome) : Prop :=
  ∃ ds, Settled ctx c s r (conclude ctx r.action s o) ds

variable {ctx : Context} {c : Call} {s : Store} {r : Route}

lemma conclude_ok (ctx : Context) (action : Text) (s : Store) (d : Done (Except Failure Reply)) :
    ∃ log, (∀ rec ∈ log, rec.isNews = false) ∧
      conclude ctx action s (.ok d) =
        { value := reply ctx d.value, store := d.store, log := d.log ++ log } := by
  obtain ⟨value, store, log⟩ := d
  cases value with
  | ok reply => exact ⟨[], nofun, by simp [conclude, Endpoint.reply]⟩
  | error f => exact ⟨[f.record action], by simp [f.record_isNews], rfl⟩

/-! ### Outcomes that are settled -/

lemma settles_error (f : Failure) : Settles ctx c s r (.error f) := by
  have hquiet : ∀ rec ∈ [f.record r.action], rec.isNews = false := by simp [f.record_isNews]
  refine ⟨[], .none hquiet, List.nil_sublist _, fun h => absurd rfl h, fun h => ?_⟩
  exact absurd h (Reply.status_ofFailure_ne ctx f)

/-- Nothing was done, and a success says that there was nothing to do. -/
lemma settles_nothing {d : Done (Except Failure Reply)} (hstore : d.store = s)
    (hquiet : ∀ rec ∈ d.log, rec.isNews = false)
    (h : (reply ctx d.value).status = 200 → r.deeds = [] ∨ Idle s r) :
    Settles ctx c s r (.ok d) := by
  obtain ⟨log, hlog, heq⟩ := conclude_ok ctx r.action s d
  refine ⟨[], ?_⟩
  rw [heq, hstore]
  refine ⟨.none fun rec hrec => ?_, List.nil_sublist _, fun h => absurd rfl h, fun hstatus => ?_⟩
  · rcases List.mem_append.1 hrec with hrec | hrec
    · exact hquiet rec hrec
    · exact hlog rec hrec
  · exact (h hstatus).imp_left Eq.symm

/-- The deed of the route was done, and it was reported as a success or for a reason not. -/
lemma settles_deed {deed : Deed} (hdeeds : r.deeds = [deed]) {d : Done (Except Failure Reply)}
    (heffect : Effect ctx.clock.instant [deed] s d.store d.log)
    (h : (reply ctx d.value).IsSuccess ∨ Unreported ctx c s (reply ctx d.value) r) :
    Settles ctx c s r (.ok d) := by
  obtain ⟨log, hlog, heq⟩ := conclude_ok ctx r.action s d
  refine ⟨[deed], ?_⟩
  rw [heq]
  refine ⟨heffect.append_quiet hlog, ?_, fun _ => h, fun _ => Or.inl hdeeds.symm⟩
  rw [hdeeds]

lemma settles_unchanged (hdeeds : r.deeds = []) (value : Except Failure Reply) :
    Settles ctx c s r (unchanged s value) :=
  settles_nothing rfl nofun fun _ => Or.inl hdeeds

/-- An operation that fails or is settled by what comes of it. -/
lemma settles_bind {α : Type} {x : Except Failure α} {f : α → Outcome}
    (h : ∀ a, x = .ok a → Settles ctx c s r (f a)) : Settles ctx c s r (x >>= f) := by
  cases x with
  | error f => exact settles_error f
  | ok a => exact h a rfl

lemma settles_withBody {schema : Input.Schema} {next : Input.Values → Outcome}
    (h : ∀ members vs, schema.bind members = .ok (.ok vs) → Settles ctx c s r (next vs)) :
    Settles ctx c s r (withBody schema ctx c s next) := by
  refine settles_bind fun members _ => settles_bind fun read hread => ?_
  cases read with
  | ok vs => exact h members vs hread
  | error es => exact settles_nothing rfl nofun fun h => absurd h (by decide : (400 : Nat) ≠ 200)

/-- A body that does not fit is blamed on the call and leaves the store alone. -/
lemma succeedsWith_withBody {P : Done (Except Failure Reply) → Prop} {schema : Input.Schema}
    {next : Input.Values → Outcome}
    (hrefused : ∀ error, P { value := .ok (.refused 400 error), store := s })
    (hnext : ∀ members vs, schema.bind members = .ok (.ok vs) → SucceedsWith P (next vs)) :
    SucceedsWith P (withBody schema ctx c s next) := by
  refine .bind fun members _ => .bind fun read hread => ?_
  cases read with
  | ok vs => exact hnext members vs hread
  | error es => exact .ok (hrefused _)

/-! ### Reports -/

/-- A view is shown as a success, or the zone is why it is not. -/
lemma report_view {α : Type} {view : Except Failure α} (hzone : FailsWith (· = .zoneOverflow) view)
    {toReply : α → Reply} (hreply : ∀ v, (toReply v).IsSuccess) {shown : Prop}
    (h : shown → ∃ v, view = .ok v) :
    (reply ctx (view.map toReply)).IsSuccess ∨
      (¬ shown ∧ reply ctx (view.map toReply) = .ofFailure ctx .zoneOverflow) := by
  cases hview : view with
  | ok v => exact Or.inl (hreply v)
  | error f =>
    obtain rfl := hzone f hview
    refine Or.inr ⟨fun hshown => ?_, rfl⟩
    obtain ⟨v, hv⟩ := h hshown
    exact absurd (hview.symm.trans hv) nofun

lemma isSuccess_done (message : Text) : (Reply.done message).IsSuccess := ⟨rfl, _, _, rfl⟩

lemma isSuccess_certificate (view : Option CertificateView) : (Reply.certificate view).IsSuccess :=
  ⟨rfl, _, _, rfl⟩

lemma isSuccess_request (view : RequestView) : (Reply.request view).IsSuccess := ⟨rfl, _, _, rfl⟩

/-- A note is a success, or the call does not tell where it came from. -/
lemma report_noted {α : Type} (d : Done α) (message text : Text) :
    (reply ctx (noted d c (.done message) text).value).IsSuccess ∨
      ∃ f, c.origin = .error f ∧
        reply ctx (noted d c (.done message) text).value = .ofFailure ctx f := by
  unfold noted
  cases horigin : c.origin with
  | ok origin => exact Or.inl (isSuccess_done message)
  | error f => exact Or.inr ⟨f, rfl, rfl⟩

lemma noted_store {α : Type} (d : Done α) (c : Call) (reply : Reply) (text : Text) :
    (noted d c reply text).store = d.store ∧
      ∃ log, (noted d c reply text).log = d.log ++ log ∧ ∀ r ∈ log, r.isNews = false := by
  unfold noted
  split
  · exact ⟨rfl, [_], rfl, by simp [LogRecord.isNews]⟩
  · exact ⟨rfl, [], by simp, by simp⟩

lemma noted_effect {α : Type} {now : Instant} {ds : List Deed} {d : Done α}
    (h : Effect now ds s d.store d.log) (reply : Reply) (text : Text) :
    Effect now ds s (noted d c reply text).store (noted d c reply text).log := by
  obtain ⟨hstore, log, hlog, hquiet⟩ := noted_store d c reply text
  rw [hstore, hlog]
  exact h.append_quiet hquiet

/-! ### Submitted certificates -/

lemma submittedCertificate_status {vs : Input.Values} {cert : Certificate}
    (h : submittedCertificate vs = .ok cert) : cert.status = .valid := by
  simp only [submittedCertificate, bind_eq_ok_iff, pure_eq_ok_iff] at h
  obtain ⟨ownerId, -, rfl⟩ := h
  rfl

/-- The dates of a submitted certificate can be shown. -/
lemma submittedCertificate_isShown {vs : Input.Values} (hvs : ∀ p ∈ vs, p.2.IsShown)
    {cert : Certificate} (h : submittedCertificate vs = .ok cert) :
    (∀ t ∈ cert.issued, IsShown t) ∧ IsShown cert.expires := by
  simp only [submittedCertificate, bind_eq_ok_iff, pure_eq_ok_iff] at h
  obtain ⟨ownerId, -, rfl⟩ := h
  constructor
  · intro t ht
    obtain ⟨m, hm, rfl⟩ := Option.map_eq_some_iff.1 ht
    exact Input.Values.moment?_isShown hvs hm
  · cases hm : vs.moment? "expiration_date" with
    | none => simpa [hm] using Moment.isShown_iff.2 (by decide)
    | some m => simpa [hm] using Input.Values.moment?_isShown hvs hm

/-! ### The routes -/

variable (ctx c s)

lemma create_settles : Settles ctx c s .newCertificate (create ctx c s) := by
  refine settles_withBody fun members vs hvs => settles_bind fun d hd => ?_
  have hstatus : ∀ cert, submittedCertificate vs = .ok cert → cert.status = .valid :=
    fun _ hcert => submittedCertificate_status hcert
  refine settles_deed rfl (Store.recordCertificate_effect hstatus hd)
    (report_view ((CertificateView.ofRow_failsWith _).map _) (fun v => isSuccess_certificate (some v)) ?_)
  intro hnow
  obtain ⟨-, -, -, cert, row, t, hcert, happ, rfl⟩ := Store.recordCertificate_eq_ok_iff.1 hd
  have hdefault : ∀ f ∈ Input.certificateSchema, ∀ value ∈ f.default?, value.IsShown := by
    simp [Input.certificateSchema, Input.shortText, Input.kindField, Input.userIdField,
      Input.expiresField, Input.Value.IsShown]
  obtain ⟨hissued, hexpires⟩ :=
    submittedCertificate_isShown (Input.Schema.bind_isShown hdefault hvs) hcert
  obtain ⟨v, hv⟩ : ∃ v, CertificateView.ofRow row = .ok v := by
    rw [Table.append?_row happ]
    exact CertificateView.ofRow_eq_ok hissued hexpires hnow hnow
  exact ⟨asSubmitted vs v, by rw [hv]; rfl⟩

lemma update_settles (id : Nat) :
    Settles ctx c s (.updateCertificate id) (update ctx c id s) := by
  refine settles_withBody fun members vs hvs => settles_bind fun d hd => ?_
  refine settles_deed rfl (Store.updateCertificate_effect hd)
    (report_view ((CertificateView.ofRow_failsWith _).map _) (fun v => isSuccess_certificate (some v)) ?_)
  rintro ⟨hnow, hshows⟩
  obtain ⟨v, hv⟩ : ∃ v, CertificateView.ofRow d.value = .ok v := by
    obtain ⟨-, row, hrow, -, -, rfl⟩ := Store.updateCertificate_eq_ok_iff.1 hd
    obtain ⟨hmem, hid⟩ := Table.get?_eq_some_iff.1 hrow
    have hshows := hshows row hmem (Option.some.inj hid).symm
    have hdefault : ∀ f ∈ Input.changeSchema, ∀ value ∈ f.default?, value.IsShown := by
      simp [Input.changeSchema, Input.shortText, Input.expiresField]
    have hexpires : IsShown ((vs.moment? "expiration_date").getD (.ofUtc 0)).instant := by
      cases hm : vs.moment? "expiration_date" with
      | none => exact Moment.isShown_iff.2 (by decide)
      | some m => exact Input.Values.moment?_isShown (Input.Schema.bind_isShown hdefault hvs) hm
    exact CertificateView.ofRow_eq_ok hshows.issued hexpires hshows.createdAt hnow
  exact ⟨asSubmitted vs v, by rw [hv]; rfl⟩

/-- A request that was just made can be shown, unless the time of it cannot. -/
lemma report_newRequest {r : CertificateRequest} (hnew : r.IsNew)
    {row : Row CertificateRequest} {t : Table CertificateRequest}
    (happ : s.requests.append? ctx.clock.instant r = some (row, t)) :
    (reply ctx ((RequestView.ofRow row).map .request)).IsSuccess ∨
      (¬ IsShown ctx.clock.instant ∧
        reply ctx ((RequestView.ofRow row).map .request) = .ofFailure ctx .zoneOverflow) := by
  refine report_view (RequestView.ofRow_failsWith row) (fun v => isSuccess_request v) fun hnow => ?_
  rw [Table.append?_row happ]
  exact RequestView.ofRow_eq_ok_of_isNew hnew hnow hnow

lemma createRequest_settles : Settles ctx c s .newRequest (createRequest ctx c s) := by
  refine settles_withBody fun members vs _ => settles_bind fun d hd => ?_
  have hnew : ∀ r, Store.newRequest (vs.text "user_name") (some (vs.number "user_id"))
      (.ofText (vs.text "type")) (vs.text "reason") = .ok r → r.IsNew := by
    intro r hr
    obtain ⟨id, -, -, rfl⟩ := Store.newRequest_eq_ok_iff.1 hr
    exact ⟨rfl, rfl, rfl, rfl, rfl, rfl⟩
  refine settles_deed rfl (Store.createRequest_effect hnew hd) ?_
  obtain ⟨-, -, -, r, row, t, hr, happ, rfl⟩ := Store.createRequest_eq_ok_iff.1 hd
  exact report_newRequest ctx s (hnew r hr) happ

lemma submit_settles : Settles ctx c s .submit (submit ctx c s) := by
  refine settles_withBody fun members vs _ => settles_bind fun d hd => ?_
  refine settles_deed rfl (Store.submitRequest_effect hd) ?_
  obtain ⟨-, -, -, -, -, r, row, t, hr, happ, rfl⟩ := Store.submitRequest_eq_ok_iff.1 hd
  obtain ⟨id, -, -, rfl⟩ := Store.newRequest_eq_ok_iff.1 hr
  exact report_newRequest ctx s ⟨rfl, rfl, rfl, rfl, rfl, rfl⟩ happ

lemma delete_settles (id : Nat) :
    Settles ctx c s (.deleteCertificate id) (delete ctx id s) := by
  refine settles_bind fun d hd => ?_
  rcases Store.deleteCertificate_effect hd with heffect | ⟨hnone, hstore, hquiet⟩
  · exact settles_deed rfl heffect (Or.inl (isSuccess_done _))
  · exact settles_nothing hstore hquiet fun _ => Or.inr hnone

/-- Every route settles its calls. -/
lemma perform_settles (r : Route) : Settles ctx c s r (perform ctx c s r) := by
  cases r with
  | newCertificate => exact create_settles ctx c s
  | updateCertificate id => exact update_settles ctx c s id
  | deleteCertificate id => exact delete_settles ctx c s id
  | revokeCertificate id =>
    refine settles_bind fun d hd => ?_
    exact settles_deed rfl (noted_effect (Store.revokeCertificate_effect hd) _ _)
      (report_noted d _ _)
  | newRequest => exact createRequest_settles ctx c s
  | approveRequest id =>
    refine settles_bind fun d hd => ?_
    exact settles_deed rfl (noted_effect (Store.approveRequest_effect hd) _ _)
      (report_noted d _ _)
  | rejectRequest id =>
    refine settles_withBody fun members vs _ => settles_bind fun d hd => ?_
    exact settles_deed rfl (Store.rejectRequest_effect hd) (Or.inl (isSuccess_done _))
  | submit => exact submit_settles ctx c s
  | certificates => exact settles_unchanged rfl _
  | requests => exact settles_unchanged rfl _
  | download => exact settles_unchanged rfl _
  | ownCertificate => exact settles_unchanged rfl _
  | ownRequests => exact settles_unchanged rfl _

/-! ### Who may call -/

variable {c} in
/-- A call is denied to who is not known, and to who is not of the staff where only the staff may
call. The log only warns of it. -/
lemma denial?_eq_some {r : Route} {reply : Reply} {log : List LogRecord}
    (h : denial? c r = some (reply, log)) :
    (reply.status = 401 ∨ reply.status = 403) ∧ ∀ rec ∈ log, rec.isNews = false := by
  unfold denial? at h
  split at h
  · simp only [Option.some.injEq, Prod.mk.injEq] at h
    obtain ⟨rfl, rfl⟩ := h
    exact ⟨Or.inl rfl, nofun⟩
  · split_ifs at h
    simp only [Option.some.injEq, Prod.mk.injEq] at h
    obtain ⟨rfl, rfl⟩ := h
    exact ⟨Or.inr rfl, by simp [LogRecord.isNews]⟩

/-- A call to a route is settled by its answer, and it does nothing unless its caller may make it
and the route is for its method. -/
theorem answerRoute_settled (r : Route) :
    ∃ ds, Settled ctx c s r (answerRoute ctx c r s) ds ∧
      (ds ≠ [] → denial? c r = none ∧ allows r c.method) := by
  unfold answerRoute
  split
  · next reply log hdenial =>
    obtain ⟨hstatus, hquiet⟩ := denial?_eq_some hdenial
    refine ⟨[], ⟨.none hquiet, List.nil_sublist _, fun h => absurd rfl h, fun h => ?_⟩,
      fun h => absurd rfl h⟩
    have h : reply.status = 200 := h
    omega
  · next hdenial =>
    split_ifs with hallows
    · obtain ⟨ds, hsettled⟩ := perform_settles ctx c s r
      exact ⟨ds, hsettled, fun _ => ⟨hdenial, hallows⟩⟩
    · refine ⟨[], ⟨.none nofun, List.nil_sublist _, fun h => absurd rfl h, fun h => ?_⟩,
        fun h => absurd rfl h⟩
      exact absurd h (by decide : (405 : Nat) ≠ 200)

end Endpoint

end CertRegistry
