import CertRegistry.Proofs.Http.Effect
import CertRegistry.Proofs.Store.Fault

/-!
# Calls that fail

A call fails where its caller may make it and what its route does, or what there is to say about it
afterwards, ends in a failure. Then the failure is the answer, and the log has a record of it. The
record says whether the failure is a refusal or an error, and the status of the answer says the same
unless a date could not be shown. Nobody else's answer tells of a fault of the registry's own.
-/

namespace CertRegistry

/-! ### Records of failures -/

namespace Failure

variable {f : Failure}

/-- The log and the answer agree on what is a refusal, except for a date that cannot be shown. -/
lemma isRefusal_iff (h : f ≠ .zoneOverflow) : f.isRefusal ↔ f.status = 400 := by
  cases f with
  | zoneOverflow => exact absurd rfl h
  | _ => simp [isRefusal, isRule, status]

lemma record_source (f : Failure) (action : Text) : (f.record action).source = .endpoints := by
  simp only [record]
  split_ifs <;> rfl

lemma record_level (h : f ≠ .zoneOverflow) (action : Text) :
    f.status = 500 ∧ (f.record action).level = .error ∨
      f.status = 400 ∧ (f.record action).level = .info := by
  simp only [record]
  split_ifs with hrefusal
  · exact Or.inr ⟨(isRefusal_iff h).1 hrefusal, rfl⟩
  · exact Or.inl ⟨f.status_eq.resolve_left (mt (isRefusal_iff h).2 hrefusal), rfl⟩

end Failure

/-! ### Bodies and queries -/

namespace Input

lemma checkSize_failsWith (limit? : Option Json) (size : Except Json.IntegerFailure Int) :
    FailsWith (· ≠ .zoneOverflow) (checkSize limit? size) := by
  simp only [checkSize]
  split
  · exact .error Failure.noConfusion
  · exact .ok ()
  · exact .error Failure.noConfusion
  · split
    · exact .error Failure.noConfusion
    · exact .ok ()
    · exact .error Failure.noConfusion

lemma parseMembers_failsWith (bytes : List Nat) :
    FailsWith (· ≠ .zoneOverflow) (parseMembers bytes) := by
  simp only [parseMembers]
  split_ifs
  · exact .ok []
  · split
    · exact .error Failure.noConfusion
    · split
      · exact .error Failure.noConfusion
      · exact .error Failure.noConfusion
      · exact .error Failure.noConfusion
      · exact .error Failure.noConfusion
      · exact .ok _
      · exact .error Failure.noConfusion

lemma readBody_failsWith (settings : Settings) (declared? : Option Json) (bytes : List Nat) :
    FailsWith (· ≠ .zoneOverflow) (readBody settings declared? bytes) :=
  (checkSize_failsWith _ _).bind fun _ => parseMembers_failsWith _

lemma readMoment_failsWith (v : Json) : FailsWith (· ≠ .zoneOverflow) (readMoment v) := by
  simp only [readMoment]
  split
  · split
    · exact .ok _
    · split
      · exact .ok _
      · split_ifs
        · exact .ok _
        · exact .error Failure.noConfusion
  · exact .ok _

lemma Field.read_failsWith (f : Field) (v? : Option Json) :
    FailsWith (· ≠ .zoneOverflow) (f.read v?) := by
  simp only [Field.read]
  split
  · split
    · exact .ok _
    · exact .ok _
  · exact .ok _
  · unfold FieldKind.read
    split
    · exact .ok _
    · exact .ok _
    · exact .ok _
    · exact readMoment_failsWith _

lemma Schema.bind_failsWith (schema : Schema) (members : List (Text × Json)) :
    FailsWith (· ≠ .zoneOverflow) (schema.bind members) := by
  induction schema with
  | nil => exact .ok _
  | cons f fs ih => exact (f.read_failsWith _).bind fun _ => ih.bind fun _ => .ok _

lemma checkFields_failsWith (limit? : Option Json) (count : Nat) :
    FailsWith (· ≠ .zoneOverflow) (checkFields limit? count) := by
  simp only [checkFields]
  split
  · exact .error Failure.noConfusion
  · exact .ok ()
  · split
    · exact .error Failure.noConfusion
    · exact .ok ()
    · exact .error Failure.noConfusion

end Input

lemma parameterValue_failsWith (v : Json) :
    FailsWith (· ≠ .zoneOverflow) (parameterValue v) := by
  simp only [parameterValue]
  split
  · exact .ok _
  · exact .error Failure.noConfusion
  · exact .error Failure.noConfusion

lemma smallerValue_failsWith (v w : Json) :
    FailsWith (· ≠ .zoneOverflow) (smallerValue v w) := by
  simp only [smallerValue]
  split
  · exact .ok _
  · exact .error Failure.noConfusion

lemma queryPage_failsWith (settings : Settings) (query : Text) :
    FailsWith (· ≠ .zoneOverflow) (queryPage settings query) := by
  refine ((Input.checkFields_failsWith _ _).bind fun _ => .ok _).bind fun fields => ?_
  refine (parameterValue_failsWith _).bind fun page => ?_
  refine (parameterValue_failsWith _).bind fun perPage => ?_
  exact (smallerValue_failsWith _ _).bind fun _ => .ok _

lemma pagePlace_failsWith (page perPage : Json) :
    FailsWith (· ≠ .zoneOverflow) (pagePlace page perPage) := by
  simp only [pagePlace]
  split
  · exact .error Failure.noConfusion
  · refine FailsWith.map ?_ _
    simp only [pageNumber]
    split
    · split
      · exact .ok _
      · exact .error Failure.noConfusion
    · split
      · exact .ok _
      · exact .error Failure.noConfusion

lemma pageOf_failsWith {α : Type} (rows : List α) (page perPage : Int) :
    FailsWith (· ≠ .zoneOverflow) (pageOf rows page perPage) := by
  simp only [pageOf]
  split_ifs
  · exact .ok _
  · exact .error Failure.noConfusion
  · exact .ok _
  · exact .ok _

lemma listPage_failsWith {α : Type} (ctx : Context) (rows : List α) (page perPage : Json) :
    FailsWith (· ≠ .zoneOverflow) (listPage ctx rows page perPage) := by
  refine (pagePlace_failsWith page perPage).bind fun place => ?_
  refine (ctx.reach_faults.mono fun f => f.ne_zoneOverflow_of_status).bind fun _ => ?_
  exact (pageOf_failsWith rows _ _).bind fun _ => .ok _

namespace Endpoint

variable {ctx : Context} {c : Call} {s : Store} {r : Route}

/-! ### What the routes do -/

lemma withBody_failsWith {schema : Input.Schema} {next : Input.Values → Outcome}
    (hnext : ∀ vs, FailsWith (· ≠ .zoneOverflow) (next vs)) :
    FailsWith (· ≠ .zoneOverflow) (withBody schema ctx c s next) := by
  refine (Input.readBody_failsWith _ _ _).bind fun members => ?_
  refine (Input.Schema.bind_failsWith schema members).bind fun read => ?_
  cases read with
  | ok vs => exact hnext vs
  | error es => exact .ok _

/-- Where a route fails before anything happened, it is not because of a date that cannot be shown:
nothing is shown until then. -/
lemma perform_failsWith (r : Route) : FailsWith (· ≠ .zoneOverflow) (perform ctx c s r) := by
  have hne (f : Failure) := f.ne_zoneOverflow_of_status
  cases r with
  | certificates | requests | download | ownCertificate | ownRequests => exact .ok _
  | newCertificate =>
    refine withBody_failsWith fun vs => .bind ?_ fun _ => .ok _
    refine (Store.recordCertificate_faults ?_).mono hne
    exact (Store.userColumn_faults _ _).bind fun _ => .ok _
  | updateCertificate id =>
    refine withBody_failsWith fun vs => .bind ?_ fun _ => .ok _
    exact (Store.updateCertificate_faults _ _ _).mono hne
  | deleteCertificate id =>
    exact ((Store.deleteCertificate_faults _).mono hne).bind fun _ => .ok _
  | revokeCertificate id =>
    exact ((Store.revokeCertificate_faults _).mono hne).bind fun _ => .ok _
  | newRequest =>
    refine withBody_failsWith fun vs => .bind ?_ fun _ => .ok _
    exact (Store.createRequest_faults (Store.newRequest_faults _ _ _ _)).mono hne
  | approveRequest id =>
    exact ((Store.approveRequest_faults _ _).mono hne).bind fun _ => .ok _
  | rejectRequest id =>
    refine withBody_failsWith fun vs => .bind ?_ fun _ => .ok _
    exact (Store.rejectRequest_faults _ _ _).mono hne
  | submit =>
    refine withBody_failsWith fun vs => .bind ?_ fun _ => .ok _
    exact Store.submitRequest_ne_zoneOverflow _ _ (Store.newRequest_faults _ _ _ _)

/-! ### Answers that blame nobody or the call -/

section

variable {α : Type}

/-- An answer that is no fault of the registry's own, or none. -/
def IsBlameless (value : Except Failure Reply) : Prop := SucceedsWith (·.status < 500) value

lemma isBlameless_success {reply : Reply} (h : reply.status = 200) : IsBlameless (.ok reply) := by
  apply SucceedsWith.ok
  rw [h]
  decide

lemma isBlameless_noted (d : Done α) (message text : Text) :
    IsBlameless (noted d c (.done message) text).value := by
  simp only [noted]
  split
  · exact isBlameless_success rfl
  · exact .error _

lemma isBlameless_map {view : Except Failure α} {toReply : α → Reply}
    (h : ∀ v, (toReply v).status = 200) : IsBlameless (view.map toReply) :=
  .map fun v => (h v).trans_lt (by decide)

end

variable (ctx c s)

/-- Every route blames the call or nobody, unless it fails. -/
lemma perform_isBlameless (r : Route) :
    SucceedsWith (fun d => IsBlameless d.value) (perform ctx c s r) := by
  have hrefused (error : Text) : IsBlameless (.ok (.refused 400 error)) :=
    .ok (by decide : (400 : Nat) < 500)
  cases r with
  | newCertificate | updateCertificate id | newRequest | submit =>
    refine succeedsWith_withBody hrefused fun members vs _ => .bind fun d _ => .ok ?_
    exact isBlameless_map fun _ => rfl
  | rejectRequest id =>
    refine succeedsWith_withBody hrefused fun members vs _ => .bind fun d _ => .ok ?_
    exact isBlameless_success rfl
  | deleteCertificate id => exact .bind fun d _ => .ok (isBlameless_success rfl)
  | revokeCertificate id | approveRequest id =>
    exact .bind fun d _ => .ok (isBlameless_noted d _ _)
  | certificates | requests =>
    refine .ok (.bind fun query _ => .bind fun page _ => .bind fun views _ => ?_)
    exact isBlameless_success rfl
  | ownCertificate | ownRequests =>
    exact .ok (.bind fun _ _ => .bind fun views _ => isBlameless_success rfl)
  | download => exact .ok (isBlameless_success rfl)

/-! ### Failing -/

/-- A call to a route fails: its caller may make it by its method, and what the route does, or what
there is to say about it afterwards, ends in a failure. -/
structure Fails (r : Route) (f : Failure) : Prop where
  denial : denial? c r = none
  allows : allows r c.method
  outcome : perform ctx c s r = .error f ∨ ∃ d, perform ctx c s r = .ok d ∧ d.value = .error f

variable {ctx c s}

/-- A call that fails is answered for what it did so far, with one record more. -/
lemma Fails.answerRoute_eq {f : Failure} (h : Fails ctx c s r f) :
    (perform ctx c s r = .error f ∧ answerRoute ctx c r s =
      { value := .ofFailure ctx f, store := s, log := [f.record r.action] }) ∨
    ∃ d, perform ctx c s r = .ok d ∧ d.value = .error f ∧ answerRoute ctx c r s =
      { value := .ofFailure ctx f, store := d.store, log := d.log ++ [f.record r.action] } := by
  have hconclude : answerRoute ctx c r s = conclude ctx r.action s (perform ctx c s r) := by
    simp only [answerRoute, h.denial, h.allows, if_true]
  rw [hconclude]
  rcases h.outcome with hperform | ⟨d, hperform, hvalue⟩
  · exact Or.inl ⟨hperform, by rw [hperform]; rfl⟩
  · exact Or.inr ⟨d, hperform, hvalue, by simp only [hperform, conclude, hvalue]⟩

lemma Fails.value_eq {f : Failure} (h : Fails ctx c s r f) :
    (answerRoute ctx c r s).value = .ofFailure ctx f := by
  rcases h.answerRoute_eq with ⟨-, heq⟩ | ⟨d, -, -, heq⟩
  · rw [heq]
  · rw [heq]

/-- An answer that tells of a fault of the registry's own is that to a call that fails. -/
lemma exists_fails (h : 500 ≤ (answerRoute ctx c r s).value.status) : ∃ f, Fails ctx c s r f := by
  unfold answerRoute at h
  split at h
  · next reply log hdenial =>
    have hstatus := (denial?_eq_some hdenial).1
    have h : 500 ≤ reply.status := h
    omega
  · next hdenial =>
    split_ifs at h with hallows
    · cases hperform : perform ctx c s r with
      | error f => exact ⟨f, hdenial, hallows, Or.inl hperform⟩
      | ok d =>
        obtain ⟨log, -, heq⟩ := conclude_ok ctx r.action s d
        rw [hperform, heq] at h
        cases hvalue : d.value with
        | error f => exact ⟨f, hdenial, hallows, Or.inr ⟨d, hperform, hvalue⟩⟩
        | ok reply =>
          rw [hvalue] at h
          exact absurd h (not_le.2 (perform_isBlameless ctx c s r d hperform reply hvalue))
    · exact absurd h (by decide : ¬ 500 ≤ 405)

end Endpoint

end CertRegistry
