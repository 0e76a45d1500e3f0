import CertRegistry.Proofs.Step.Effect

/-!
# Answered calls

A call that is not answered as a success has left the store alone, as long as what it has done can
be shown and the origin of the call can be told. So whoever sees a refusal may take it that nothing
happened, and only a call of somebody who may make it has any effect.
-/

namespace CertRegistry

open Moment (IsShown)

namespace Route

/-- The routes that write. -/
def isWriting : Route → Bool
  | newCertificate | updateCertificate _ | deleteCertificate _ | revokeCertificate _ | newRequest
  | approveRequest _ | rejectRequest _ | submit => true
  | certificates | requests | download | ownCertificate | ownRequests => false

/-- The routes of the administrators, by their paths. -/
def isAdmin (r : Route) : Bool := (words ["admin"]).isPrefixOf r.toWords

/-- A call to a route that does not write has nothing to do. -/
lemma isWriting_of_mem_deeds {r : Route} {d : Deed} (h : d ∈ r.deeds) : r.isWriting := by
  cases r with
  | certificates | requests | download | ownCertificate | ownRequests =>
    exact absurd h List.not_mem_nil
  | _ => rfl

/-- The only route that others than administrators may write by is the submission. -/
lemma isAdmin_of_isWriting {r : Route} (h : r.isWriting) (hr : r ≠ submit) : r.isAdmin := by
  cases r with
  | submit => exact absurd rfl hr
  | certificates | requests | download | ownCertificate | ownRequests =>
    exact absurd h Bool.false_ne_true
  | _ => rfl

/-- Only the staff may call the routes of the administrators, and anybody known the others. -/
lemma isForStaff_eq_isAdmin (r : Route) : r.isForStaff = r.isAdmin := by
  cases r <;> simp [isForStaff, isAdmin, toWords, words] <;> decide

end Route

/-- The addresses that a call was passed on from are a text, if they are told at all. -/
def Call.IsServed (c : Call) : Prop :=
  ∃ addresses? : Option Text, c.forwardedFor = .ofText? addresses?

/-- The origin of a served call can be told. -/
lemma Call.IsServed.origin_ne_error {c : Call} (h : c.IsServed) (f : Failure) :
    c.origin ≠ .error f := by
  obtain ⟨addresses?, h⟩ := h
  rw [origin, h]
  cases addresses? with
  | none => exact nofun
  | some t => cases t <;> exact nofun

namespace Endpoint

variable {ctx : Context} {c : Call} {s : Store} {r : Route} {reply : Reply}

/-- What a served call did is reported, where all dates can be shown. -/
lemma not_unreported (hnow : IsShown ctx.clock.instant)
    (hrows : ∀ row ∈ s.certificates.rows, row.ShowsIssue) (hserved : c.IsServed) :
    ¬ Unreported ctx c s reply r := by
  intro h
  cases r with
  | newCertificate => exact h.1 hnow
  | newRequest => exact h.1 hnow
  | submit => exact h.1 hnow
  | updateCertificate id => exact h.1 ⟨hnow, fun row hrow _ => hrows row hrow⟩
  | revokeCertificate id | approveRequest id =>
    obtain ⟨f, hf, -⟩ := h
    exact hserved.origin_ne_error f hf
  | deleteCertificate | rejectRequest | certificates | requests | download | ownCertificate
  | ownRequests => exact h

/-- Nobody unknown may call a route, and nobody but the staff one of the administrators. -/
lemma denial?_eq_none (h : denial? c r = none) :
    ∃ a, c.caller = .user a ∧ (r.isAdmin → a.isStaff) := by
  rw [← Route.isForStaff_eq_isAdmin]
  unfold denial? at h
  split at h
  · exact absurd h nofun
  · next a ha =>
    refine ⟨a, ha, fun hroute => ?_⟩
    by_contra hstaff
    rw [hroute, Bool.eq_false_of_not_eq_true hstaff] at h
    exact absurd h nofun

lemma answerRoute_status_of_anonymous (h : c.caller = .anonymous) :
    (answerRoute ctx c r s).value.status = 401 := by
  simp only [answerRoute, denial?, h]
  rfl

lemma answerRoute_status_of_not_staff {a : Account} (h : c.caller = .user a)
    (hstaff : a.isStaff = false) (hroute : r.isAdmin) :
    (answerRoute ctx c r s).value.status = 403 := by
  rw [← Route.isForStaff_eq_isAdmin] at hroute
  simp only [answerRoute, denial?, h, hstaff, hroute]
  rfl

lemma allows_eq_true_iff {method : Text} :
    allows r method = true ↔ ∃ m ∈ r.methods, Method.ofText? method = some m := by
  unfold allows
  split
  · next m hm => simp [hm]
  · next hnone => simp [hnone]

end Endpoint

namespace StepResult

/-- The status that a call was answered with. -/
def status? : StepResult → Option Nat
  | replied reply => some reply.status
  | _ => none

end StepResult

namespace Step

variable {ctx : Context} {s : Store} {c : Call}

lemma run_call {r : Route} (hroute : Route.resolve c.path = some r) :
    (call c).run ctx s = { Endpoint.answerRoute ctx c r s with
      value := .replied (Endpoint.answerRoute ctx c r s).value } := by
  simp [run, Endpoint.answer, hroute]

lemma run_call_of_none (hroute : Route.resolve c.path = none) :
    (call c).run ctx s = { value := .unrouted, store := s } := by
  simp [run, Endpoint.answer, hroute]

/-- A call that changed the store is one that may write, and its answer tells of it. -/
lemma call_reported (h : ((call c).run ctx s).store ≠ s) : ∃ r reply,
    Route.resolve c.path = some r ∧ r.isWriting ∧ Endpoint.denial? c r = none ∧
      Endpoint.allows r c.method ∧ ((call c).run ctx s).value = .replied reply ∧
      (reply.IsSuccess ∨ Endpoint.Unreported ctx c s reply r) := by
  cases hroute : Route.resolve c.path with
  | none =>
    rw [run_call_of_none hroute] at h
    exact absurd rfl h
  | some r =>
    rw [run_call hroute] at h ⊢
    obtain ⟨ds, hsettled, hmay⟩ := Endpoint.answerRoute_settled ctx c s r
    have hds : ds ≠ [] := by
      rintro rfl
      exact h hsettled.effect.changes.eq_of_nil
    obtain ⟨hdenial, hallows⟩ := hmay hds
    obtain ⟨d, hd⟩ := List.exists_mem_of_ne_nil ds hds
    exact ⟨r, _, rfl, Route.isWriting_of_mem_deeds (hsettled.sublist.subset hd), hdenial, hallows,
      rfl, hsettled.reported hds⟩

/-- A call that is not answered as a success leaves the store alone, and a call that changes it is
a writing one, by a method of its route and by somebody who may make it, and it is answered as a
success. Who is not known is answered so on every route, and who is not of the staff on every route
of the administrators. The dates of the issue of every certificate and the time now must be such
that they can be shown. -/
theorem call_untouched_or_answered (hnow : IsShown ctx.clock.instant)
    (hrows : ∀ row ∈ s.certificates.rows, row.ShowsIssue) (hserved : c.IsServed) :
    let d := (call c).run ctx s
    (d.value.status? ≠ some 200 → d.store = s) ∧
    (d.store ≠ s → ∃ r a reply, Route.resolve c.path = some r ∧ r.isWriting ∧
      (∃ m ∈ r.methods, Method.ofText? c.method = some m) ∧
      c.caller = .user a ∧ (r ≠ .submit → a.isStaff) ∧
      d.value = .replied reply ∧ reply.IsSuccess) ∧
    ∀ r, Route.resolve c.path = some r →
      (c.caller = .anonymous → d.value.status? = some 401) ∧
      ∀ a, c.caller = .user a → a.isStaff = false → r.isAdmin → d.value.status? = some 403 := by
  intro d
  have hreported : d.store ≠ s → ∃ r a reply, Route.resolve c.path = some r ∧ r.isWriting ∧
      (∃ m ∈ r.methods, Method.ofText? c.method = some m) ∧
      c.caller = .user a ∧ (r ≠ .submit → a.isStaff) ∧
      d.value = .replied reply ∧ reply.IsSuccess := by
    intro hchanged
    obtain ⟨r, reply, hroute, hwriting, hdenial, hallows, hvalue, hreply⟩ := call_reported hchanged
    obtain ⟨a, ha, hstaff⟩ := Endpoint.denial?_eq_none hdenial
    exact ⟨r, a, reply, hroute, hwriting, Endpoint.allows_eq_true_iff.1 hallows, ha,
      fun hr => hstaff (Route.isAdmin_of_isWriting hwriting hr), hvalue,
      hreply.resolve_right (Endpoint.not_unreported hnow hrows hserved)⟩
  refine ⟨fun hstatus => ?_, hreported, fun r hroute => ?_⟩
  · by_contra hchanged
    obtain ⟨-, -, reply, -, -, -, -, -, hvalue, hsuccess⟩ := hreported hchanged
    rw [hvalue] at hstatus
    exact hstatus (congrArg some hsuccess.status)
  · have hd : d = _ := run_call hroute
    rw [hd]
    exact ⟨fun h => congrArg some (Endpoint.answerRoute_status_of_anonymous h),
      fun a ha hstaff hr => congrArg some (Endpoint.answerRoute_status_of_not_staff ha hstaff hr)⟩

/-- A certificate that its holder was issued. -/
def heldRow : Row Certificate where
  id := 1
  createdAt := 0
  updatedAt := 0
  data := {
    name := "ann-client-cert"
    kind := .client
    status := .valid
    owner := "ann"
    ownerId := 7
    content := []
    issued := some 0
    expires := utc 2027 1 15 4 30 }

/-- A store with this certificate and nothing else. -/
def heldStore : Store where
  certificates := .single heldRow (by decide)
  requests := default

/-- An administrator changes a certificate. -/
def changeCall : Call where
  caller := .user { id := 1, name := "root", isStaff := true }
  method := "PUT"
  path := "/certificates/admin/certificates/1/update/"
  body := Text.Utf8.encode
    "\x7b\"name\": \"n\", \"expiration_date\": \"2030-01-01T00:00:00Z\"\x7d"

theorem call_untouched_changeCall :
    let ctx : Context :=
      { clock := .ofUtc (utc 2026 1 15 4 30), fault := some ⟨.certificateSave, "disk"⟩ }
    (∀ row ∈ heldStore.certificates.rows, row.ShowsIssue) ∧
      ((call changeCall).run ctx heldStore).store = heldStore := by
  intro ctx
  have hnow : IsShown ctx.clock.instant := Moment.isShown_iff.2 (by decide)
  have hrows : ∀ row ∈ heldStore.certificates.rows, row.ShowsIssue := by
    intro row hrow
    obtain rfl := List.mem_singleton.1 hrow
    have hepoch : IsShown 0 := Moment.isShown_iff.2 (by decide)
    exact ⟨fun t ht => Option.some.inj ht ▸ hepoch, hepoch⟩
  have hserved : changeCall.IsServed := ⟨none, rfl⟩
  have hstatus : ((call changeCall).run ctx heldStore).value.status? ≠ some 200 := by decide +kernel
  exact ⟨hrows, (call_untouched_or_answered hnow hrows hserved).1 hstatus⟩

end Step

end CertRegistry
