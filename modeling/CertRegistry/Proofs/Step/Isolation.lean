import CertRegistry.Proofs.Step.Answer
import CertRegistry.Proofs.Store.Agreement

/-!
# Isolation of tenants

What a tenant is told depends on nothing that belongs to others, and nothing that a tenant sends
changes what belongs to others. So the calls of a tenant run alike on any two stores that agree for
that tenant: the answers are the same, the stores agree again, and all others are spared.
-/

namespace CertRegistry

open Store (AgreeFor SparesOthers)

namespace Endpoint

variable {ctx : Context} {c : Call} {a : Account} {s t : Store} {u : Int} {r : Route}

lemma unchanged_alike (h : AgreeFor u s t) {reply reply' : Except Failure Reply}
    (hreply : reply = reply') :
    Alike (Done.SameFor u s t) (unchanged s reply) (unchanged t reply') :=
  .ok ⟨hreply, h.isolated⟩

lemma withBody_alike (h : AgreeFor u s t) {schema : Input.Schema}
    {next next' : Input.Values → Outcome}
    (hnext : ∀ vs, Alike (Done.SameFor u s t) (next vs) (next' vs)) :
    Alike (Done.SameFor u s t) (withBody schema ctx c s next) (withBody schema ctx c t next') := by
  refine .bind_self fun members _ => .bind_self fun read _ => ?_
  cases read with
  | ok vs => exact hnext vs
  | error es => exact unchanged_alike h rfl

/-- The routes that are for all users read and write only what belongs to the caller. -/
lemma perform_alike (hc : c.caller = .user a) (hr : r.isForStaff = false)
    (h : AgreeFor a.id s t) :
    Alike (Done.SameFor a.id s t) (perform ctx c s r) (perform ctx c t r) := by
  have hkey : Key.ofCaller c.caller = .ofInt a.id := by rw [hc]; rfl
  cases r with
  | download => exact unchanged_alike h rfl
  | ownCertificate =>
    apply unchanged_alike h
    unfold ownCertificate Store.tenantCertificate?
    rw [hkey, h.certificates]
  | ownRequests =>
    apply unchanged_alike h
    unfold ownRequests Store.tenantRequests
    rw [hkey, h.requests]
  | submit =>
    simp only [perform, submit, hc]
    refine withBody_alike h fun vs => (Store.submitRequest_alike h _ _ _).bind ?_
    intro d d' hd
    exact .ok ⟨congrArg (fun row => (RequestView.ofRow row).map Reply.request) hd.value,
      hd.isolated⟩
  | _ => exact absurd hr.symm Bool.false_ne_true

lemma conclude_sameFor (h : AgreeFor u s t) (action : Text) {o o' : Outcome}
    (ho : Alike (Done.SameFor u s t) o o') :
    (conclude ctx action s o).SameFor u s t (conclude ctx action t o') := by
  cases ho with
  | error f => exact ⟨rfl, h.isolated⟩
  | @ok d d' hd =>
    obtain ⟨value, s', log⟩ := d
    obtain ⟨value', t', log'⟩ := d'
    obtain ⟨rfl, hisolated⟩ := hd
    cases value with
    | ok reply => exact ⟨rfl, hisolated⟩
    | error f => exact ⟨rfl, hisolated⟩

/-- A tenant is denied a route or may call it, whatever the store. -/
lemma answerRoute_sameFor (hc : c.caller = .user a) (hstaff : a.isStaff = false)
    (h : AgreeFor a.id s t) :
    (answerRoute ctx c r s).SameFor a.id s t (answerRoute ctx c r t) := by
  unfold answerRoute
  cases hdenial : denial? c r with
  | some p => exact ⟨rfl, h.isolated⟩
  | none =>
    dsimp only
    by_cases hallows : allows r c.method
    · rw [if_pos hallows, if_pos hallows]
      have hr : r.isForStaff = false := by
        by_contra hr
        obtain ⟨a', ha', hadmin⟩ := denial?_eq_none hdenial
        obtain rfl : a = a' := Caller.user.inj (hc.symm.trans ha')
        rw [Route.isForStaff_eq_isAdmin, Bool.not_eq_false] at hr
        exact absurd (hadmin hr) (by simp [hstaff])
      exact conclude_sameFor h r.action (perform_alike hc hr h)
    · rw [if_neg hallows, if_neg hallows]
      exact ⟨rfl, h.isolated⟩

end Endpoint

namespace Step

variable {ctx : Context} {c : Call} {a : Account} {s t : Store}

lemma run_call_sameFor (hc : c.caller = .user a) (hstaff : a.isStaff = false)
    (h : AgreeFor a.id s t) :
    ((call c).run ctx s).SameFor a.id s t ((call c).run ctx t) := by
  cases hroute : Route.resolve c.path with
  | none =>
    simp only [run, Endpoint.answer, hroute, Option.map_none]
    exact ⟨rfl, h.isolated⟩
  | some r =>
    simp only [run, Endpoint.answer, hroute, Option.map_some]
    have hanswer : (Endpoint.answerRoute ctx c r s).SameFor a.id s t _ :=
      Endpoint.answerRoute_sameFor hc hstaff h
    exact ⟨congrArg StepResult.replied hanswer.value, hanswer.isolated⟩

/-- What comes of each step of a run. -/
def results : Store → List (Context × Step) → List StepResult
  | _, [] => []
  | s, (ctx, step) :: rest => (step.run ctx s).value :: results (step.next ctx s) rest

/-- The calls of a run. -/
def calls (run : List (Context × Call)) : List (Context × Step) :=
  run.map fun p => (p.1, call p.2)

/-- The calls of a tenant, which are no administrator's, are answered alike on any two stores that
agree for the tenant. The stores agree again after them, and either run spares what belongs to
others. -/
theorem calls_isolated (hstaff : a.isStaff = false) {run : List (Context × Call)}
    (hrun : ∀ p ∈ run, p.2.caller = .user a) (h : AgreeFor a.id s t) :
    results s (calls run) = results t (calls run) ∧
    AgreeFor a.id (runAll s (calls run)) (runAll t (calls run)) ∧
    SparesOthers a.id s (runAll s (calls run)) ∧
    SparesOthers a.id t (runAll t (calls run)) := by
  suffices hsame : results s (calls run) = results t (calls run) ∧
      Store.Isolated a.id s t (runAll s (calls run)) (runAll t (calls run)) from
    ⟨hsame.1, hsame.2.agree, hsame.2.left, hsame.2.right⟩
  -- on the run, from any two stores that agree: a call leaves two stores that agree again
  induction run generalizing s t with
  | nil => exact ⟨rfl, h.isolated⟩
  | cons p rest ih =>
    obtain ⟨ctx, c⟩ := p
    have hstep : ((call c).run ctx s).SameFor a.id s t _ :=
      run_call_sameFor (hrun _ List.mem_cons_self) hstaff h
    obtain ⟨hresults, hisolated⟩ :=
      ih (fun p hp => hrun p (List.mem_cons_of_mem _ hp)) hstep.isolated.agree
    exact ⟨List.cons_eq_cons.2 ⟨hstep.value, hresults⟩, hstep.isolated.trans hisolated⟩

/-- A tenant submits a request and then asks for the requests and for a certificate. -/
def tenantCalls : List (Context × Call) :=
  let ctx : Context := { clock := .ofUtc (utc 2026 1 15 4 30) }
  let caller : Caller := .user { id := 8, name := "bob" }
  [(ctx, {
      caller, method := "POST", path := "/certificates/tenant/request/"
      body := Text.Utf8.encode "\x7b\"type\": \"client\", \"reason\": \"access\"\x7d" }),
    (ctx, { caller, method := "GET", path := "/certificates/tenant/requests/" }),
    (ctx, { caller, method := "GET", path := "/certificates/tenant/certificate/" })]

theorem calls_isolated_tenantCalls :
    results heldStore (calls tenantCalls) = results {} (calls tenantCalls) ∧
      (runAll heldStore (calls tenantCalls)).certificatesOfOthers 8 = [heldRow] := by
  have hrun : ∀ p ∈ tenantCalls, p.2.caller = .user { id := 8, name := "bob" } := by decide
  have hagree : AgreeFor 8 heldStore {} := ⟨rfl, rfl, rfl⟩
  obtain ⟨hresults, -, hspares, -⟩ := calls_isolated rfl hrun hagree
  exact ⟨hresults, hspares.certificates.trans rfl⟩

end Step

end CertRegistry
