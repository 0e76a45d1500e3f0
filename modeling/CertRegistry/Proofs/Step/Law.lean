import CertRegistry.Proofs.Step.Effect
import CertRegistry.Proofs.Store.Law

/-!
# Steps and laws

A step of somebody who may act keeps every law that the registry keeps, and so does a run of such
steps, whatever the bodies, the faults and the settings are.
-/

namespace CertRegistry

variable {l : Law} {mayAct : Text → Prop} {ctx : Context} {s : Store}

/-! ### Calls -/

namespace Endpoint

variable {c : Call}

/-- A body that fits gives what its fields declare. -/
lemma withBody_obeys {schema : Input.Schema} {next : Input.Values → Outcome}
    (hschema : schema ∈ Input.schemas) (h : s.Obeys l)
    (hnext : ∀ vs, schema.Gives vs → SucceedsWith (fun d => d.store.Obeys l) (next vs)) :
    SucceedsWith (fun d => d.store.Obeys l) (withBody schema ctx c s next) := by
  refine succeedsWith_withBody (fun _ => h) fun members vs hvs => hnext vs ?_
  exact Input.Schema.bind_gives (Input.default_gives schema hschema) hvs

lemma noted_obeys {α : Type} {d : Done α} (h : d.store.Obeys l) (reply : Reply) (text : Text) :
    (noted d c reply text).store.Obeys l := by
  rwa [(noted_store d c reply text).1]

lemma conclude_obeys {o : Outcome} (h : s.Obeys l) (ho : SucceedsWith (fun d => d.store.Obeys l) o)
    (action : Text) : (conclude ctx action s o).store.Obeys l := by
  cases o with
  | error f => exact h
  | ok d =>
    obtain ⟨log, -, heq⟩ := conclude_ok ctx action s d
    rw [heq]
    exact ho d rfl

variable (ctx) in
/-- What a route does for a caller who may act keeps the law. -/
lemma perform_obeys (hl : l.IsKept mayAct) (hcaller : mayAct c.caller.name) (h : s.Obeys l)
    (r : Route) : SucceedsWith (fun d => d.store.Obeys l) (perform ctx c s r) := by
  cases r with
  | newCertificate =>
    refine withBody_obeys (by simp [Input.schemas]) h fun vs hvs => .bind fun d hd => .ok ?_
    exact Store.recordCertificate_obeys h (fun _ hc => hl.record hvs hc) hd
  | updateCertificate id =>
    refine withBody_obeys (by simp [Input.schemas]) h fun vs hvs => .bind fun d hd => .ok ?_
    exact Store.updateCertificate_obeys h (fun _ hc => hl.update _ hvs hc) hd
  | deleteCertificate id =>
    exact .bind fun d hd => .ok (Store.deleteCertificate_obeys h hd)
  | revokeCertificate id =>
    exact .bind fun d hd => .ok (noted_obeys (Store.revokeCertificate_obeys hl h hd) _ _)
  | newRequest =>
    refine withBody_obeys (by simp [Input.schemas]) h fun vs hvs => .bind fun d hd => .ok ?_
    exact Store.createRequest_obeys h (fun _ hr => hl.request hvs hr) hd
  | approveRequest id =>
    exact .bind fun d hd => .ok (noted_obeys (Store.approveRequest_obeys hl hcaller h hd) _ _)
  | rejectRequest id =>
    refine withBody_obeys (by simp [Input.schemas]) h fun vs hvs => .bind fun d hd => .ok ?_
    exact Store.rejectRequest_obeys hl hcaller (Input.reason_strip_ne_nil hvs) h hd
  | submit =>
    refine withBody_obeys (by simp [Input.schemas]) h fun vs hvs => .bind fun d hd => .ok ?_
    exact Store.submitRequest_obeys h (fun _ hr => hl.submit hcaller hvs hr) hd
  | certificates | requests | download | ownCertificate | ownRequests => exact .ok h

lemma answerRoute_obeys (hl : l.IsKept mayAct) (hcaller : mayAct c.caller.name) (h : s.Obeys l)
    (r : Route) : (answerRoute ctx c r s).store.Obeys l := by
  unfold answerRoute
  split
  · exact h
  · split_ifs
    · exact conclude_obeys h (perform_obeys ctx hl hcaller h r) _
    · exact h

end Endpoint

/-! ### Bulk actions -/

namespace BulkAction

lemma processAll_keeps {α β : Type} {P : Store → Prop} {title : α → Text}
    {act : Row α → Store → Except Failure (Done β)}
    (hact : ∀ row t d, P t → act row t = .ok d → P d.store) {rows : List (Row α)} {p : Progress}
    (h : P p.store) : P (processAll title act rows p).store := by
  induction rows generalizing p with
  | nil => exact h
  | cons row rows ih =>
    unfold processAll
    split
    · next d hd => exact ih (hact row p.store d h hd)
    · split_ifs
      · exact ih h
      · exact h

lemma progress_obeys (hl : l.IsKept mayAct) {admin : Text} (hadmin : mayAct admin) (h : s.Obeys l)
    (a : BulkAction) (ids : List Int) : (a.progress ctx admin ids s).store.Obeys l := by
  unfold progress
  split
  · cases a with
    | revoke =>
      rw [applyTo_revoke Certificate.title]
      apply processAll_keeps (P := (·.Obeys l)) _ h
      intro row t d ht hd
      exact Store.revokeCertificate_obeys hl ht hd
    | approve =>
      apply processAll_keeps (P := (·.Obeys l)) _ h
      intro row t d ht hd
      exact Store.approveRequest_obeys hl hadmin ht hd
    | reject =>
      have hreason : rejectionReason.strip ≠ [] := by decide
      apply processAll_keeps (P := (·.Obeys l)) _ h
      intro row t d ht hd
      exact Store.rejectRequest_obeys hl hadmin hreason ht hd
  · exact h

end BulkAction

/-! ### The change form -/

namespace ChangeForm

lemma save_obeys {id? : Option Int} {data : Text} {d : Done Result} (hl : l.IsKept mayAct)
    (h : s.Obeys l) (hd : save ctx id? data s = .ok d) : d.store.Obeys l := by
  simp only [save, bind_eq_ok_iff] at hd
  obtain ⟨old, hold, fields, -, hd⟩ := hd
  cases old with
  | none =>
    dsimp only at hd
    split at hd
    · obtain rfl := pure_eq_ok_iff.1 hd
      exact h
    · next e he =>
      simp only [bind_eq_ok_iff, Prod.exists, Store.addRequest_eq_ok_iff, pure_eq_ok_iff] at hd
      obtain ⟨row, s', ⟨-, -, -, r, t, ⟨e', he', rfl⟩, happ, rfl⟩, rfl⟩ := hd
      rw [Entries.stored_eq_ok he'] at happ
      exact ⟨h.certificates, h.requests.append? (hl.add (read_isRead he)) happ⟩
  | some row =>
    have hrow : row ∈ s.requests.rows := by
      cases id? with
      | none => exact absurd (Except.ok.inj hold).symm (Option.some_ne_none row)
      | some id =>
        obtain ⟨row', hmem, -, heq⟩ := changed?_eq_ok hold
        rw [Option.some.inj heq]
        exact hmem
    dsimp only at hd
    split_ifs at hd with hpending
    · split at hd
      · obtain rfl := pure_eq_ok_iff.1 hd
        exact h
      · next e he =>
        simp only [bind_eq_ok_iff, Prod.exists, Store.saveRequest_eq_ok_iff, pure_eq_ok_iff] at hd
        obtain ⟨row', s', ⟨-, -, r, ⟨e', he', rfl⟩, -, rfl⟩, rfl⟩ := hd
        rw [Entries.stored_eq_ok he']
        exact ⟨h.certificates,
          h.requests.change (hl.edit (read_isRead he) hpending (h.requests row hrow))⟩
    · simp only [bind_eq_ok_iff, Prod.exists, Store.saveRequest_eq_ok_iff, pure_eq_ok_iff] at hd
      obtain ⟨row', s', ⟨-, -, r, hr, -, rfl⟩, rfl⟩ := hd
      obtain rfl := Except.ok.inj hr
      exact ⟨h.certificates, h.requests.change (h.requests row hrow)⟩

end ChangeForm

/-! ### Steps and runs -/

namespace Step

/-- Who makes a step; the form and the command write no name down. -/
def actor : Step → Caller
  | call c => c.caller
  | bulk _ _ admin => admin
  | form _ _ => .anonymous
  | refresh _ => .anonymous

/-- A step of somebody who may act keeps the law. -/
theorem next_obeys (hl : l.IsKept mayAct) {step : Step}
    (hactor : mayAct step.actor.name) (h : s.Obeys l) : (step.next ctx s).Obeys l := by
  cases step with
  | call c =>
    cases hroute : Route.resolve c.path with
    | none => simpa only [next, run, Endpoint.answer, hroute, Option.map_none] using h
    | some r =>
      simp only [next, run, Endpoint.answer, hroute, Option.map_some]
      exact Endpoint.answerRoute_obeys hl hactor h r
  | bulk a ids admin => exact BulkAction.progress_obeys hl hactor h a ids
  | form id? data =>
    simp only [next, run]
    split
    · next d hd => exact ChangeForm.save_obeys hl h hd
    · exact h
  | refresh options =>
    simp only [next, run]
    split
    · next d hd =>
      simp only [Command.run, bind_eq_ok_iff, pure_eq_ok_iff] at hd
      obtain ⟨d', hd', rfl⟩ := hd
      exact Store.refresh_obeys hl h hd'
    · exact h

/-- A run of steps of those who may act keeps the law. -/
theorem runAll_obeys (hl : l.IsKept mayAct) {run : List (Context × Step)}
    (hrun : ∀ p ∈ run, mayAct p.2.actor.name) (h : s.Obeys l) : (runAll s run).Obeys l :=
  runAll_invariant (P := (·.Obeys l)) (fun p hp _ hs => next_obeys hl (hrun p hp) hs) h

end Step

end CertRegistry
