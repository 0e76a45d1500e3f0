import CertRegistry.Proofs.Admin.BulkAction
import CertRegistry.Proofs.Http.Effect
import CertRegistry.Step

/-!
# The deeds of each step

A call does the deed of its route or nothing, a form and the command likewise. A bulk action does
one deed for each row that it changes. So whatever every deed keeps is kept by every step and every
run, and the log of a step tells of its deeds.
-/

namespace CertRegistry

/-! ### Bulk actions -/

namespace BulkAction

/-- What an action does to a row. -/
def deed (a : BulkAction) (id : Int) : Deed :=
  match a with
  | revoke => .revoke id
  | approve => .approve id
  | reject => .reject id

/-- The deeds of an action on rows, one after the other: each is the deed for one of the rows. -/
lemma processAll_effect {α β : Type} (title : α → Text) {now : Instant} (deed : Int → Deed)
    {act : Row α → Store → Except Failure (Done β)} {s : Store}
    (hact : ∀ row t d, act row t = .ok d → Effect now [deed row.id] t d.store d.log) :
    ∀ (rows : List (Row α)) (p : Progress) {ds : List Deed}, Effect now ds s p.store p.log →
      ∃ es, (∀ d ∈ es, ∃ row ∈ rows, d = deed row.id) ∧
        Effect now (ds ++ es) s (processAll title act rows p).store
          (processAll title act rows p).log
  | [], p, ds, h => ⟨[], by simp, by simpa [processAll] using h⟩
  | row :: rows, p, ds, h => by
    unfold processAll
    split
    · next d hd =>
      obtain ⟨es, hes, heffect⟩ := processAll_effect title deed hact rows
        { p with store := d.store, log := p.log ++ d.log, changed := p.changed + 1 }
        (h.append (hact row _ d hd))
      refine ⟨deed row.id :: es, ?_, by simpa using heffect⟩
      intro e he
      rcases List.mem_cons.1 he with rfl | he
      · exact ⟨row, List.mem_cons_self, rfl⟩
      · obtain ⟨row', hrow', rfl⟩ := hes e he
        exact ⟨row', List.mem_cons_of_mem _ hrow', rfl⟩
    · next f hf =>
      split_ifs
      · obtain ⟨es, hes, heffect⟩ := processAll_effect title deed hact rows
          { p with notices := p.notices ++ [⟨true, title row.data ++ ": " ++ f.message⟩] } h
        refine ⟨es, fun e he => ?_, heffect⟩
        obtain ⟨row', hrow', rfl⟩ := hes e he
        exact ⟨row', List.mem_cons_of_mem _ hrow', rfl⟩
      · exact ⟨[], by simp, by simpa using h⟩

/-- So an action on rows of a selection does its deed for some of the selected ids. -/
lemma exists_deeds_processAll {α β : Type} (title : α → Text) {now : Instant} (deed : Int → Deed)
    {act : Row α → Store → Except Failure (Done β)} {s : Store} {rows : List (Row α)}
    {ids : List Int} (hact : ∀ row t d, act row t = .ok d → Effect now [deed row.id] t d.store d.log)
    (hrows : ∀ row ∈ rows, row.id ∈ ids) :
    let p := processAll title act rows { store := s }
    ∃ ds, (∀ d ∈ ds, ∃ id ∈ ids, d = deed id) ∧ Effect now ds s p.store p.log := by
  have hstart : Effect now [] s s [] := .none (by simp)
  obtain ⟨ds, hds, heffect⟩ := processAll_effect title deed hact rows { store := s } hstart
  refine ⟨ds, fun d hd => ?_, heffect⟩
  obtain ⟨row, hrow, rfl⟩ := hds d hd
  exact ⟨row.id, hrows row hrow, rfl⟩

variable (ctx : Context) (s : Store)

lemma applyTo_effect (admin : Text) (ids : List Int) (a : BulkAction) :
    ∃ ds, (∀ d ∈ ds, ∃ id ∈ ids, d = a.deed id) ∧
      Effect ctx.clock.instant ds s (a.applyTo ctx admin ids s).store
        (a.applyTo ctx admin ids s).log := by
  cases a with
  | revoke =>
    rw [applyTo_revoke Certificate.title]
    refine exists_deeds_processAll _ revoke.deed (fun row t d hd => ?_) fun row hrow => ?_
    · exact Store.revokeCertificate_effect hd
    · exact mem_of_mem_selected (List.mem_filter.1 hrow).1
  | approve =>
    refine exists_deeds_processAll _ approve.deed (fun row t d hd => ?_) fun row hrow => ?_
    · exact Store.approveRequest_effect hd
    · exact mem_of_mem_selected hrow
  | reject =>
    refine exists_deeds_processAll _ reject.deed (fun row t d hd => ?_) fun row hrow => ?_
    · exact Store.rejectRequest_effect hd
    · exact mem_of_mem_selected hrow

lemma progress_effect (a : BulkAction) (admin : Text) (ids : List Int) :
    ∃ ds, (∀ d ∈ ds, ∃ id ∈ ids, d = a.deed id) ∧
      Effect ctx.clock.instant ds s (a.progress ctx admin ids s).store
        (a.progress ctx admin ids s).log := by
  unfold progress
  split
  · exact applyTo_effect ctx s admin ids a
  · exact ⟨[], by simp, .none (by simp)⟩

end BulkAction

/-! ### The change form -/

namespace ChangeForm

variable {ctx : Context} {s : Store}

/-- What a form may do. -/
def deeds : Option Int → List Deed
  | none => [.request true]
  | some id => [.edit id, .touch id]

/-- The request that a form changes is the stored one with the id of the form. -/
lemma changed?_eq_ok {id : Int} {old : Option (Row CertificateRequest)}
    (h : changed? ctx (some id) s = .ok old) :
    ∃ row ∈ s.requests.rows, row.id = id ∧ old = some row := by
  obtain ⟨-, -, h⟩ := bind_eq_ok_iff.1 h
  split at h
  · next row hrow =>
    obtain ⟨hmem, hid⟩ := Table.find?_eq_some_iff.1 hrow
    exact ⟨row, hmem, hid, pure_eq_ok_iff.1 h⟩
  · exact absurd h throw_ne_ok

lemma save_effect {id? : Option Int} {data : Text} {d : Done Result}
    (h : save ctx id? data s = .ok d) :
    ∃ ds, ds.length ≤ 1 ∧ ds ⊆ deeds id? ∧ Effect ctx.clock.instant ds s d.store d.log := by
  simp only [save, bind_eq_ok_iff] at h
  obtain ⟨old, hold, fields, -, h⟩ := h
  have hnothing {value : Result} (h : (pure { value, store := s } : Except Failure _) = .ok d) :
      ∃ ds, ds.length ≤ 1 ∧ ds ⊆ deeds id? ∧ Effect ctx.clock.instant ds s d.store d.log := by
    obtain rfl := pure_eq_ok_iff.1 h
    exact ⟨[], by simp, List.nil_subset _, .none (by simp)⟩
  cases id? with
  | none =>
    obtain rfl : none = old := Except.ok.inj hold
    simp only at h
    split at h
    · exact hnothing h
    · simp only [bind_eq_ok_iff, Prod.exists, Store.addRequest_eq_ok_iff, pure_eq_ok_iff] at h
      obtain ⟨row, s', ⟨-, -, -, r, t, ⟨e, -, rfl⟩, happ, rfl⟩, rfl⟩ := h
      have hnew : e.toRequest.IsNew := ⟨rfl, rfl, rfl, rfl, rfl, rfl⟩
      exact ⟨[.request true], le_rfl, List.Subset.refl _, .single (.request true hnew happ),
        .unlogged rfl⟩
  | some id =>
    obtain ⟨row, hrow, rfl, rfl⟩ := changed?_eq_ok hold
    simp only at h
    split_ifs at h with hpending
    · split at h
      · exact hnothing h
      · simp only [bind_eq_ok_iff, Prod.exists, Store.saveRequest_eq_ok_iff, pure_eq_ok_iff] at h
        obtain ⟨row', s', ⟨-, -, r, ⟨e, -, rfl⟩, -, rfl⟩, rfl⟩ := h
        exact ⟨[.edit row.id], le_rfl, by simp [deeds], .single (.edit hrow hpending e),
          .unlogged rfl⟩
    · simp only [bind_eq_ok_iff, Prod.exists, Store.saveRequest_eq_ok_iff, pure_eq_ok_iff] at h
      obtain ⟨row', s', ⟨-, -, r, hr, -, rfl⟩, rfl⟩ := h
      obtain rfl := Except.ok.inj hr
      rw [Bool.not_eq_true] at hpending
      exact ⟨[.touch row.id], le_rfl, by simp [deeds], .single (.touch hrow hpending),
        .unlogged rfl⟩

end ChangeForm

/-! ### Steps and runs -/

/-- A deed that only a call may do. -/
def Deed.isOfCall : Deed → Bool
  | record | update _ | delete _ | request false | submit => true
  | _ => false

namespace Step

/-- Whether a step may do a deed. -/
def MayDo : Step → Deed → Prop
  | call c, d =>
    ∃ r, Route.resolve c.path = some r ∧ Endpoint.denial? c r = none ∧
      Endpoint.allows r c.method ∧ d ∈ r.deeds
  | bulk a ids _, d => ∃ id ∈ ids, d = a.deed id
  | form id? _, d => d ∈ ChangeForm.deeds id?
  | refresh os, d => d = .refresh ∧ os.dryRun = false

/-- A deed that is only for calls is done by a call to its route. -/
lemma MayDo.exists_call {step : Step} {d : Deed} (h : step.MayDo d) (hd : d.isOfCall) :
    ∃ c r, step = call c ∧ Route.resolve c.path = some r ∧ d ∈ r.deeds := by
  cases step with
  | call c =>
    obtain ⟨r, hroute, -, -, hmem⟩ := h
    exact ⟨c, r, rfl, hroute, hmem⟩
  | bulk a ids admin =>
    obtain ⟨id, -, rfl⟩ := h
    cases a <;> exact absurd hd Bool.false_ne_true
  | form id? data =>
    cases id? with
    | none =>
      obtain rfl := List.mem_singleton.1 h
      exact absurd hd Bool.false_ne_true
    | some id =>
      simp only [MayDo, ChangeForm.deeds, List.mem_cons, List.not_mem_nil, or_false] at h
      rcases h with rfl | rfl <;> exact absurd hd Bool.false_ne_true
  | refresh options =>
    rw [h.1] at hd
    exact absurd hd Bool.false_ne_true

/-- Only a bulk action does more than one deed. -/
def IsSingle : Step → Prop
  | bulk _ _ _ => False
  | _ => True

variable (ctx : Context) (s : Store)

/-- A step is a chain of deeds that it may do. -/
theorem run_effect (step : Step) :
    ∃ ds, (∀ d ∈ ds, step.MayDo d) ∧ (step.IsSingle → ds.length ≤ 1) ∧
      Effect ctx.clock.instant ds s (step.run ctx s).store (step.run ctx s).log := by
  have hnothing : Effect ctx.clock.instant [] s s [] := .none (by simp)
  cases step with
  | call c =>
    cases hroute : Route.resolve c.path with
    | none =>
      simp only [run, Endpoint.answer, hroute, Option.map_none]
      exact ⟨[], by simp, by simp, hnothing⟩
    | some r =>
      simp only [run, Endpoint.answer, hroute, Option.map_some]
      obtain ⟨ds, hsettled, hmay⟩ := Endpoint.answerRoute_settled ctx c s r
      refine ⟨ds, fun d hd => ?_, fun _ => ?_, hsettled.effect⟩
      · obtain ⟨hdenial, hallows⟩ := hmay (List.ne_nil_of_mem hd)
        exact ⟨r, hroute, hdenial, hallows, hsettled.sublist.subset hd⟩
      · refine hsettled.sublist.length_le.trans ?_
        cases r <;> simp [Route.deeds]
  | bulk a ids admin =>
    obtain ⟨ds, hds, heffect⟩ := BulkAction.progress_effect ctx s a admin.name ids
    exact ⟨ds, hds, False.elim, heffect⟩
  | form id? data =>
    simp only [run]
    split
    · next d hd =>
      obtain ⟨ds, hlength, hds, heffect⟩ := ChangeForm.save_effect hd
      exact ⟨ds, fun _ hd => hds hd, fun _ => hlength, heffect⟩
    · exact ⟨[], by simp, by simp, hnothing⟩
  | refresh os =>
    simp only [run]
    split
    · next d hd =>
      simp only [Command.run, bind_eq_ok_iff, pure_eq_ok_iff] at hd
      obtain ⟨d', hd', rfl⟩ := hd
      obtain ⟨ds, hds, heffect⟩ := Store.refresh_effect hd'
      refine ⟨ds, fun e he => ?_, fun _ => ?_, heffect⟩
      · have he := hds.subset he
        split_ifs at he with hdry
        · exact absurd he List.not_mem_nil
        · exact ⟨List.mem_singleton.1 he, by simpa using hdry⟩
      · refine hds.length_le.trans ?_
        split_ifs <;> simp
    · exact ⟨[], by simp, by simp, hnothing⟩

variable {ctx s} {P : Store → Prop}

/-- What every deed of a step keeps is kept by the step. -/
theorem next_invariant {step : Step}
    (hkeep : ∀ d s t, step.MayDo d → Change ctx.clock.instant d s t → P s → P t) (hs : P s) :
    P (step.next ctx s) := by
  obtain ⟨ds, hmay, -, heffect⟩ := run_effect ctx s step
  exact heffect.changes.invariant (fun d hd s t h => hkeep d s t (hmay d hd) h) hs

/-- What every step of a run keeps is kept by the run. -/
theorem runAll_invariant {run : List (Context × Step)}
    (hkeep : ∀ p ∈ run, ∀ s, P s → P (p.2.next p.1 s)) (hs : P s) : P (runAll s run) := by
  induction run generalizing s with
  | nil => exact hs
  | cons p rest ih =>
    have htail := fun q hq => hkeep q (List.mem_cons_of_mem _ hq)
    exact ih htail (hkeep p List.mem_cons_self s hs)

end Step

end CertRegistry
