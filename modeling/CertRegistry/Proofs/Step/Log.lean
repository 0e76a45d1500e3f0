import CertRegistry.Proofs.Admin.ActionLog
import CertRegistry.Proofs.Step.BulkAction
import CertRegistry.Proofs.Step.Failure

/-!
# What the log tells of steps

The news of the registry are what was committed, and nothing else. A call to a route that writes is
in the news once if it is answered as a success, unless it deletes what is missing, and no other
call is ever in them. A call that fails has one record of the endpoints instead, which grades the
failure as the answer does. A bulk action is in the news once for each row that it changed.
-/

namespace CertRegistry

open Moment (IsShown)

namespace Route

/-- A call to a route that writes does one deed, if any. -/
lemma length_deeds (r : Route) : r.deeds.length = if r.isWriting then 1 else 0 := by
  cases r <;> rfl

/-- The registry logs whatever a call may do. -/
lemma isLogged_of_mem_deeds {r : Route} {d : Deed} (h : d ∈ r.deeds) : d.isLogged := by
  cases r with
  | certificates | requests | download | ownCertificate | ownRequests =>
    exact absurd h List.not_mem_nil
  | _ =>
    rw [List.mem_singleton.1 h]
    rfl

end Route

/-- Only what is there is deleted. -/
lemma Change.exists_of_delete {now : Instant} {id : Int} {s t : Store}
    (h : Change now (.delete id) s t) : ∃ row ∈ s.certificates.rows, row.id = id := by
  cases h with
  | delete hrow => exact ⟨_, hrow, rfl⟩

namespace Endpoint.Settled

variable {ctx : Context} {c : Call} {s : Store} {r : Route} {d : Done Reply} {ds : List Deed}

lemma countP_isNews (h : Settled ctx c s r d ds) : d.log.countP LogRecord.isNews = ds.length := by
  rw [h.effect.told.countP_isNews, List.countP_eq_length]
  exact fun deed hdeed => Route.isLogged_of_mem_deeds (h.sublist.subset hdeed)

lemma countP_isNews_le_one (h : Settled ctx c s r d ds) : d.log.countP LogRecord.isNews ≤ 1 := by
  rw [h.countP_isNews]
  refine h.sublist.length_le.trans ?_
  rw [Route.length_deeds]
  split_ifs
  · exact le_rfl
  · exact Nat.zero_le 1

/-- Where a call did something there was something to do. -/
lemma not_idle (h : Settled ctx c s r d ds) (hds : ds ≠ []) : ¬ Idle s r := by
  intro hidle
  cases r with
  | deleteCertificate id =>
    obtain rfl := (List.sublist_singleton.1 h.sublist).resolve_left hds
    obtain ⟨row, hrow, hid⟩ := h.effect.changes.change_of_single.exists_of_delete
    have hidle : s.certificates.find? id = none := hidle
    rw [Table.find?_eq_some_iff.2 ⟨hrow, hid⟩] at hidle
    exact absurd hidle nofun
  | _ => exact hidle

/-- A call to a route that writes is in the news if it is answered as a success, unless there was
nothing to do. -/
lemma countP_isNews_eq_one_iff (h : Settled ctx c s r d ds) (hnow : IsShown ctx.clock.instant)
    (hshown : ∀ l : Listing, l.IsShown s) (hserved : c.IsServed) :
    d.log.countP LogRecord.isNews = 1 ↔ d.value.status = 200 ∧ r.isWriting ∧ ¬ Idle s r := by
  rw [h.countP_isNews]
  constructor
  · intro hlength
    have hds : ds ≠ [] := List.ne_nil_of_length_pos (hlength ▸ Nat.one_pos)
    obtain ⟨deed, hdeed⟩ := List.exists_mem_of_ne_nil ds hds
    refine ⟨?_, Route.isWriting_of_mem_deeds (h.sublist.subset hdeed), h.not_idle hds⟩
    by_contra hstatus
    exact hds (h.eq_nil hnow hshown hserved hstatus)
  · rintro ⟨hstatus, hwriting, hidle⟩
    rw [(h.complete hstatus).resolve_right hidle, Route.length_deeds, if_pos hwriting]

end Endpoint.Settled

namespace Step

/-- The log tells what was committed. Where all dates can be shown, a served call to a route is in
the news of the registry once, if it is answered as a success by a route that writes and there was
something to do, and never else; so whatever changes the store is in them. A call is answered as a
fault of the registry's own only if it fails. If it fails, nothing changes, and all that it logs is
the record of its failure, an error for a fault of the registry's own and an information for what
the call is blamed for. A bulk action is in the news as often as there are selected rows that it
brought to its status. -/
theorem log_tells_committed (ctx : Context) (s : Store) :
    (IsShown ctx.clock.instant → (∀ l : Listing, l.IsShown s) →
      ∀ (c : Call) (r : Route), c.IsServed → Route.resolve c.path = some r →
        let d := (call c).run ctx s
        d.log.countP LogRecord.isNews ≤ 1 ∧
        (d.log.countP LogRecord.isNews = 1 ↔
          d.value.status? = some 200 ∧ r.isWriting ∧ ¬ Endpoint.Idle s r) ∧
        (d.store ≠ s → d.log.countP LogRecord.isNews = 1) ∧
        (d.value.status? = some 500 → ∃ f, Endpoint.Fails ctx c s r f) ∧
        ∀ f, Endpoint.Fails ctx c s r f →
          d.store = s ∧ d.log = [f.record r.action] ∧ (f.record r.action).source = .endpoints ∧
            (d.value.status? = some 500 ∧ (f.record r.action).level = .error ∨
              d.value.status? = some 400 ∧ (f.record r.action).level = .info)) ∧
    ∀ (a : BulkAction) (ids : List Int) (admin : Caller),
      let d := (bulk a ids admin).run ctx s
      d.log.countP LogRecord.isNews = a.made ids s d.store := by
  refine ⟨fun hnow hshown c r hserved hroute => ?_, fun a ids admin => ?_⟩
  · obtain ⟨ds, hsettled, -⟩ := Endpoint.answerRoute_settled ctx c s r
    rw [run_call hroute]
    intro d
    have hone := hsettled.countP_isNews_eq_one_iff hnow hshown hserved
    refine ⟨hsettled.countP_isNews_le_one, ?_, fun hchanged => ?_, fun hstatus => ?_,
      fun f hf => ?_⟩
    · rw [hone]
      exact and_congr_left fun _ => Option.some_inj.symm
    · have hds : ds ≠ [] := by
        rintro rfl
        exact hchanged hsettled.effect.changes.eq_of_nil
      have hpos : 0 < ds.length := List.length_pos_iff.2 hds
      rw [← hsettled.countP_isNews] at hpos
      exact le_antisymm hsettled.countP_isNews_le_one hpos
    · exact Endpoint.exists_fails (Option.some.inj hstatus).ge
    · obtain ⟨hzone, heq⟩ := Endpoint.answerRoute_of_fails hnow hshown hserved hf
      have hstatus : d.value.status? = some f.status := by
        rw [← Reply.status_ofFailure ctx f]
        exact congrArg (fun d => some d.value.status) heq
      refine ⟨congrArg Done.store heq, congrArg Done.log heq, f.record_source r.action, ?_⟩
      rw [hstatus]
      exact (f.record_level hzone r.action).imp (And.imp_left (congrArg some))
        (And.imp_left (congrArg some))
  · exact BulkAction.countP_isNews_progress a ctx admin.name ids s

theorem log_tells_committed_changeCall :
    let clock : Moment := .ofUtc (utc 2026 1 15 4 30)
    let healthy : Context := { clock }
    let faulty : Context := { clock, fault := some ⟨.certificateSave, "disk"⟩ }
    ((call changeCall).run healthy heldStore).log.countP LogRecord.isNews = 1 ∧
      (∃ rec, ((call changeCall).run faulty heldStore).log = [rec] ∧ rec.level = .error) ∧
      ((bulk .approve [1] administrator).run healthy Store.waiting).log.countP
        LogRecord.isNews = 1 := by
  intro clock healthy faulty
  have hnow : IsShown clock.instant := Moment.isShown_iff.2 (by decide)
  have hserved : changeCall.IsServed := ⟨none, rfl⟩
  have hroute : Route.resolve changeCall.path = some (.updateCertificate 1) := by decide
  have hdone : ((call changeCall).run healthy heldStore).value.status? = some 200 := by
    decide +kernel
  have hbroken : ((call changeCall).run faulty heldStore).value.status? = some 500 := by
    decide +kernel
  obtain ⟨hcalls, -⟩ := log_tells_committed healthy heldStore
  obtain ⟨-, hnews, -⟩ := hcalls hnow heldStore_isShown_all changeCall _ hserved hroute
  obtain ⟨hcalls, -⟩ := log_tells_committed faulty heldStore
  obtain ⟨-, -, -, hfails, hrecord⟩ :=
    hcalls hnow heldStore_isShown_all changeCall _ hserved hroute
  refine ⟨hnews.2 ⟨hdone, rfl, id⟩, ?_, ?_⟩
  · obtain ⟨f, hf⟩ := hfails hbroken
    obtain ⟨-, hlog, -, ⟨-, hlevel⟩ | ⟨hstatus, -⟩⟩ := hrecord f hf
    · exact ⟨_, hlog, hlevel⟩
    · exact absurd (hbroken.symm.trans hstatus) (by decide)
  · obtain ⟨-, hbulk⟩ := log_tells_committed healthy Store.waiting
    have hmade : BulkAction.approve.made [1] Store.waiting
        ((bulk .approve [1] administrator).next healthy Store.waiting) = 1 := by decide +kernel
    exact (hbulk .approve [1] administrator).trans hmade

end Step

end CertRegistry
