import CertRegistry.Proofs.Admin.BulkAction
import CertRegistry.Proofs.Http.Route
import CertRegistry.Proofs.Request.Approval
import CertRegistry.Proofs.Step.Creation
import CertRegistry.Proofs.Store.Refresh

/-!
# Bulk actions and calls

An administrator who applies an action to a selection might as well have made one call for each of
its rows, in the order of their ids: the store would be the same, whatever goes wrong. Applied once
more, an action that came to its end does nothing.
-/

namespace CertRegistry

/-! ### Single calls -/

namespace Store

variable {α β : Type} {s : Store}

/-- What is said of an operation afterwards does not matter to the store. -/
lemma after_bind_pure {x : Except Failure (Done α)} {say : Done α → Done β}
    (h : ∀ d, (say d).store = d.store) : s.after (x >>= fun d => pure (say d)) = s.after x := by
  cases x with
  | error f => rfl
  | ok d => exact h d

end Store

namespace Endpoint

variable {ctx : Context} {s : Store}

lemma store_conclude (action : Text) (o : Outcome) :
    (conclude ctx action s o).store = s.after o := by
  cases o with
  | error f => rfl
  | ok d =>
    simp only [conclude, Store.after]
    split <;> rfl

lemma store_noted {α : Type} (d : Done α) (c : Call) (reply : Reply) (text : Text) :
    (noted d c reply text).store = d.store := by
  unfold noted
  split <;> rfl

lemma store_answerRoute {c : Call} {r : Route} (h : c.IsByStaff r) :
    (answerRoute ctx c r s).store = s.after (perform ctx c s r) := by
  rw [answerRoute_eq_conclude h, store_conclude]

end Endpoint

namespace BulkAction

/-- The route for one row of an action. -/
def route (n : ℕ) : BulkAction → Route
  | revoke => .revokeCertificate n
  | approve => .approveRequest n
  | reject => .rejectRequest n

/-- A call by which somebody of the staff does to the row with an id what an action does. -/
structure IsCall (settings : Settings) (admin : Caller) (a : BulkAction) (id : Int) (c : Call) :
    Prop where
  caller : c.caller = admin
  call : ∃ n : ℕ, n = id ∧ c.IsByStaff (a.route n)
  reason : a = reject → ∃ vs, c.values? settings Input.rejectionSchema = some vs ∧
    vs.text "reason" = rejectionReason

variable {ctx : Context} {s : Store} {admin : Caller} {a : BulkAction} {id : Int} {c : Call}

/-- A call does what the action does to one row. -/
lemma next_of_isCall (h : IsCall ctx.settings admin a id c) :
    (Step.call c).next ctx s = a.single ctx admin.name s id := by
  obtain ⟨rfl, ⟨n, rfl, h⟩, hreason⟩ := h
  rw [Step.next, Step.run_call h.route]
  refine (Endpoint.store_answerRoute h).trans ?_
  cases a with
  | revoke => exact Store.after_bind_pure fun d => Endpoint.store_noted d c _ _
  | approve => exact Store.after_bind_pure fun d => Endpoint.store_noted d c _ _
  | reject =>
    obtain ⟨vs, hvs, hreason⟩ := hreason rfl
    have hsubmits : c.Submits ctx.settings (.rejectRequest n) Input.rejectionSchema vs := ⟨h, hvs⟩
    rw [route, Endpoint.perform, Endpoint.reject, Endpoint.withBody_of_submits hsubmits, hreason]
    exact Store.after_bind_pure fun _ => rfl

/-- Calls for rows, one after the other, do what the action does to these rows. -/
lemma runAll_of_isCall {ids : List Int} {calls : List Call}
    (h : List.Forall₂ (IsCall ctx.settings admin a) ids calls) :
    Step.runAll s (calls.map fun c => (ctx, .call c)) =
      ids.foldl (fun s id => a.single ctx admin.name s id) s := by
  induction h generalizing s with
  | nil => rfl
  | cons hcall _ ih =>
    rw [List.map_cons, Step.runAll, List.foldl_cons, next_of_isCall hcall]
    exact ih

/-! ### The calls of an administrator -/

/-- The body of a call that rejects a request as an action does. -/
def rejectionBody : List ℕ := Text.Utf8.encode "\x7b\"reason\": \"Rejected by admin\"\x7d"

/-- The call for one row of an action. -/
def callFor (admin : Caller) (a : BulkAction) (id : Int) : Call where
  caller := admin
  method := "POST"
  path := (a.route id.toNat).path
  body := if a = reject then rejectionBody else []

/-- Calls can be made for rows instead of an action: the administrator is of the staff, a path can
hold the ids, and the limit on the size of a body allows for that of a rejection. -/
structure Callable (settings : Settings) (admin : Caller) (ids : List Int) (a : BulkAction) :
    Prop where
  staff : ∃ u, admin = .user u ∧ u.isStaff
  natural : ∀ id ∈ ids, 0 ≤ id
  body : a = reject →
    Input.checkSize settings.maxBodySize (.ok rejectionBody.length) = .ok ()

variable {settings : Settings}

lemma readBody_of_checkSize {bytes : List ℕ}
    (h : Input.checkSize settings.maxBodySize (.ok bytes.length) = .ok ()) :
    Input.readBody settings none bytes =
      Input.readBody { maxBodySize := some .null } none bytes := by
  have hnull (size : Int) : Input.checkSize (some .null) (.ok size) = .ok () := rfl
  simp only [Input.readBody, Input.declaredSize, h, hnull]

/-- The body of a rejection is accepted, as long as it is read. -/
lemma values_rejectionBody
    (h : Input.checkSize settings.maxBodySize (.ok rejectionBody.length) = .ok ()) (id : Int) :
    ∃ vs, (reject.callFor admin id).values? settings Input.rejectionSchema = some vs ∧
      vs.text "reason" = rejectionReason := by
  have hreason : ((reject.callFor admin id).values? settings Input.rejectionSchema).map
      (·.text "reason") = some rejectionReason := by
    simp only [Call.values?, callFor, if_true, readBody_of_checkSize h]
    decide +kernel
  exact Option.map_eq_some_iff.1 hreason

lemma resolve_callFor (admin : Caller) (a : BulkAction) (hid : Integer.fits id) :
    Route.resolve (a.callFor admin id).path = some (a.route id.toNat) := by
  have hfits : id.toNat < 10 ^ Integer.maxDigits := by
    have hle : id.toNat < 10 ^ 19 := by
      simp only [Integer.fits, Bool.and_eq_true, decide_eq_true_eq] at hid
      omega
    exact hle.trans_le (Nat.pow_le_pow_right (by decide) (by decide))
  refine Route.resolve_path _ fun argument hargument => ?_
  cases a <;> obtain rfl := Option.some.inj hargument <;> exact hfits

/-- The call for one row is one that does to it what the action does. -/
lemma callFor_isCall {ids : List Int} (h : a.Callable settings admin ids) (hid : id ∈ ids)
    (hfits : Integer.fits id) : IsCall settings admin a id (a.callFor admin id) where
  caller := rfl
  call := by
    have hpost : Method.ofText? "POST" = some .post := by decide
    have hmethod : .post ∈ (a.route id.toNat).methods := by
      cases a <;> exact List.mem_singleton_self _
    exact ⟨id.toNat, Int.toNat_of_nonneg (h.natural id hid), h.staff,
      resolve_callFor admin a hfits, .post, hmethod, hpost⟩
  reason := by
    rintro rfl
    exact values_rejectionBody (h.body rfl) id

end BulkAction

namespace Step

lemma value_bulk_eq_noticed_iff {ctx : Context} {s : Store} {a : BulkAction} {ids : List Int}
    {admin : Caller} {notices : List Notice} :
    ((bulk a ids admin).run ctx s).value = .noticed notices ↔
      a.notices (a.progress ctx admin.name ids s) = .ok notices := by
  simp only [run]
  cases a.notices (a.progress ctx admin.name ids s) with
  | ok notices' => simp
  | error f => simp

/-- Bulk actions are the single operations repeated. An action on ids that a column can hold leaves
the store that calls of the same administrator leave, one for each row of the selection that it
goes through, in the order of their ids; and it does so whatever goes wrong. There are such calls,
unless the administrator is not of the staff, an id is negative, or the body of a rejection is too
large to be read. If nothing hinders the action, it warns of each row that it passes over, in this
order, and closes by telling how many rows it changed, with a warning if there were none; a
revocation leaves everything alone but the certificates that it revokes. Done once more, it changes
nothing and tells of no success. -/
theorem bulk_repeats_singles (ctx : Context) (s : Store) (a : BulkAction) (ids : List Int)
    (admin : Caller) :
    ((∀ id ∈ ids, Integer.fits id) →
      let targets := a.targets ids s
      targets.Pairwise (· < ·) ∧
      (∀ calls, List.Forall₂ (BulkAction.IsCall ctx.settings admin a) targets calls →
        (bulk a ids admin).next ctx s = runAll s (calls.map fun c => (ctx, .call c))) ∧
      (a.Callable ctx.settings admin targets →
        List.Forall₂ (BulkAction.IsCall ctx.settings admin a) targets
          (targets.map (a.callFor admin)))) ∧
    (a.Unhindered ctx ids s →
      let d := (bulk a ids admin).run ctx s
      d.value = .noticed (a.warnings ids s ++ [a.closingNotice (a.due ids s)]) ∧
      (a = .revoke → d.store.requests = s.requests ∧
        d.store.certificates.lastId = s.certificates.lastId ∧
        d.store.certificates.rows =
          BulkAction.revokedRows ctx.clock.instant ids s.certificates) ∧
      ∀ ctx' admin', let d' := (bulk a ids admin').run ctx' d.store
        d'.store = d.store ∧ ∀ notices, d'.value = .noticed notices → ∀ n ∈ notices, n.isWarning) := by
  refine ⟨fun hfits => ?_, fun h => ?_⟩
  · intro targets
    refine ⟨a.pairwise_targets ids s, fun calls hcalls => ?_, fun hcallable => ?_⟩
    · rw [BulkAction.runAll_of_isCall hcalls]
      exact BulkAction.store_progress hfits a s
    · refine List.forall₂_map_right_iff.2 (List.forall₂_same.2 fun id hid => ?_)
      exact BulkAction.callFor_isCall hcallable hid (hfits id (BulkAction.mem_of_mem_targets hid))
  · intro d
    have hend := BulkAction.progress_completes admin.name h
    refine ⟨?_, ?_, fun ctx' admin' => ?_⟩
    · rw [value_bulk_eq_noticed_iff, BulkAction.notices, hend.failure, hend.notices, hend.changed]
    · rintro rfl
      exact BulkAction.rows_progress_revoke h
    · obtain ⟨hstore, hwarn⟩ := BulkAction.progress_idle ctx' admin'.name hend.due
      exact ⟨hstore, fun notices hnotices => hwarn notices (value_bulk_eq_noticed_iff.1 hnotices)⟩

/-- An administrator. -/
def administrator : Caller := .user { id := 1, name := "root", isStaff := true }

lemma queue_unhindered : BulkAction.approve.Unhindered
    { clock := .ofUtc (utc 2026 1 15 4 30) } [8, 2, 5] Store.queue where
  debug _ := rfl
  fits := by decide
  fault := rfl
  clock := by decide
  days _ _ := ⟨365, rfl, (Moment.reaches_ofUtc_iff (by decide)).2 (by decide)⟩
  room := by decide

lemma shelf_unhindered : BulkAction.revoke.Unhindered
    { clock := .ofUtc (utc 2026 1 15 4 30) } [5, 3, 1] Store.shelf where
  debug _ := rfl
  fits := by decide
  fault := rfl
  clock := by decide
  days := nofun
  room := nofun

/-- Selections out of order. With a request that has been decided there are two that wait: these are
approved in the order of their ids, the other one is warned of, and doing it again does nothing. A
certificate that is revoked already is left out of a revocation without a word. -/
theorem bulk_repeats_singles_outOfOrder :
    let ctx : Context := { clock := .ofUtc (utc 2026 1 15 4 30) }
    let ids : List Int := [8, 2, 5]
    let calls := [2, 5, 8].map (BulkAction.approve.callFor administrator)
    let d := (bulk .approve ids administrator).run ctx Store.queue
    BulkAction.approve.targets ids Store.queue = [2, 5, 8] ∧
    BulkAction.approve.Callable ctx.settings administrator [2, 5, 8] ∧
    BulkAction.approve.Unhindered ctx ids Store.queue ∧
    d.store = runAll Store.queue (calls.map fun c => (ctx, .call c)) ∧
    d.store.certificates.rows.map (fun r => (r.id, r.data.owner)) =
      ([(4, "bob"), (5, "cid")] : List (Int × Text)) ∧
    d.store.requests.rows.map (fun r => (r.id, r.data.status)) =
      [(1, .pending), (2, .rejected), (5, .valid), (8, .valid)] ∧
    d.value = .noticed [
      ⟨true, "ann - client [rejected]: request is not pending, current status: rejected"⟩,
      ⟨false, "成功批准了 2 个证书申请。"⟩] ∧
    ((bulk .approve ids administrator).run ctx d.store).store = d.store ∧
    BulkAction.revoke.Unhindered ctx [5, 3, 1] Store.shelf ∧
    let d' := (bulk .revoke [5, 3, 1] administrator).run ctx Store.shelf
    d'.value = .noticed [⟨false, "成功吊销了 2 张证书。"⟩] ∧
    (d'.store.certificates.rows.take 5).map (fun r => (r.data.status, r.updatedAt)) =
      [(.revoked, ctx.clock.instant), (.expiring, 0), (.revoked, 0), (.valid, 0),
        (.revoked, ctx.clock.instant)] := by
  intro ctx ids calls d
  have htargets : BulkAction.approve.targets ids Store.queue = [2, 5, 8] := by decide
  have hcallable : BulkAction.approve.Callable ctx.settings administrator [2, 5, 8] :=
    ⟨⟨_, rfl, rfl⟩, by decide, nofun⟩
  obtain ⟨hsingles, hend⟩ := bulk_repeats_singles ctx Store.queue .approve ids administrator
  obtain ⟨-, hcalls, hcallFor⟩ := hsingles (by decide)
  rw [htargets] at hcalls hcallFor
  have hstore : d.store = runAll Store.queue (calls.map fun c => (ctx, .call c)) :=
    hcalls calls (hcallFor hcallable)
  obtain ⟨hvalue, -, hagain⟩ := hend queue_unhindered
  have hnotices : BulkAction.approve.warnings ids Store.queue ++
      [BulkAction.approve.closingNotice (BulkAction.approve.due ids Store.queue)] = [
        ⟨true, "ann - client [rejected]: request is not pending, current status: rejected"⟩,
        ⟨false, "成功批准了 2 个证书申请。"⟩] := by decide +kernel
  obtain ⟨hrevoked, hrows, -⟩ :=
    (bulk_repeats_singles ctx Store.shelf .revoke [5, 3, 1] administrator).2 shelf_unhindered
  have hrevokeNotices : BulkAction.revoke.warnings [5, 3, 1] Store.shelf ++
      [BulkAction.revoke.closingNotice (BulkAction.revoke.due [5, 3, 1] Store.shelf)] =
        [⟨false, "成功吊销了 2 张证书。"⟩] := by decide +kernel
  refine ⟨htargets, hcallable, queue_unhindered, hstore, ?_, ?_, hnotices ▸ hvalue,
    (hagain ctx _).1, shelf_unhindered, hrevokeNotices ▸ hrevoked, ?_⟩
  · rw [hstore]
    decide +kernel
  · rw [hstore]
    decide +kernel
  · rw [(hrows rfl).2.2]
    decide +kernel

/-- A store with a request under a negative id. -/
def negativeStore : Store where
  certificates := default
  requests := .single ⟨-1, 0, 0, Store.waitingRequest⟩ (by decide)

/-- An action and calls part where an id of the selection does not fit, where a request has a
negative id, and where the body of a call is too large to be read. Without any fault an action fails
where nothing says whether to debug, where the clock shows a time before the year 1 in UTC, and
where the certificates have used up their ids. -/
theorem bulk_unlike_singles :
    let ctx : Context := { clock := .ofUtc (utc 2026 1 15 4 30) }
    let cramped : Context := { ctx with settings := { maxBodySize := some (.int 0) } }
    let undebugged : Context := { ctx with settings := { debug := none } }
    let early : Context := { clock := ⟨0, some hour⟩ }
    let approveCall := BulkAction.approve.callFor administrator 1
    let rejectCall := BulkAction.reject.callFor administrator 1
    let statuses (s : Store) := s.requests.rows.map fun r => r.data.status
    (BulkAction.approve.targets [1, 9223372036854775808] Store.waiting = [1] ∧
      statuses ((bulk .approve [1, 9223372036854775808] administrator).next ctx Store.waiting) =
        [.pending] ∧
      statuses (runAll Store.waiting [(ctx, .call approveCall)]) = [.valid]) ∧
    (statuses ((bulk .approve [-1] administrator).next ctx negativeStore) = [.valid] ∧
      Route.resolve "/certificates/admin/requests/-1/approve/" = none) ∧
    (statuses ((bulk .reject [1] administrator).next cramped Store.waiting) = [.rejected] ∧
      statuses (runAll Store.waiting [(cramped, .call rejectCall)]) = [.pending] ∧
      statuses (runAll Store.waiting [(ctx, .call rejectCall)]) = [.rejected]) ∧
    ((bulk .approve [1] administrator).run undebugged Store.waiting).value = .failed .unsettled ∧
    ((bulk .approve [1] administrator).run early Store.waiting).value = .failed .dateOverflow ∧
    ((bulk .approve [1] administrator).run ctx Store.exhausted).value = .failed .tableFull := by
  intro ctx cramped undebugged early approveCall rejectCall statuses
  refine ⟨⟨?_, ?_, ?_⟩, ⟨?_, ?_⟩, ⟨?_, ?_, ?_⟩, rfl, rfl, rfl⟩
  all_goals decide +kernel

end Step

end CertRegistry
