import CertRegistry.Proofs.Step.Stamp
import CertRegistry.Proofs.Store.Newest

/-!
# What was made last

A run leads from store to store, and each of them has one row at most that the one before it had
not. So rows are made one after the other, those of a bulk action too. Whatever is deleted, undone
or changed in between, tenants are shown their requests in the reverse of this order, and the
certificate that comes last in it.
-/

namespace CertRegistry

/-! ### One store after the other -/

namespace BulkAction

variable {ctx : Context}

lemma after_changes {α : Type} {s : Store} {x : Except Failure (Done α)} {d : Deed}
    (h : ∀ done, x = .ok done → Effect ctx.clock.instant [d] s done.store done.log) :
    ∃ ds, ds.length ≤ 1 ∧ Changes ctx.clock.instant ds s (s.after x) := by
  cases x with
  | error f => exact ⟨[], Nat.zero_le 1, .nil s⟩
  | ok done => exact ⟨[d], le_rfl, (h done rfl).changes⟩

/-- For one row alone an action does one deed at most. -/
lemma single_changes (ctx : Context) (a : BulkAction) (admin : Text) (s : Store) (id : Int) :
    ∃ ds, ds.length ≤ 1 ∧ Changes ctx.clock.instant ds s (a.single ctx admin s id) := by
  cases a with
  | revoke => exact after_changes fun _ h => Store.revokeCertificate_effect h
  | approve => exact after_changes fun _ h => Store.approveRequest_effect h
  | reject => exact after_changes fun _ h => Store.rejectRequest_effect h

end BulkAction

/-- A store that follows another one: of each kind, one row at most was made, under a new id. -/
structure Store.Follows (s t : Store) : Prop where
  stamped : ∃ now, s.Stamped now t
  certificates : (s.certificates.newIds t.certificates).length ≤ 1
  requests : (s.requests.newIds t.requests).length ≤ 1

namespace Store.Follows

variable {now : Instant} {s t : Store}

lemma refl (s : Store) : s.Follows s :=
  ⟨⟨0, .refl 0 _, .refl 0 _⟩, by simp [Table.newIds_self], by simp [Table.newIds_self]⟩

lemma of_changes {ds : List Deed} (hds : ds.length ≤ 1) (h : Changes now ds s t) : s.Follows t := by
  match ds with
  | [] =>
    rw [h.eq_of_nil]
    exact .refl s
  | [d] =>
    have hchange := h.change_of_single
    obtain ⟨hcertificates, hrequests⟩ := hchange.length_newIds
    exact ⟨⟨now, hchange.stamped⟩, hcertificates, hrequests⟩

end Store.Follows

namespace Step

/-- The stores that a step leads through, from the one before it to the one after it. A bulk action
leads through a store for each row that it goes through. -/
def stages (ctx : Context) (s : Store) : Step → List Store
  | bulk a ids admin =>
    if ∀ id ∈ ids, Integer.fits id then
      (a.targets ids s).scanl (fun s id => a.single ctx admin.name s id) s
    else [s]
  | step => [s, step.next ctx s]

/-- The stores that a run leads through. -/
def trail : Store → List (Context × Step) → List Store
  | s, [] => [s]
  | s, (ctx, step) :: rest => step.stages ctx s ++ trail (step.next ctx s) rest

/-- The ids that a table gives out along some stores, in the order in which it does. -/
def givenOut {α : Type} (table : Store → Table α) : List Store → List Int
  | s :: t :: rest => (table s).newIds (table t) ++ givenOut table (t :: rest)
  | _ => []

variable {ctx : Context} {s : Store} {run : List (Context × Step)}

lemma isChain_scanl {f : Store → Int → Store} (hf : ∀ (s : Store) id, s.Follows (f s id))
    (ids : List Int) (s : Store) : (ids.scanl f s).IsChain Store.Follows := by
  induction ids generalizing s with
  | nil => simp
  | cons id ids ih =>
    rw [List.scanl_cons]
    refine List.isChain_cons.2 ⟨fun t ht => ?_, ih (f s id)⟩
    rw [List.head?_scanl] at ht
    rw [← Option.some.inj ht]
    exact hf s id

lemma stages_of_isSingle {step : Step} (h : step.IsSingle) :
    step.stages ctx s = [s, step.next ctx s] := by
  cases step with
  | bulk a ids admin => exact absurd h id
  | call c | form id? data | refresh options => rfl

/-- A step leads from the store before it to the store after it, by one deed at a time. -/
lemma stages_spec (ctx : Context) (s : Store) (step : Step) :
    (step.stages ctx s).IsChain Store.Follows ∧ (step.stages ctx s).head? = some s ∧
      (step.stages ctx s).getLast? = some (step.next ctx s) := by
  by_cases hsingle : step.IsSingle
  · obtain ⟨ds, -, hlength, heffect⟩ := run_effect ctx s step
    rw [stages_of_isSingle hsingle]
    have hnext : s.Follows (step.next ctx s) := .of_changes (hlength hsingle) heffect.changes
    exact ⟨by simpa using hnext, rfl, rfl⟩
  · cases step with
    | call c | form id? data | refresh options => exact absurd trivial hsingle
    | bulk a ids admin =>
      rw [stages]
      split_ifs with hfits
      · refine ⟨isChain_scanl (fun s id => ?_) _ s, List.head?_scanl, ?_⟩
        · obtain ⟨ds, hds, hchanges⟩ := a.single_changes ctx admin.name s id
          exact .of_changes hds hchanges
        · rw [List.getLast?_scanl]
          exact congrArg some (BulkAction.store_progress hfits a s).symm
      · refine ⟨List.isChain_singleton s, rfl, ?_⟩
        exact congrArg some (BulkAction.store_progress_of_not_fits hfits a s).symm

/-- A run leads from the store before it to the store after it, by one deed at a time. -/
lemma trail_spec (s : Store) (run : List (Context × Step)) :
    (trail s run).IsChain Store.Follows ∧ (trail s run).head? = some s ∧
      (trail s run).getLast? = some (runAll s run) := by
  induction run generalizing s with
  | nil => exact ⟨List.isChain_singleton s, rfl, rfl⟩
  | cons p rest ih =>
    obtain ⟨ctx, step⟩ := p
    obtain ⟨hchain, hhead, hlast⟩ := stages_spec ctx s step
    obtain ⟨hchain', hhead', hlast'⟩ := ih (step.next ctx s)
    refine ⟨hchain.append hchain' fun t ht u hu => ?_, ?_, ?_⟩
    · rw [hlast] at ht
      rw [hhead'] at hu
      rw [← Option.some.inj ht, ← Option.some.inj hu]
      exact .refl _
    · rw [trail, List.head?_append, hhead]
      rfl
    · rw [trail, List.getLast?_append, hlast']
      rfl

/-- Along stores that follow one another, a table gives out the ids of its rows. -/
lemma made_givenOut {α : Type} {table : Store → Table α}
    (htable : ∀ {now s t}, Store.Stamped now s t → (table s).Stamped now (table t)) :
    ∀ {stores : List Store} {s t : Store} {ids : List Int}, stores.IsChain Store.Follows →
      stores.head? = some s → stores.getLast? = some t → (table s).Made ids →
        (table t).Made (ids ++ givenOut table stores)
  | [s'], s, t, ids, _, hs, ht, h => by
    obtain rfl := Option.some.inj hs
    obtain rfl := Option.some.inj ht
    simpa [givenOut] using h
  | s' :: s'' :: rest, s, t, ids, hchain, hs, ht, h => by
    obtain rfl := Option.some.inj hs
    obtain ⟨hfirst, hrest⟩ := List.isChain_cons_cons.1 hchain
    obtain ⟨now, hstamped⟩ := hfirst.stamped
    rw [givenOut, ← List.append_assoc]
    rw [List.getLast?_cons_cons] at ht
    exact made_givenOut htable hrest rfl ht (h.stamped (htable hstamped))

/-- Newest means newest. On a clock that never goes back, a run from the empty store leads from
store to store, and each has one new row at most. Whatever happens in between, a user is shown the
stored requests of the user, each of them once and the one made last first, and the stored
certificate of the user that was made last, or none if there is none. -/
theorem newest_first {run : List (Context × Step)} (hclock : IsForward run) (u : Int) :
    let t := runAll {} run
    let requests := (givenOut Store.requests (trail {} run)).filterMap t.requests.find?
    let certificates := (givenOut Store.certificates (trail {} run)).filterMap t.certificates.find?
    ((trail {} run).IsChain Store.Follows ∧ (trail {} run).head? = some {} ∧
      (trail {} run).getLast? = some t) ∧
    (t.tenantRequests (.ofInt u) = (requests.filter fun r => r.data.userId = u).reverse ∧
      (t.tenantRequests (.ofInt u)).Nodup ∧
      ∀ r, r ∈ t.tenantRequests (.ofInt u) ↔ r ∈ t.requests.rows ∧ r.data.userId = u) ∧
    (∀ r, t.certificateOf (.ofInt u) = .ok r ↔
      (certificates.filter fun r => r.data.ownerId = u).getLast? = some r) ∧
    t.tenantCertificate? (.ofInt u) =
      (certificates.filter fun r => r.data.ownerId = u).getLast? ∧
    (t.tenantCertificate? (.ofInt u) = none ↔
      ∀ r ∈ t.certificates.rows, r.data.ownerId ≠ u) := by
  intro t requests certificates
  obtain ⟨hchain, hhead, hlast⟩ := trail_spec {} run
  obtain ⟨last, -, htimely⟩ := exists_timely hclock 0
  have hmade := made_givenOut (fun h => h.requests) hchain hhead hlast .empty
  have hmade' := made_givenOut (fun h => h.certificates) hchain hhead hlast .empty
  have hrequests : requests = t.requests.rows := hmade.filterMap_find?
  have hcertificates : certificates = t.certificates.rows := hmade'.filterMap_find?
  have htimely : t.Timely last := htimely
  have hshown := Store.tenantRequests_ofInt htimely.requests u
  have howned := Store.tenantCertificate?_ofInt t u
  rw [hrequests, hcertificates]
  refine ⟨⟨hchain, hhead, hlast⟩, ⟨hshown, ?_, fun r => ?_⟩, fun r => ?_, howned, ?_⟩
  · rw [hshown, List.nodup_reverse]
    exact (t.requests.sorted.imp fun hlt heq => absurd (congrArg Row.id heq) (ne_of_lt hlt)).filter _
  · simp only [hshown, List.mem_reverse, List.mem_filter, decide_eq_true_eq]
  · rw [Store.certificateOf_eq_ok_iff, howned]
  · rw [howned, List.getLast?_eq_none_iff, List.filter_eq_nil_iff]
    simp only [decide_eq_true_eq, ne_eq]

/-- Two requests are made for a user at the same time. A first approval breaks down after the
certificate has been appended, and a second one goes through for both of them. -/
def twoRequests : List (Context × Step) :=
  let ctx : Context := { clock := .ofUtc (utc 2026 1 15 4 30) }
  let request : Step := .form none "user_name=ann&user_id=7&type=client&reason=access"
  let admin : Caller := .user { id := 1, name := "root", isStaff := true }
  [(ctx, request), (ctx, request),
    ({ ctx with fault := some ⟨.requestSave, "disk"⟩ }, .bulk .approve [2] admin),
    (ctx, .bulk .approve [1, 2] admin)]

theorem newest_first_twoRequests :
    IsForward twoRequests ∧
    givenOut Store.requests (trail {} twoRequests) = [1, 2] ∧
    givenOut Store.certificates (trail {} twoRequests) = [1, 2] ∧
    ((runAll {} twoRequests).tenantRequests (.ofInt 7)).map Row.id = [2, 1] ∧
    ((runAll {} twoRequests).tenantCertificate? (.ofInt 7)).map Row.id = some 2 := by
  have hclock : IsForward twoRequests := by
    unfold IsForward
    decide
  obtain ⟨-, ⟨hrequests, -⟩, -, hcertificate, -⟩ := newest_first hclock 7
  refine ⟨hclock, by decide +kernel, by decide +kernel, ?_, ?_⟩
  · rw [hrequests]
    decide +kernel
  · rw [hcertificate]
    decide +kernel

end Step

end CertRegistry
