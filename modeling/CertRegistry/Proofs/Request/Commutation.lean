import CertRegistry.Proofs.Request.Approval
import CertRegistry.Proofs.Request.Decision

/-!
# Decisions commute

Decisions on different requests are ruled on as if each of them were the only one, as long as there
are ids for all the certificates that they issue. So their order makes no difference, but for the
ids: the certificates that are issued get the next ids in the order of the decisions. Two orders
differ by a renaming of these ids, which is put together from swaps of neighbours.
-/

namespace CertRegistry

open Decision (Result)

/-! ### Renaming of ids -/

/-- A row under another id. -/
def Row.renumber {α : Type} (σ : Equiv.Perm Int) (r : Row α) : Row α := { r with id := σ r.id }

namespace Decision

/-- A result with the id of the certificate that was issued, if one was, renamed. -/
def Result.renumber (σ : Equiv.Perm Int) : Result → Result
  | issued cert => issued (cert.renumber σ)
  | rejected row => rejected row

/-- The certificate that was issued, if one was. -/
def Result.certificate? : Result → Option (Row Certificate)
  | issued cert => some cert
  | rejected _ => none

/-- A decision and what came of it. -/
abbrev Outcome := Decision × Except Failure Result

namespace Outcome

/-- An outcome with ids renamed. -/
def renumber (σ : Equiv.Perm Int) (o : Outcome) : Outcome := (o.1, o.2.map (Result.renumber σ))

/-- The certificate that was issued, if one was. -/
def certificate? (o : Outcome) : Option (Row Certificate) := o.2.toOption.bind Result.certificate?

variable (σ τ : Equiv.Perm Int) (o : Outcome)

lemma renumber_one : o.renumber 1 = o := by
  obtain ⟨d, x⟩ := o
  match x with
  | .error f => rfl
  | .ok (.issued cert) => rfl
  | .ok (.rejected row) => rfl

lemma renumber_mul : o.renumber (σ * τ) = (o.renumber τ).renumber σ := by
  obtain ⟨d, x⟩ := o
  match x with
  | .error f => rfl
  | .ok (.issued cert) => rfl
  | .ok (.rejected row) => rfl

lemma certificate?_renumber :
    (o.renumber σ).certificate? = o.certificate?.map (Row.renumber σ) := by
  obtain ⟨d, x⟩ := o
  match x with
  | .error f => rfl
  | .ok (.issued cert) => rfl
  | .ok (.rejected row) => rfl

end Outcome

/-! ### One decision after the other -/

/-- The store after decisions, one after the other. -/
def executeAll (ctx : Context) (s : Store) (ds : List Decision) : Store :=
  ds.foldl (fun s d => s.after (d.execute ctx s)) s

/-- What comes of decisions, of each one after those before it. -/
def outcomes (ctx : Context) : Store → List Decision → List Outcome
  | _, [] => []
  | s, d :: ds =>
    (d, (d.execute ctx s).map Done.value) :: outcomes ctx (s.after (d.execute ctx s)) ds

/-- How many ids of certificates a ruling uses up. -/
def cost (x : Except Failure Ruling) : ℕ := if x.toOption.any Ruling.issues then 1 else 0

/-- The requests after a ruling. -/
def mark (now : Instant) (t : Table CertificateRequest) (x : Except Failure Ruling) :
    Table CertificateRequest :=
  match x with
  | .ok w => t.change w.row now w.request
  | .error _ => t

/-- The outcomes of decisions that have been ruled on, if `n` was the last id of a certificate. -/
def number (now : Instant) : ℕ → List (Decision × Except Failure Ruling) → List Outcome
  | _, [] => []
  | n, (d, x) :: rest => (d, x.map (Ruling.result now n)) :: number now (n + cost x) rest

variable {ctx : Context} {s : Store} {d : Decision}

/-- Carries out one decision. -/
lemma after_execute (hfault : ctx.fault = none) (s : Store) (d : Decision) :
    let x := d.ruling ctx s
    let o : Outcome := (d, x.map (Ruling.result ctx.clock.instant s.certificates.lastId))
    let t := s.after (d.execute ctx s)
    (d.execute ctx s).map Done.value = o.2 ∧
      t.requests = mark ctx.clock.instant s.requests x ∧
      t.certificates.rows = s.certificates.rows ++ o.certificate?.toList ∧
      t.certificates.lastId = s.certificates.lastId + cost x := by
  intro x
  cases h : x with
  | error f =>
    rw [execute_of_error hfault h]
    exact ⟨rfl, rfl, (List.append_nil _).symm, rfl⟩
  | ok w =>
    obtain ⟨y, hy, hentered⟩ := execute_of_ok hfault h
    rw [hy]
    refine ⟨congrArg Except.ok hentered.value, hentered.requests, ?_, hentered.lastId⟩
    refine hentered.certificates.trans ?_
    simp only [Outcome.certificate?, Ruling.result, Except.map, Except.toOption, Option.bind_some]
    cases w.certificate? <;> rfl

/-- A decision leaves the requests alone that it is not about. -/
lemma find?_after_execute (hfault : ctx.fault = none) {id : Int} (hid : id ≠ d.id) :
    (s.after (d.execute ctx s)).requests.find? id = s.requests.find? id := by
  obtain ⟨-, hrequests, -, -⟩ := after_execute hfault s d
  rw [hrequests]
  cases h : d.ruling ctx s with
  | error f => rfl
  | ok w =>
    obtain ⟨hrow, hrowId⟩ := finding_row (ruling_eq_ok_iff.1 h).1
    exact Table.find?_change_of_ne hrow (hrowId ▸ hid)

lemma cost_ruling (hfault : ctx.fault = none) (s : Store) (d : Decision) :
    cost (d.ruling ctx s) = if d.issues ctx s then 1 else 0 := by
  rw [cost, issues_eq hfault]

/-- A decision leaves the rulings of those that come after it as they were. -/
lemma ruling_after_execute (hfault : ctx.fault = none) {ds : List Decision}
    (hids : ((d :: ds).map Decision.id).Nodup)
    (hroom : s.certificates.lastId + (d :: ds).countP (fun d => d.issues ctx s) ≤ maxColumn) :
    ∀ d' ∈ ds, d'.ruling ctx (s.after (d.execute ctx s)) = d'.ruling ctx s := by
  intro d' hd'
  obtain ⟨-, -, -, hlast⟩ := after_execute hfault s d
  have hid : d'.id ≠ d.id := fun heq =>
    (List.nodup_cons.1 hids).1 (heq ▸ List.mem_map_of_mem hd')
  refine ruling_congr (find?_after_execute hfault hid) (by omega) fun hissues => ?_
  rw [← issues_eq hfault] at hissues
  have hpos : 0 < ds.countP fun d => d.issues ctx s :=
    List.countP_pos_iff.2 ⟨d', hd', hissues⟩
  rw [List.countP_cons, ← cost_ruling hfault] at hroom
  omega

/-- Decisions on different requests are ruled on as if each were the only one. -/
lemma executeAll_spec (hfault : ctx.fault = none) : ∀ (ds : List Decision) (s : Store),
    (ds.map Decision.id).Nodup →
    s.certificates.lastId + ds.countP (fun d => d.issues ctx s) ≤ maxColumn →
    let now := ctx.clock.instant
    let rulings := ds.map fun d => (d, d.ruling ctx s)
    let t := executeAll ctx s ds
    outcomes ctx s ds = number now s.certificates.lastId rulings ∧
      t.requests = rulings.foldl (fun u p => mark now u p.2) s.requests ∧
      t.certificates.rows = s.certificates.rows ++ (outcomes ctx s ds).filterMap
        Outcome.certificate? ∧
      t.certificates.lastId = s.certificates.lastId + ds.countP fun d => d.issues ctx s
  | [], s, _, _ => by simp [executeAll, outcomes, number]
  | d :: ds, s, hids, hroom => by
    obtain ⟨hvalue, hrequests, hrows, hlast⟩ := after_execute hfault s d
    have hrulings := ruling_after_execute hfault hids hroom
    have hcount : (d :: ds).countP (fun d => d.issues ctx s) =
        ds.countP (fun d => d.issues ctx s) + cost (d.ruling ctx s) := by
      rw [List.countP_cons, cost_ruling hfault]
    rw [hcount] at hroom
    -- nothing has changed for the decisions that are left, but for the last id
    have hmap : (ds.map fun d' => (d', d'.ruling ctx (s.after (d.execute ctx s)))) =
        ds.map fun d' => (d', d'.ruling ctx s) :=
      List.map_congr_left fun d' hd' => by rw [hrulings d' hd']
    have hissues : ds.countP (fun d' => d'.issues ctx (s.after (d.execute ctx s))) =
        ds.countP fun d' => d'.issues ctx s := by
      refine List.countP_congr fun d' hd' => ?_
      rw [issues_eq hfault, issues_eq hfault, hrulings d' hd']
    have hroom' : (s.after (d.execute ctx s)).certificates.lastId +
        ds.countP (fun d' => d'.issues ctx (s.after (d.execute ctx s))) ≤ maxColumn := by
      rw [hissues, hlast]
      omega
    obtain ⟨houtcomes, hrequests', hrows', hlast'⟩ :=
      executeAll_spec hfault ds _ (List.nodup_cons.1 hids).2 hroom'
    rw [hmap] at houtcomes hrequests'
    refine ⟨?_, ?_, ?_, ?_⟩
    · rw [outcomes, List.map_cons, number, hvalue, houtcomes, hlast]
    · refine hrequests'.trans ?_
      rw [hrequests, List.map_cons, List.foldl_cons]
    · refine hrows'.trans ?_
      rw [hrows, outcomes, hvalue, List.filterMap_cons, List.append_assoc]
      cases Outcome.certificate? _ <;> rfl
    · refine hlast'.trans ?_
      rw [hissues, hlast, hcount]
      omega

/-! ### Orders of rulings -/

variable {now : Instant} {x : Except Failure Ruling} {n m : ℕ}

/-- What comes of a ruling that issues no certificate goes by no id, and what comes of another one
is a certificate under the next id. -/
lemma map_result_cases (now : Instant) (x : Except Failure Ruling) :
    (cost x = 0 ∧ ∃ y : Except Failure Result, (∀ n, x.map (Ruling.result now n) = y) ∧
      ∀ σ, y.map (Result.renumber σ) = y) ∨
    (cost x = 1 ∧ ∃ c, ∀ n, x.map (Ruling.result now n) = .ok (.issued ⟨n + 1, now, now, c⟩)) := by
  cases x with
  | error f => exact Or.inl ⟨rfl, .error f, fun _ => rfl, fun _ => rfl⟩
  | ok w =>
    cases hw : w.certificate? with
    | none =>
      refine Or.inl ⟨by simp [cost, Except.toOption, Ruling.issues, hw],
        .ok (.rejected (w.row.change now w.request)), fun n => ?_, fun _ => rfl⟩
      simp only [Except.map, Ruling.result, hw]
    | some c =>
      refine Or.inr ⟨by simp [cost, Except.toOption, Ruling.issues, hw], c, fun n => ?_⟩
      simp only [Except.map, Ruling.result, hw]

/-- A renaming changes an outcome only if it changes the id that was given out. -/
lemma renumber_map_result {σ : Equiv.Perm Int} (hσ : cost x = 1 → σ (n + 1) = n + 1)
    (d : Decision) : Outcome.renumber σ (d, x.map (Ruling.result now n)) =
      (d, x.map (Ruling.result now n)) := by
  rcases map_result_cases now x with ⟨-, y, hy, hrename⟩ | ⟨hx, c, hc⟩
  · rw [hy, Outcome.renumber, hrename]
  · rw [hc]
    simp only [Outcome.renumber, Except.map, Result.renumber, Row.renumber, hσ hx]

/-- A renaming of earlier ids does not change outcomes. -/
lemma map_renumber_number {σ : Equiv.Perm Int} {l : List (Decision × Except Failure Ruling)} :
    ∀ {n : ℕ}, (∀ id : Int, n < id → σ id = id) →
      (number now n l).map (Outcome.renumber σ) = number now n l := by
  induction l with
  | nil => exact fun _ => rfl
  | cons p l ih =>
    obtain ⟨d, x⟩ := p
    intro n hσ
    rw [number, List.map_cons, renumber_map_result fun _ => hσ _ (Int.lt_succ n)]
    congr 1
    refine ih fun id hid => hσ id ?_
    push_cast at hid
    omega

/-- Two neighbours that are swapped keep what comes of them, but if both issue a certificate, the two
certificates change their ids. -/
lemma number_swap (now : Instant) (n : ℕ) (p q : Decision × Except Failure Ruling)
    (l : List (Decision × Except Failure Ruling)) :
    ∃ σ : Equiv.Perm Int, (∀ id ≤ (n : Int), σ id = id) ∧
      (number now n (p :: q :: l)).Perm
        ((number now n (q :: p :: l)).map (Outcome.renumber σ)) := by
  have hone : Outcome.renumber 1 = fun o => o := funext Outcome.renumber_one
  obtain ⟨d, x⟩ := p
  obtain ⟨e, y⟩ := q
  simp only [number, List.map_cons]
  rcases map_result_cases now x with ⟨hx, u, hu, -⟩ | ⟨hx, c, hc⟩
  · refine ⟨1, fun _ _ => rfl, ?_⟩
    simp only [hone, List.map_id', hx, hu, Nat.add_zero]
    exact .swap _ _ _
  · rcases map_result_cases now y with ⟨hy, v, hv, -⟩ | ⟨hy, c', hc'⟩
    · refine ⟨1, fun _ _ => rfl, ?_⟩
      simp only [hone, List.map_id', hy, hv, Nat.add_zero]
      exact .swap _ _ _
    · let σ : Equiv.Perm Int := Equiv.swap (n + 1) ((n + 1 : ℕ) + 1)
      have hfirst : σ (n + 1) = (n + 1 : ℕ) + 1 := Equiv.swap_apply_left _ _
      have hsecond : σ ((n + 1 : ℕ) + 1) = n + 1 := Equiv.swap_apply_right _ _
      have hlater : ∀ id : Int, (n + 1 + 1 : ℕ) < id → σ id = id := fun id hid =>
        Equiv.swap_apply_of_ne_of_ne (by omega) (by omega)
      refine ⟨σ, fun id hid => Equiv.swap_apply_of_ne_of_ne (by omega) (by omega), ?_⟩
      rw [hx, hy, map_renumber_number hlater]
      simp only [hc, hc']
      simp only [Outcome.renumber, Except.map, Result.renumber, Row.renumber, hfirst, hsecond]
      exact .swap _ _ _

/-- In another order the same rulings have the same outcomes, but for the new ids. -/
lemma number_perm (now : Instant) {l₁ l₂ : List (Decision × Except Failure Ruling)}
    (h : l₁.Perm l₂) (n : ℕ) :
    ∃ σ : Equiv.Perm Int, (∀ id ≤ (n : Int), σ id = id) ∧
      (number now n l₂).Perm ((number now n l₁).map (Outcome.renumber σ)) := by
  induction h generalizing n with
  | nil => exact ⟨1, fun _ _ => rfl, .nil⟩
  | cons p _ ih =>
    obtain ⟨d, x⟩ := p
    obtain ⟨σ, hσ, hperm⟩ := ih (n + cost x)
    refine ⟨σ, fun id hid => hσ id (by push_cast; omega), ?_⟩
    rw [number, number, List.map_cons, renumber_map_result fun hcost => hσ _ (by rw [hcost]; rfl)]
    exact hperm.cons _
  | swap p q l => exact number_swap now n p q l
  | trans _ _ ih₁ ih₂ =>
    obtain ⟨σ, hσ, hperm⟩ := ih₁ n
    obtain ⟨τ, hτ, hperm'⟩ := ih₂ n
    refine ⟨τ * σ, fun id hid => ?_, ?_⟩
    · rw [Equiv.Perm.mul_apply, hσ id hid, hτ id hid]
    · have hmul : (Outcome.renumber τ ∘ Outcome.renumber σ) = Outcome.renumber (τ * σ) :=
        funext fun o => (Outcome.renumber_mul τ σ o).symm
      rw [← hmul, ← List.map_map]
      exact hperm'.trans (hperm.map _)

/-! ### Orders of decisions -/

/-- Changes of two rows do not get in each other's way. -/
lemma change_comm {t : Table CertificateRequest} {row row' : Row CertificateRequest}
    (h : row.id ≠ row'.id) (a b : CertificateRequest) :
    (t.change row now a).change row' now b = (t.change row' now b).change row now a := by
  refine Table.ext ?_ rfl
  simp only [Table.rows_change, List.map_map]
  refine List.map_congr_left fun r _ => ?_
  by_cases hr : r.id = row.id
  · have hr' : r.id ≠ row'.id := fun heq => h (hr.symm.trans heq)
    have hchange : (r.change now a).id ≠ row'.id := hr'
    simp only [Function.comp_apply, if_pos hr, if_neg hr', if_neg hchange]
  · by_cases hr' : r.id = row'.id
    · have hchange : (r.change now b).id ≠ row.id := hr
      simp only [Function.comp_apply, if_neg hr, if_pos hr', if_neg hchange]
    · simp only [Function.comp_apply, if_neg hr, if_neg hr']

/-- Rulings on different requests are marked in either order. -/
lemma mark_comm {d e : Decision} (hid : d.id ≠ e.id) (t : Table CertificateRequest) :
    mark now (mark now t (d.ruling ctx s)) (e.ruling ctx s) =
      mark now (mark now t (e.ruling ctx s)) (d.ruling ctx s) := by
  cases hd : d.ruling ctx s with
  | error f => rfl
  | ok w =>
    cases he : e.ruling ctx s with
    | error f => rfl
    | ok w' =>
      have hrow : w.row.id = d.id := (finding_row (ruling_eq_ok_iff.1 hd).1).2
      have hrow' : w'.row.id = e.id := (finding_row (ruling_eq_ok_iff.1 he).1).2
      exact change_comm (by rwa [hrow, hrow']) _ _

/-- The requests are the same in another order. -/
lemma foldl_mark_perm {l₁ l₂ : List Decision} (hperm : l₁.Perm l₂)
    (hids : (l₁.map Decision.id).Nodup) (t : Table CertificateRequest) :
    (l₂.map fun d => (d, d.ruling ctx s)).foldl (fun u p => mark now u p.2) t =
      (l₁.map fun d => (d, d.ruling ctx s)).foldl (fun u p => mark now u p.2) t := by
  simp only [List.foldl_map]
  refine (hperm.foldl_eq' (fun d hd e he u => ?_) t).symm
  by_cases heq : d = e
  · rw [heq]
  · exact mark_comm (fun hid => heq (List.inj_on_of_nodup_map hids hd he hid)) u

/-- Decisions on different requests commute. As long as there are ids for all certificates that
they issue, they leave the same requests in any order; and what comes of each of them, and the
certificates, are the same as well, but for the ids that they give out. -/
theorem decisions_commute {l₁ l₂ : List Decision} (hfault : ctx.fault = none)
    (hperm : l₁.Perm l₂) (hids : (l₁.map Decision.id).Nodup)
    (hroom : s.certificates.lastId + l₁.countP (fun d => d.issues ctx s) ≤ maxColumn) :
    let t₁ := executeAll ctx s l₁
    let t₂ := executeAll ctx s l₂
    t₂.requests = t₁.requests ∧ t₂.certificates.lastId = t₁.certificates.lastId ∧
      ∃ σ : Equiv.Perm Int, (∀ id ≤ (s.certificates.lastId : Int), σ id = id) ∧
        (outcomes ctx s l₂).Perm ((outcomes ctx s l₁).map (Outcome.renumber σ)) ∧
        t₂.certificates.rows.Perm (t₁.certificates.rows.map (Row.renumber σ)) := by
  intro t₁ t₂
  have hcount := hperm.countP_eq fun d => d.issues ctx s
  obtain ⟨hout₁, hreq₁, hrows₁, hlast₁⟩ := executeAll_spec hfault l₁ s hids hroom
  obtain ⟨hout₂, hreq₂, hrows₂, hlast₂⟩ := executeAll_spec hfault l₂ s
    ((hperm.map _).nodup_iff.1 hids) (hcount ▸ hroom)
  obtain ⟨σ, hσ, houtcomes⟩ := number_perm ctx.clock.instant
    (hperm.map fun d => (d, d.ruling ctx s)) s.certificates.lastId
  rw [← hout₁, ← hout₂] at houtcomes
  refine ⟨?_, ?_, σ, hσ, houtcomes, ?_⟩
  · rw [hreq₁, hreq₂, foldl_mark_perm hperm hids]
  · rw [hlast₁, hlast₂, hcount]
  · -- the ids that there were are not renamed
    have hold : s.certificates.rows.map (Row.renumber σ) = s.certificates.rows := by
      have hrow : ∀ r ∈ s.certificates.rows, r.renumber σ = r := fun r hr => by
        simp only [Row.renumber, hσ r.id (Table.id_le_lastId hr)]
      rw [List.map_congr_left hrow, List.map_id']
    have hnew : ((outcomes ctx s l₁).map (Outcome.renumber σ)).filterMap Outcome.certificate? =
        ((outcomes ctx s l₁).filterMap Outcome.certificate?).map (Row.renumber σ) := by
      rw [List.filterMap_map, List.map_filterMap]
      exact List.filterMap_congr fun o _ => Outcome.certificate?_renumber σ o
    rw [hrows₁, hrows₂, List.map_append, hold, ← hnew]
    exact (houtcomes.filterMap _).append_left _

/-- A store with two requests that wait, beside some certificates. -/
def twoWaiting (certificates : Table Certificate) : Store where
  certificates := certificates
  requests := {
    rows := [⟨1, 0, 0, Store.waitingRequest⟩, ⟨2, 0, 0, Store.waitingRequest⟩]
    lastId := 2
    sorted := List.pairwise_pair.2 (by decide)
    bounded := List.forall_mem_cons.2 ⟨by decide, List.forall_mem_singleton.2 (by decide)⟩ }

/-- Two approvals, and a rejection of a request that is not there. -/
def threeDecisions : List Decision :=
  [⟨1, "root", .approve⟩, ⟨2, "root", .approve⟩, ⟨3, "root", .reject (some "late")⟩]

theorem decisions_commute_reverse :
    let ctx : Context := { clock := .ofUtc (utc 2026 1 15 4 30) }
    let s := twoWaiting default
    let t := executeAll ctx s threeDecisions.reverse
    ctx.fault = none ∧ threeDecisions.Perm threeDecisions.reverse ∧
      (threeDecisions.map Decision.id).Nodup ∧
      s.certificates.lastId + threeDecisions.countP (fun d => d.issues ctx s) ≤ maxColumn ∧
      t.requests = (executeAll ctx s threeDecisions).requests ∧
      t.requests.rows.map (fun r => r.data.status) = [.valid, .valid] := by
  intro ctx s t
  have hperm : threeDecisions.Perm threeDecisions.reverse := threeDecisions.reverse_perm.symm
  have hids : (threeDecisions.map Decision.id).Nodup := by decide
  have hroom : s.certificates.lastId + threeDecisions.countP (fun d => d.issues ctx s) ≤
      maxColumn := by decide +kernel
  exact ⟨rfl, hperm, hids, hroom, (decisions_commute rfl hperm hids hroom).1, by decide +kernel⟩

/-- With one id left for two certificates, it is the first approval that gets it, and the other
request stays pending. -/
theorem last_id_not_commute :
    let ctx : Context := { clock := .ofUtc (utc 2026 1 15 4 30) }
    let last : Row Certificate := ⟨maxColumn - 1, 0, 0, Store.waitingRequest.certificate 0 0⟩
    let s := twoWaiting (.single last (by decide))
    let l : List Decision := [⟨1, "root", .approve⟩, ⟨2, "root", .approve⟩]
    let statuses (ds : List Decision) :=
      (executeAll ctx s ds).requests.rows.map fun r => r.data.status
    l.reverse.Perm l ∧ (l.map Decision.id).Nodup ∧ ctx.fault = none ∧
      statuses l = [.valid, .pending] ∧ statuses l.reverse = [.pending, .valid] := by
  intro ctx last s l statuses
  exact ⟨l.reverse_perm, by decide, rfl, by decide +kernel, by decide +kernel⟩

end Decision

end CertRegistry
