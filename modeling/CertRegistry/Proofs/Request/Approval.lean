import CertRegistry.Proofs.Store.Operations
import CertRegistry.Proofs.Store.Transaction
import CertRegistry.Proofs.Time.Span

/-!
# Approval

An approval writes twice: it appends the certificate and it marks the request. Here the two writes
act on the store one after the other, and a transaction undoes the first one where the second one
fails. What is left is what the operation on the store says: all of the approval or nothing of it.
-/

namespace CertRegistry

namespace Store

/-- The writes of an approval, one after the other. -/
def approval (ctx : Context) (admin : Text) (k : Key) : Writes (Row Certificate) := do
  Writes.look fun _ => ctx.reach
  let row ← Writes.look fun s => s.undecided k
  let span ← Writes.look fun _ => spanOfDays ctx.settings.validityDays
  let expires ← Writes.look fun _ => ctx.clock.after span
  let cert ← Writes.write fun s => s.addCertificate ctx do
    return row.data.certificate (← ctx.now) (← expires.stored)
  let _ ← Writes.write fun s => s.saveRequest ctx row do
    return row.data.approve admin (← ctx.now)
  return cert

/-- The writes of an approval lead to what the operation on the store says. -/
lemma result_approval (ctx : Context) (admin : Text) (k : Key) (s : Store) :
    (approval ctx admin k).result s =
      (fun d => (d.value, d.store)) <$> s.approveRequest ctx admin k := by
  simp only [approval, Writes.result_look_bind, Writes.result_write_bind, Writes.result_pure,
    approveRequest, map_bind, map_pure]

/-- An approval as one transaction: it leaves the store of the operation, or the store as it was. -/
theorem runOn_atomic_approval (ctx : Context) (admin : Text) (k : Key) (s : Store) :
    (approval ctx admin k).atomic.runOn s =
      (Done.value <$> s.approveRequest ctx admin k, s.after (s.approveRequest ctx admin k)) :=
  runOn_atomic_of_result (result_approval ctx admin k s)

/-! ### What it takes to approve a request -/

/-- What it takes to approve the request that a key names, while certificates hold for some days:
the request is pending, neither write fails, the times can be stored, and there is an id left. -/
structure Approvable (ctx : Context) (k : Key) (days : Int) (s : Store) : Prop where
  reached : ctx.settings.debug.isSome
  pending : ∃ row ∈ s.requests.rows, k.id? = some row.id ∧ row.data.status = .pending
  saves : ∀ f ∈ ctx.fault, f.site ≠ .certificateSave ∧ f.site ≠ .requestSave
  now : inRange ctx.clock.instant
  days : ctx.clock.Reaches days
  room : s.certificates.lastId < maxColumn

/-- What an approval leaves of a store: one certificate more, under the next id, and one request
decided. -/
structure Approved (ctx : Context) (admin : Text) (k : Key) (days : Int) (s : Store)
    (cert : Row Certificate) (t : Store) : Prop where
  /-- The request that was pending is the only row that changed. -/
  requests : ∃ front back, ∃ row : Row CertificateRequest,
    k.id? = some row.id ∧ row.data.status = .pending ∧
    s.requests.rows = front ++ row :: back ∧
    t.requests.rows = front ++
      { row with
        updatedAt := ctx.clock.instant
        data := { row.data with
          status := .valid
          approvedBy := some admin
          approvedAt := some ctx.clock.instant } } :: back ∧
    cert = {
      id := s.certificates.lastId + 1
      createdAt := ctx.clock.instant
      updatedAt := ctx.clock.instant
      data := {
        name := row.data.userName ++ "-" ++ row.data.kind.toText ++ "-cert"
        kind := row.data.kind
        status := .valid
        owner := row.data.userName
        ownerId := row.data.userId
        content := []
        issued := some ctx.clock.instant
        expires := (ctx.clock.plusDays days).instant } }
  requestCounter : t.requests.lastId = s.requests.lastId
  certificates : t.certificates.rows = s.certificates.rows ++ [cert]
  certificateCounter : t.certificates.lastId = s.certificates.lastId + 1
  /-- On a clock that keeps its offset, the certificate holds for just those days. -/
  expires : ctx.clock.offset?.isSome → cert.data.expires = ctx.clock.instant + days * day

section Approve

variable {ctx : Context} {days : Int} {admin : Text} {k : Key} {s : Store}

lemma pass_saves_iff :
    (ctx.pass .certificateSave = .ok () ∧ ctx.pass .requestSave = .ok ()) ↔
      ∀ f ∈ ctx.fault, f.site ≠ .certificateSave ∧ f.site ≠ .requestSave := by
  simp only [Context.pass_eq_ok_iff, forall_and]

lemma approved_of_eq_ok (hdays : ctx.settings.validityDays = .int days)
    {d : Done (Row Certificate)} (h : s.approveRequest ctx admin k = .ok d) :
    s.Approvable ctx k days ∧ s.Approved ctx admin k days d.value d.store := by
  obtain ⟨hreach, row, span, expires, cert, t, hrow, hpending, hspan, hafter, hcert, hreq, hnow,
    hexp, happ, rfl⟩ := approveRequest_eq_ok_iff.1 h
  obtain ⟨hmem, hid⟩ := Table.get?_eq_some_iff.1 hrow
  obtain ⟨hroom, rfl, hrows, hlast⟩ := Table.append?_eq_some_iff.1 happ
  rw [hdays] at hspan
  obtain ⟨hdays, rfl⟩ := Moment.reaches_iff.2 ⟨span, hspan, hafter, hexp⟩
  have hstatus : row.data.status = .pending := of_decide_eq_true hpending
  obtain ⟨front, back, hold, hnew⟩ := Table.rows_change_eq_append hmem ctx.clock.instant
    (row.data.approve admin ctx.clock.instant)
  constructor
  · exact ⟨hreach, ⟨row, hmem, hid, hstatus⟩, pass_saves_iff.1 ⟨hcert, hreq⟩, hnow, hdays, hroom⟩
  · exact ⟨⟨front, back, row, hid, hstatus, hold, hnew, rfl⟩, rfl, hrows, hlast,
      fun hoffset => Moment.instant_plusDays hoffset⟩

lemma isOk_of_approvable (hdays : ctx.settings.validityDays = .int days)
    (h : s.Approvable ctx k days) : (s.approveRequest ctx admin k).isOk := by
  obtain ⟨hreach, ⟨row, hmem, hid, hstatus⟩, hsaves, hnow, hdays', hroom⟩ := h
  obtain ⟨span, hspan, hafter, hexp⟩ := Moment.reaches_iff.1 ⟨hdays', rfl⟩
  obtain ⟨hcert, hreq⟩ := pass_saves_iff.2 hsaves
  obtain ⟨cert, t, happ⟩ := Table.exists_append? hroom ctx.clock.instant
    (row.data.certificate ctx.clock.instant (ctx.clock.plusDays days).instant)
  rw [← hdays] at hspan
  rw [approveRequest_eq_ok_iff.2 ⟨hreach, row, span, _, cert, t,
    Table.get?_eq_some_iff.2 ⟨hmem, hid⟩, decide_eq_true hstatus, hspan, hafter, hcert, hreq, hnow,
    hexp, happ, rfl⟩]
  rfl

/-- The transaction is needed: where only the save of the request fails, the certificate has been
appended by then, and its id given out. -/
theorem runOn_approval_requestFault (hdays : ctx.settings.validityDays = .int days) {message : Text}
    (hfault : ctx.fault = some ⟨.requestSave, message⟩)
    (h : s.Approvable { ctx with fault := none } k days) :
    ∃ cert t, t.rows = s.certificates.rows ++ [cert] ∧ t.lastId = s.certificates.lastId + 1 ∧
      (approval ctx admin k).runOn s = (.error (.storage message), { s with certificates := t }) ∧
      (approval ctx admin k).atomic.runOn s = (.error (.storage message), s) := by
  obtain ⟨hreach, ⟨row, hmem, hid, hstatus⟩, -, hnow, hdays', hroom⟩ := h
  obtain ⟨span, hspan, hafter, hexp⟩ := Moment.reaches_iff.1 ⟨hdays', rfl⟩
  obtain ⟨cert, t, happ⟩ := Table.exists_append? hroom ctx.clock.instant
    (row.data.certificate ctx.clock.instant (ctx.clock.plusDays days).instant)
  have hreach : ctx.reach = .ok () := Context.reach_eq_ok_iff.2 hreach
  have hnow' : ctx.now = .ok ctx.clock.instant := Context.now_eq_ok_iff.2 ⟨hnow, rfl⟩
  have hafter : ctx.clock.after span = .ok (ctx.clock.plusDays days) := hafter
  have hrow : s.undecided k = .ok row :=
    undecided_eq_ok_iff.2 ⟨Table.get?_eq_some_iff.2 ⟨hmem, hid⟩, decide_eq_true hstatus⟩
  have hadd : s.addCertificate ctx (do
      return row.data.certificate (← ctx.now) (← (ctx.clock.plusDays days).stored)) =
        .ok (cert, { s with certificates := t }) := by
    have hsave : ctx.pass .certificateSave = .ok () := by simp [Context.pass, hfault]
    refine addCertificate_eq_ok_iff.2
      ⟨hsave, Context.reach_eq_ok_iff.1 hreach, hnow, _, t, ?_, happ, rfl⟩
    rw [hnow', Moment.stored_eq_ok_iff.2 ⟨hexp, rfl⟩]
    rfl
  have hfail (r : Except Failure CertificateRequest) (u : Store) :
      u.saveRequest ctx row r = .error (.storage message) := by
    simp only [saveRequest, Context.pass, hfault, if_true]
    rfl
  have hrun : (approval ctx admin k).runOn s =
      (.error (.storage message), { s with certificates := t }) := by
    simp only [approval, Writes.runOn_bind, Writes.runOn_look, Writes.runOn_write, hreach, hrow,
      hdays, hspan, hafter, hadd, hfail]
  refine ⟨cert, t, Table.append?_rows happ, Table.append?_lastId happ, hrun, ?_⟩
  rw [Writes.runOn_atomic, Writes.result, hrun]

end Approve

/-- An approval is all or nothing, and exact. Its writes, undone where one of them fails, leave the
store as it was or the store of the operation; they succeed if and only if the request can be
approved, and then they change nothing but what an approval changes. -/
theorem approval_exact (ctx : Context) (days : Int)
    (hdays : ctx.settings.validityDays = .int days) (admin : Text) (k : Key) (s : Store) :
    ((approval ctx admin k).atomic.runOn s =
      (Done.value <$> s.approveRequest ctx admin k, s.after (s.approveRequest ctx admin k))) ∧
    ((s.approveRequest ctx admin k).isOk ↔ s.Approvable ctx k days) ∧
    ∀ d, s.approveRequest ctx admin k = .ok d → s.Approved ctx admin k days d.value d.store := by
  refine ⟨runOn_atomic_approval ctx admin k s, ⟨fun h => ?_, isOk_of_approvable hdays⟩, ?_⟩
  · obtain ⟨d, hd⟩ := exists_of_isOk h
    exact (approved_of_eq_ok hdays hd).1
  · intro d hd
    exact (approved_of_eq_ok hdays hd).2

/-- A request that waits for a decision. -/
def waitingRequest : CertificateRequest where
  userName := "ann"
  userId := 7
  kind := .client
  status := .pending
  reason := "access"

/-- A store with a request that waits. -/
def waiting : Store where
  certificates := default
  requests := {
    rows := [⟨1, 0, 0, waitingRequest⟩]
    lastId := 1
    bounded := List.forall_mem_singleton.2 (by decide) }

/-- The row of such a request. -/
def waitingRow (id : Int) (userName : Text) (userId : Nat) : Row CertificateRequest where
  id
  createdAt := 0
  updatedAt := 0
  data := { waitingRequest with userName, userId }

/-- The row of a request that has been rejected. -/
def decidedRow : Row CertificateRequest where
  id := 2
  createdAt := 0
  updatedAt := 0
  data := waitingRequest.reject "root" 0 (some "late")

/-- A store with some requests that wait and one that has been rejected, in which three certificates
have been issued and deleted. -/
def queue : Store where
  certificates := { lastId := 3 }
  requests := {
    rows := [waitingRow 1 "ann" 7, decidedRow, waitingRow 5 "bob" 8, waitingRow 8 "cid" 9]
    lastId := 8
    sorted := by decide
    bounded := by decide }

/-- One of the requests that wait is approved, and the others stay as they are. -/
theorem approval_exact_queue :
    let ctx : Context := { clock := .ofUtc (utc 2026 1 15 4 30) }
    let now := ctx.clock.instant
    ctx.settings.validityDays = .int 365 ∧
    ∃ d, queue.approveRequest ctx "root" (.ofInt 5) = .ok d ∧
      d.store.requests.rows = [waitingRow 1 "ann" 7, decidedRow,
        (waitingRow 5 "bob" 8).change now ((waitingRow 5 "bob" 8).data.approve "root" now),
        waitingRow 8 "cid" 9] ∧
      d.store.certificates.rows = [⟨4, now, now,
        { name := "bob-client-cert"
          kind := .client
          status := .valid
          owner := "bob"
          ownerId := 8
          content := []
          issued := some now
          expires := now + 365 * day }⟩] := by
  intro ctx now
  obtain ⟨-, hok, happroved⟩ := approval_exact ctx 365 rfl "root" (.ofInt 5) queue
  have hdays : ctx.clock.Reaches 365 := (Moment.reaches_ofUtc_iff (by decide)).2 (by decide)
  have hwaits : waitingRow 5 "bob" 8 ∈ queue.requests.rows := by decide
  obtain ⟨d, hd⟩ := exists_of_isOk <|
    hok.2 ⟨rfl, ⟨_, hwaits, rfl, rfl⟩, by simp [ctx], by decide, hdays, by decide⟩
  obtain ⟨⟨front, back, row, hid, -, hold, hnew, hcert⟩, -, hrows, -, hexpires⟩ := happroved d hd
  have hid : row.id = 5 := (Option.some.inj hid).symm
  -- the ids tell where the request is among the others
  have hother {r : Row CertificateRequest} (hr : r.id ≠ 5) : row ≠ r := fun heq => hr (heq ▸ hid)
  have hfront : row ∉ [waitingRow 1 "ann" 7, decidedRow] := by
    rw [List.mem_pair]
    exact not_or.2 ⟨hother (by decide), hother (by decide)⟩
  have hback : row ∉ [waitingRow 8 "cid" 9] := mt List.mem_singleton.1 (hother (by decide))
  obtain ⟨rfl, rfl, rfl⟩ := (List.append_cons_inj_of_notMem hfront hback).1 hold
  refine ⟨rfl, d, hd, hnew, ?_⟩
  have hend : (ctx.clock.plusDays 365).instant = now + 365 * day := by
    rw [hcert] at hexpires
    exact hexpires rfl
  rw [hrows, hcert, hend]
  rfl

/-- A store with a request that waits, where the certificates have used up their ids. -/
def exhausted : Store :=
  { waiting with certificates := { lastId := maxColumn, lastId_le := le_rfl } }

/-- A pending request and times that can be stored are not enough, without any fault: there must be
an id left, the settings must say whether to debug, and the time now must be storable, too. -/
theorem pending_not_approvable :
    let now : Moment := .ofUtc (utc 2026 1 15 4 30)
    let early : Moment := ⟨0, some hour⟩
    (∃ row ∈ waiting.requests.rows, row.id = 1 ∧ row.data.status = .pending) ∧
    (∃ row ∈ exhausted.requests.rows, row.id = 1 ∧ row.data.status = .pending) ∧
    now.Reaches 365 ∧ early.Reaches 365 ∧
    exhausted.approveRequest { clock := now } "root" (.ofInt 1) = .error .tableFull ∧
    waiting.approveRequest { clock := now, settings := { debug := none } } "root" (.ofInt 1)
      = .error .unsettled ∧
    waiting.approveRequest { clock := early } "root" (.ofInt 1) = .error .dateOverflow := by
  refine ⟨⟨_, List.mem_singleton_self _, rfl, rfl⟩, ⟨_, List.mem_singleton_self _, rfl, rfl⟩,
    (Moment.reaches_ofUtc_iff (by decide)).2 (by decide), ⟨by decide, by decide, by decide⟩, ?_⟩
  refine ⟨rfl, rfl, rfl⟩

end Store

end CertRegistry
