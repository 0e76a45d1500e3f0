import CertRegistry.Proofs.Step.Answer
import CertRegistry.Proofs.Store.Issuance

/-!
# Issued certificates

Over a run a certificate is issued by a creation or by an approval and by nothing else. A creation
that is answered as a success has recorded a certificate. One that is not has recorded none, unless
the certificate could not be shown at the time of the creation.
-/

namespace CertRegistry

/-- A creation is answered as a success only if a certificate was recorded, and where one was it
is, unless the time of the creation cannot be shown. -/
lemma Endpoint.answerRoute_newCertificate (ctx : Context) (c : Call) (s : Store) :
    let d := answerRoute ctx c .newCertificate s
    (d.value.status = 200 → s.certificates.lastId < d.store.certificates.lastId) ∧
    (s.certificates.lastId < d.store.certificates.lastId →
      d.value.status = 200 ∨ ¬ Moment.IsShown ctx.clock.instant) := by
  intro d
  obtain ⟨ds, hsettled, -⟩ := answerRoute_settled ctx c s .newCertificate
  have hchanges : Changes ctx.clock.instant ds s d.store := hsettled.effect.changes
  constructor
  · intro hstatus
    obtain rfl : ds = [.record] := (hsettled.complete hstatus).resolve_right id
    generalize d.store = t at hchanges ⊢
    obtain _ | ⟨head, tail⟩ := hchanges
    cases tail
    cases head with
    | record hstatus happ =>
      rw [Table.append?_lastId happ]
      exact Nat.lt_succ_self _
  · intro hlast
    have hds : ds ≠ [] := by
      rintro rfl
      generalize d.store = t at hchanges hlast
      cases hchanges
      exact absurd hlast (lt_irrefl _)
    exact (hsettled.reported hds).imp Reply.IsSuccess.status And.left

namespace Step

/-- A call for the creation of a certificate. -/
def isCreation : Step → Bool
  | call c => Route.resolve c.path = some .newCertificate
  | _ => false

variable (ctx : Context) (s : Store) (step : Step)

/-- A creation that is answered as a success. -/
def isAnsweredCreation : Bool := step.isCreation && (step.run ctx s).value.status? = some 200

/-- A creation that saves a certificate at a time that cannot be shown. -/
def isHiddenCreation : Bool :=
  step.isCreation && (Moment.ofInstant? ctx.clock.instant).isNone
    && s.certificates.lastId < (step.next ctx s).certificates.lastId

/-- A creation that records a certificate. -/
def records : Bool := step.isAnsweredCreation ctx s || step.isHiddenCreation ctx s

/-- How many steps of a run are of some kind. -/
def countAll (p : Context → Store → Step → Bool) : Store → List (Context × Step) → Nat
  | _, [] => 0
  | s, (ctx, step) :: rest =>
    (if p ctx s step then 1 else 0) + countAll p (step.next ctx s) rest

/-- The id of the certificate that a step recorded, if it did. -/
def recordedId : List Int :=
  if step.records ctx s then [((step.next ctx s).certificates.lastId : Int)] else []

/-- The ids of the certificates that the creations of a run recorded. -/
def recordedIds : Store → List (Context × Step) → List Int
  | _, [] => []
  | s, (ctx, step) :: rest => step.recordedId ctx s ++ recordedIds (step.next ctx s) rest

@[simp] lemma length_recordedIds (run : List (Context × Step)) :
    (recordedIds s run).length = countAll records s run := by
  induction run generalizing s with
  | nil => rfl
  | cons p rest ih =>
    obtain ⟨ctx, step⟩ := p
    rw [recordedIds, countAll, List.length_append, ih, recordedId]
    split_ifs <;> rfl

variable {ctx s step}

/-- Only a creation may record a certificate. -/
lemma MayDo.isCreation (h : step.MayDo .record) : step.isCreation := by
  obtain ⟨c, r, rfl, hroute, hd⟩ := h.exists_call rfl
  cases r <;> simp [Route.deeds] at hd
  simp [Step.isCreation, hroute]

/-- A creation may do nothing else. -/
lemma MayDo.eq_record {d : Deed} (h : step.MayDo d) (hstep : step.isCreation) : d = .record := by
  cases step with
  | call c =>
    obtain ⟨r, hroute, -, -, hd⟩ := h
    have hr : Route.resolve c.path = some .newCertificate := of_decide_eq_true hstep
    obtain rfl : r = .newCertificate := Option.some.inj (hroute.symm.trans hr)
    exact List.mem_singleton.1 hd
  | bulk | form | refresh => exact absurd hstep Bool.false_ne_true

lemma IsSingle.of_isCreation (hstep : step.isCreation) : step.IsSingle := by
  cases step with
  | call c => trivial
  | bulk | form | refresh => exact absurd hstep Bool.false_ne_true

/-- A creation records a certificate just where it gives out an id. -/
lemma records_iff (ctx : Context) (s : Store) (hstep : step.isCreation) : step.records ctx s ↔
    s.certificates.lastId < (step.next ctx s).certificates.lastId := by
  cases step with
  | call c =>
    have hroute : Route.resolve c.path = some .newCertificate := of_decide_eq_true hstep
    obtain ⟨hanswered, hissued⟩ := Endpoint.answerRoute_newCertificate ctx c s
    simp only [records, isAnsweredCreation, isHiddenCreation, hstep, StepResult.status?, next, run,
      Endpoint.answer, hroute, Option.map_some, Option.some.injEq, Bool.true_and, Bool.or_eq_true,
      Bool.and_eq_true, decide_eq_true_eq, Option.isNone_iff_eq_none]
    constructor
    · rintro (hstatus | ⟨-, hlast⟩)
      · exact hanswered hstatus
      · exact hlast
    · intro hlast
      refine (hissued hlast).imp_right fun hhidden => ⟨?_, hlast⟩
      simpa [Moment.IsShown] using hhidden
  | bulk | form | refresh => exact absurd hstep Bool.false_ne_true

/-- Only a creation records a certificate. -/
lemma records_eq_false (hstep : step.isCreation = false) : step.records ctx s = false := by
  simp only [records, isAnsweredCreation, isHiddenCreation, hstep, Bool.false_and, Bool.or_self]

/-- The account goes on through a step: a creation that records a certificate adds its id. -/
lemma next_accounted (ctx : Context) (step : Step) {recorded : List Int} {certOf : Int → Int}
    (h : Accounted s recorded certOf) :
    ∃ certOf', Accounted (step.next ctx s) (recorded ++ step.recordedId ctx s) certOf' := by
  rw [recordedId]
  obtain ⟨ds, hmay, hsingle, heffect⟩ := run_effect ctx s step
  have hchanges : Changes ctx.clock.instant ds s (step.next ctx s) := heffect.changes
  by_cases hstep : step.isCreation
  · have hrecords := records_iff ctx s hstep
    cases ds with
    | nil =>
      generalize step.next ctx s = t at hchanges hrecords
      cases hchanges
      rw [if_neg (hrecords.not.2 (lt_irrefl _)), List.append_nil]
      exact ⟨certOf, h⟩
    | cons d ds =>
      -- a creation does one deed at most, so there is no other one
      have hlength := hsingle (.of_isCreation hstep)
      obtain rfl : ds = [] := List.eq_nil_of_length_eq_zero (by simpa using hlength)
      obtain rfl := (hmay d List.mem_cons_self).eq_record hstep
      generalize step.next ctx s = t at hchanges hrecords
      obtain _ | ⟨head, tail⟩ := hchanges
      cases tail
      cases head with
      | record hstatus happ =>
        rw [if_pos (hrecords.2 (by rw [Table.append?_lastId happ]; exact Nat.lt_succ_self _))]
        exact ⟨certOf, h.record happ⟩
  · rw [Bool.not_eq_true] at hstep
    rw [records_eq_false hstep, if_neg Bool.false_ne_true, List.append_nil]
    refine h.changes (fun hmem => ?_) hchanges
    exact absurd ((hmay _ hmem).isCreation.symm.trans hstep) nofun

/-- The account goes on through a run. -/
lemma runAll_accounted (run : List (Context × Step)) {recorded : List Int} {certOf : Int → Int}
    (h : Accounted s recorded certOf) :
    ∃ certOf', Accounted (runAll s run) (recorded ++ recordedIds s run) certOf' := by
  induction run generalizing s recorded certOf with
  | nil =>
    rw [recordedIds, List.append_nil]
    exact ⟨certOf, h⟩
  | cons p rest ih =>
    obtain ⟨ctx, step⟩ := p
    obtain ⟨certOf', h'⟩ := next_accounted ctx step h
    rw [recordedIds, ← List.append_assoc]
    exact ih h'

/-- Every certificate that was issued in a run from the empty store is accounted for, exactly once:
as many ids were given out as requests were approved and certificates recorded, and each of the ids
belongs to a recorded certificate or to one approved request. As long as the certificate of an
approved request is stored, it has the owner, the kind and the time that it was issued with. -/
theorem issued_accounted (run : List (Context × Step)) :
    let t := runAll {} run
    t.certificates.lastId = t.approvedCount + countAll records {} run ∧
    (recordedIds {} run).Nodup ∧
    ∃ certOf : Int → Int,
      (∀ r ∈ t.requests.rows, r.data.status = .valid →
        1 ≤ certOf r.id ∧ certOf r.id ≤ t.certificates.lastId ∧
        certOf r.id ∉ recordedIds {} run ∧
        ∀ c ∈ t.certificates.rows, c.id = certOf r.id → c.data.IssuedFor r.data) ∧
      (∀ r ∈ t.requests.rows, ∀ r' ∈ t.requests.rows, r.data.status = .valid →
        r'.data.status = .valid → certOf r.id = certOf r'.id → r = r') ∧
      ∀ n : Int, 1 ≤ n → n ≤ t.certificates.lastId →
        n ∈ recordedIds {} run ∨
          ∃ r ∈ t.requests.rows, r.data.status = .valid ∧ certOf r.id = n := by
  intro t
  obtain ⟨certOf, h⟩ := runAll_accounted run (.empty id)
  rw [List.nil_append] at h
  have happroved {r : Row CertificateRequest} (hr : r ∈ t.requests.rows)
      (hstatus : r.data.status = .valid) : t.HasApproved r.id r.data := ⟨hstatus, r, hr, rfl, rfl⟩
  refine ⟨?_, h.nodup, certOf, ?_, ?_, ?_⟩
  · rw [← length_recordedIds]
    exact h.count
  · intro r hr hstatus
    obtain ⟨hone, hle, hnot⟩ := h.certOf_mem _ _ (happroved hr hstatus)
    exact ⟨hone, hle, hnot, h.issued _ _ (happroved hr hstatus)⟩
  · intro r hr r' hr' hstatus hstatus' heq
    exact Table.eq_of_id_eq hr hr'
      (h.injective _ _ _ _ (happroved hr hstatus) (happroved hr' hstatus') heq)
  · intro n hn hn'
    refine (h.covered n hn hn').imp_right ?_
    rintro ⟨id, r, ⟨hstatus, row, hrow, rfl, rfl⟩, heq⟩
    exact ⟨row, hrow, hstatus, heq⟩

/-- An administrator creates a certificate. -/
def creation : Step := .call {
  caller := .user { id := 1, name := "root", isStaff := true }
  method := "POST"
  path := "/certificates/admin/certificates/create/"
  body := Text.Utf8.encode ("\x7b\"name\": \"n\", \"type\": \"client\", \"content\": \"c\", "
    ++ "\"expiration_date\": \"2027-01-01T00:00:00Z\"\x7d") }

/-- A certificate is created, and a request is made by the form and approved. -/
def creationAndApproval : List (Context × Step) :=
  let ctx : Context := { clock := .ofUtc (utc 2026 1 15 4 30) }
  [(ctx, creation), (ctx, .form none "user_name=ann&user_id=7&type=client&reason=access"),
    (ctx, .bulk .approve [1] (.user { id := 1, name := "root", isStaff := true }))]

theorem issued_accounted_creationAndApproval :
    (runAll {} creationAndApproval).approvedCount = 1 ∧
    countAll records {} creationAndApproval = 1 ∧
    (runAll {} creationAndApproval).certificates.lastId = 2 := by
  have happroved : (runAll {} creationAndApproval).approvedCount = 1 := by decide +kernel
  have hrecorded : countAll records {} creationAndApproval = 1 := by decide +kernel
  have hcount := (issued_accounted creationAndApproval).1
  rw [happroved, hrecorded] at hcount
  exact ⟨happroved, hrecorded, hcount⟩

/-- A creation four hours before the end of the year 9999, which is past that end in the zone. -/
def hiddenCreation : List (Context × Step) := [({ clock := .ofUtc (timeEnd - 4 * hour) }, creation)]

/-- The creations that are answered as a success do not account for all certificates. -/
theorem hiddenCreation_unaccounted :
    (runAll {} hiddenCreation).certificates.lastId ≠
      (runAll {} hiddenCreation).approvedCount + countAll isAnsweredCreation {} hiddenCreation := by
  decide +kernel

end Step

end CertRegistry
