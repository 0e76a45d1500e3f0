import CertRegistry.Draft.Service
import CertRegistry.Proofs.Store.Fault

/-!
# What a submission needs

A program submits the request of a tenant as a draft. The rules of the registry are checked before
the draft is saved, and no failure to save it is one of those rules. So the submission fails by a
rule just where the rule forbids it, and where none does it needs no more than the storage needs.
-/

namespace CertRegistry

/-- A text that the storage can take. -/
def Text.IsStorable (t : Text) : Prop := ∀ c ∈ t, Text.isSurrogate c = false

instance (t : Text) : Decidable t.IsStorable :=
  inferInstanceAs (Decidable (∀ c ∈ t, Text.isSurrogate c = false))

lemma storedText_eq_ok_iff {t t' : Text} : storedText t = .ok t' ↔ t.IsStorable ∧ t' = t := by
  unfold storedText Text.IsStorable
  split_ifs with h
  · obtain ⟨c, hc, hsurrogate⟩ := List.any_eq_true.1 h
    simp only [false_iff, not_and]
    intro hall
    exact absurd ((hall c hc).symm.trans hsurrogate) Bool.false_ne_true
  · rw [Bool.not_eq_true, List.any_eq_false] at h
    rw [Except.ok.injEq, eq_comm, iff_and_self]
    exact fun _ c hc => Bool.eq_false_of_not_eq_true (h c hc)

/-! ### Failures to save -/

namespace Draft

lemma readTimestamp_failsWith (t : Text) : FailsWith Failure.IsFault (readTimestamp t) := by
  unfold readTimestamp
  split
  · exact .ok _
  · exact .ok _
  · exact .error ⟨rfl, rfl⟩
  · split
    · exact .ok _
    · exact .ok _
    · exact .error ⟨rfl, rfl⟩
    · exact .error ⟨rfl, rfl⟩

lemma Column.toNumber_failsWith (c : Column) (v : Json) :
    FailsWith Failure.IsFault (c.toNumber v) := by
  unfold toNumber
  split
  · exact .ok _
  · exact .error ⟨rfl, rfl⟩
  · exact .error ⟨rfl, rfl⟩

lemma Column.convert_failsWith (c : Column) (g : Given) :
    FailsWith Failure.IsFault (c.convert g) := by
  unfold convert
  split
  · exact (Moment.stored_failsWith _).map _
  · exact .ok _
  · split
    · exact c.toNumber_failsWith _
    · exact .ok _
    · exact .ok _
    · refine (readTimestamp_failsWith _).bind fun m => ?_
      exact (Moment.stored_failsWith m).bind fun _ => .ok _
    · exact .error ⟨rfl, rfl⟩

lemma Cells.convert_failsWith (values : List (Column × Given)) :
    FailsWith Failure.IsFault (Cells.convert values) :=
  .mapM fun p _ => (Column.convert_failsWith p.1 p.2).map _

lemma Cells.take_failsWith (cs : Cells) : FailsWith Failure.IsFault cs.take := by
  refine .forM fun cell _ => ?_
  unfold checkTaken
  split
  · exact (storedText_failsWith _).map _
  · split_ifs
    · exact .ok _
    · exact .error ⟨rfl, rfl⟩
  · exact .ok _

lemma Cells.constrain_failsWith (table : Text) (cs : Cells) :
    FailsWith Failure.IsFault (cs.constrain table) := by
  refine FailsWith.bind (.forM fun cell _ => ?_) fun _ => .forM fun cell _ => ?_
  · unfold checkPresent
    split
    · split_ifs
      · exact .ok _
      · exact .error ⟨rfl, rfl⟩
    · exact .ok _
  · unfold checkSign
    split
    · split_ifs
      · exact .error ⟨rfl, rfl⟩
      · exact .ok _
    · exact .ok _

/-- No failure to append a draft is a rule of the registry. -/
lemma append_failsWith {α : Type} (l : Layout α) (ctx : Context) (d : Draft) (t : Table α) :
    FailsWith Failure.IsFault (d.append l ctx t) := by
  refine ctx.reach_failsWith.bind fun _ => (Cells.convert_failsWith _).bind fun cells =>
    (Cells.take_failsWith cells).bind fun _ => ?_
  split
  · exact .error ⟨rfl, rfl⟩
  · exact (Cells.constrain_failsWith l.table cells).bind fun _ => .ok _

/-! ### The request of a tenant -/

section Tenant

variable {ctx : Context} {a : Account} {kind reason : Text} {s : Store}

/-- The request that a tenant submits. -/
def requestOf (a : Account) (kind reason : Text) : CertificateRequest where
  userName := a.name
  userId := a.id.toNat
  kind := .ofText kind
  status := .pending
  reason

/-- The columns of that request at a time. -/
def cellsOf (a : Account) (kind reason : Text) (now : Instant) : Cells :=
  requestLayout.columns.zip
    [.text a.name, .number a.id, .text kind, .text RequestStatus.pending.toText, .text reason,
      .null, .null, .null, .null, .null, .instant now, .instant now]

/-- What the storage needs for the request of a tenant, besides an id: no fault strikes it, the time
and the texts can be stored, and the column of users can hold the tenant. -/
structure Submittable (ctx : Context) (a : Account) (kind reason : Text) : Prop where
  pass : ctx.pass .requestSave = .ok ()
  inRange : inRange ctx.clock.instant
  name : a.name.IsStorable
  kind : kind.IsStorable
  reason : reason.IsStorable
  nonneg : 0 ≤ a.id
  le : a.id ≤ maxColumn

lemma convert_tenantRequest : Cells.convert ((tenantRequest (.user a) (.text kind)
    (.text reason)).stamped ctx).values = ctx.now.map (cellsOf a kind reason) := by
  have hvalues : ((tenantRequest (.user a) (.text kind) (.text reason)).stamped ctx).values =
      requestLayout.columns.zip [.json (.text a.name), .json (.int a.id), .json (.text kind),
        .json (.text RequestStatus.pending.toText), .json (.text reason), .json .null,
        .json .null, .json .null, .json .null, .json .null, .moment ctx.clock,
        .moment ctx.clock] := rfl
  rw [hvalues]
  have hnow : ctx.now = ctx.clock.stored := rfl
  cases hstored : ctx.clock.stored <;>
    simp [hnow, hstored, Cells.convert, Column.convert, Column.toNumber, Json.toInteger,
      requestLayout, textColumn, numberColumn, kindColumn, optionalText, optionalMoment,
      timestampColumns] <;>
    rfl

lemma take_cellsOf {now : Instant} : (cellsOf a kind reason now).take = .ok () ↔
    a.name.IsStorable ∧ Integer.fits a.id ∧ kind.IsStorable ∧ reason.IsStorable := by
  have hpending : RequestStatus.pending.toText.IsStorable := by decide
  unfold Cells.take
  rw [forM_eq_ok_iff]
  simp [cellsOf, requestLayout, Cells.checkTaken, textColumn, numberColumn, kindColumn,
    optionalText, optionalMoment, timestampColumns, map_eq_ok_iff, storedText_eq_ok_iff, hpending]

lemma constrain_cellsOf {now : Instant} :
    (cellsOf a kind reason now).constrain requestLayout.table = .ok () ↔ 0 ≤ a.id := by
  unfold Cells.constrain
  simp only [bind_eq_ok_iff, forM_eq_ok_iff]
  simp [cellsOf, requestLayout, Cells.checkPresent, Cells.checkSign, textColumn, numberColumn,
    kindColumn, optionalText, optionalMoment, timestampColumns]

/-- The draft has no id, so it is appended. -/
lemma insert_tenantRequest (t : Table CertificateRequest) (tenant : Caller) (kind reason : Json) :
    (tenantRequest tenant kind reason).insert requestLayout ctx t =
      ctx.pass .requestSave >>= fun _ =>
        (tenantRequest tenant kind reason).append requestLayout ctx t := rfl

lemma append_tenantRequest_eq_ok_iff {t : Table CertificateRequest} {d : Draft}
    {row : Row CertificateRequest} {u : Table CertificateRequest} :
    (tenantRequest (.user a) (.text kind) (.text reason)).append requestLayout ctx t
        = .ok (d, row, u) ↔
      ctx.settings.debug.isSome ∧ inRange ctx.clock.instant ∧
      (a.name.IsStorable ∧ Integer.fits a.id ∧ kind.IsStorable ∧ reason.IsStorable) ∧
      0 ≤ a.id ∧ t.append? ctx.clock.instant (requestOf a kind reason) = some (row, u) ∧
      d = { (tenantRequest (.user a) (.text kind) (.text reason)).stamped ctx with
        id := .int row.id } := by
  simp only [append, bind_eq_ok_iff, Context.reach_eq_ok_iff, exists_const, convert_tenantRequest,
    map_eq_ok_iff, Context.now_eq_ok_iff]
  constructor
  · rintro ⟨hdebug, cells, ⟨now, ⟨hnow, rfl⟩, rfl⟩, ⟨⟩, htake, h⟩
    split at h
    · exact absurd h throw_ne_ok
    · next row' u' happ =>
      obtain ⟨⟨⟩, hconstrain, h⟩ := bind_eq_ok_iff.1 h
      rw [pure_eq_ok_iff, Prod.mk.injEq, Prod.mk.injEq] at h
      obtain ⟨rfl, rfl, rfl⟩ := h
      exact ⟨hdebug, hnow, take_cellsOf.1 htake, constrain_cellsOf.1 hconstrain, happ, rfl⟩
  · rintro ⟨hdebug, hnow, htake, hnonneg, happ, rfl⟩
    refine ⟨hdebug, _, ⟨_, ⟨hnow, rfl⟩, rfl⟩, (), take_cellsOf.2 htake, ?_⟩
    have happ : t.append? ((cellsOf a kind reason ctx.clock.instant).instant "created_at")
        (requestLayout.record (cellsOf a kind reason ctx.clock.instant)) = some (row, u) := happ
    rw [happ]
    exact bind_eq_ok_iff.2 ⟨(), constrain_cellsOf.2 hnonneg, rfl⟩

/-- Besides what the rules and the storage need, a submission needs an id for the request, which it
appends to the table. -/
lemma submitRequest_eq_ok_iff {d : Done Draft} :
    submitRequest ctx (.user a) (.text kind) (.text reason) s = .ok d ↔
      ctx.settings.debug.isSome ∧ s.checkTenant (.ofInt a.id) = .ok () ∧
      Submittable ctx a kind reason ∧ ∃ row t,
        s.requests.append? ctx.clock.instant (requestOf a kind reason) = some (row, t) ∧
        d = {
          value := { (tenantRequest (.user a) (.text kind) (.text reason)).stamped ctx with
            id := .int row.id }
          store := { s with requests := t }
          log := [.registry (Store.submittedText (.user a) row.id kind)] } := by
  have hkey : Key.ofCaller (.user a) = .ofInt a.id := rfl
  have hfits (hnonneg : 0 ≤ a.id) : Integer.fits a.id = true ↔ a.id ≤ maxColumn := by
    simp only [Integer.fits, Bool.and_eq_true, decide_eq_true_eq, maxColumn]
    omega
  simp only [submitRequest, insert_tenantRequest, bind_eq_ok_iff, Prod.exists, pure_eq_ok_iff,
    Context.reach_eq_ok_iff, exists_const, append_tenantRequest_eq_ok_iff, hkey]
  constructor
  · rintro ⟨hdebug, ⟨⟩, hcheck, d', row, t,
      ⟨⟨⟩, hpass, -, hnow, ⟨hname, hid, hkind, hreason⟩, hnonneg, happ, rfl⟩, rfl⟩
    have hle := (hfits hnonneg).1 hid
    exact ⟨hdebug, hcheck, ⟨hpass, hnow, hname, hkind, hreason, hnonneg, hle⟩, row, t, happ, rfl⟩
  · rintro ⟨hdebug, hcheck, h, row, t, happ, rfl⟩
    have hid := (hfits h.nonneg).2 h.le
    exact ⟨hdebug, (), hcheck, _, row, t, ⟨(), h.pass, hdebug, h.inRange,
      ⟨h.name, hid, h.kind, h.reason⟩, h.nonneg, happ, rfl⟩, rfl⟩

/-- A submission fails by a rule where the rules forbid it, and by no other one. -/
lemma submitRequest_eq_error_iff {tenant : Caller} {kind reason : Json}
    (hdebug : ctx.settings.debug.isSome) {f : Failure} (hf : f.isRule) :
    submitRequest ctx tenant kind reason s = .error f ↔
      s.checkTenant (.ofCaller tenant) = .error f := by
  unfold submitRequest
  rw [Context.reach_of_isSome hdebug, insert_tenantRequest]
  cases hcheck : s.checkTenant (.ofCaller tenant) with
  | error e =>
    show (Except.error e = Except.error f) ↔ _
    rw [Except.error.injEq, Except.error.injEq]
  | ok u =>
    have hsave := (ctx.pass_failsWith .requestSave).bind fun _ =>
      append_failsWith requestLayout ctx (tenantRequest tenant kind reason) s.requests
    constructor
    · -- where the rules allow the submission, only a save can fail, and that breaks no rule
      intro h
      have hrule : f.isRule = false := by
        refine ((hsave.bind fun saved => ?_) f h).2
        exact .ok _
      exact absurd (hrule.symm.trans hf) Bool.false_ne_true
    · exact nofun

/-- A request with texts that can be stored is made by a program just as it is made by a call. -/
theorem submitRequest_agrees (hname : a.name.IsStorable) (hkind : kind.IsStorable)
    (hreason : reason.IsStorable) (t : Store) :
    (∃ d, submitRequest ctx (.user a) (.text kind) (.text reason) s = .ok d ∧ d.store = t) ↔
      ∃ d, s.submitRequest ctx (.user a) kind
        (Store.newRequest a.name (some a.id) (.ofText kind) reason) = .ok d ∧ d.store = t := by
  constructor
  · rintro ⟨d, hd, rfl⟩
    obtain ⟨hdebug, hcheck, h, row, u, happ, rfl⟩ := submitRequest_eq_ok_iff.1 hd
    obtain ⟨hactive, hpending⟩ := Store.checkTenant_eq_ok_iff.1 hcheck
    have hnew : Store.newRequest a.name (some a.id) (.ofText kind) reason
        = .ok (requestOf a kind reason) := by
      refine Store.newRequest_eq_ok_iff.2 ⟨a.id.toNat, ?_, Int.toNat_le.2 h.le, rfl⟩
      rw [Int.toNat_of_nonneg h.nonneg]
    exact ⟨_, Store.submitRequest_eq_ok_iff.2
      ⟨hactive, hpending, h.pass, hdebug, h.inRange, _, row, u, hnew, happ, rfl⟩, rfl⟩
  · rintro ⟨d, hd, rfl⟩
    obtain ⟨hactive, hpending, hpass, hdebug, hnow, r, row, u, hr, happ, rfl⟩ :=
      Store.submitRequest_eq_ok_iff.1 hd
    obtain ⟨id, hid, hle, rfl⟩ := Store.newRequest_eq_ok_iff.1 hr
    have hid : a.id = id := Option.some.inj hid
    have hsubmittable : Submittable ctx a kind reason :=
      ⟨hpass, hnow, hname, hkind, hreason, by omega, by omega⟩
    have happ : s.requests.append? ctx.clock.instant (requestOf a kind reason) = some (row, u) := by
      rw [requestOf, hid, Int.toNat_natCast]
      exact happ
    have hcheck : s.checkTenant (.ofInt a.id) = .ok () :=
      Store.checkTenant_eq_ok_iff.2 ⟨hactive, hpending⟩
    exact ⟨_, submitRequest_eq_ok_iff.2 ⟨hdebug, hcheck, hsubmittable, row, u, happ, rfl⟩, rfl⟩

end Tenant

end Draft

end CertRegistry
