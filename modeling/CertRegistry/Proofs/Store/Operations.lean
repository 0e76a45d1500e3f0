import CertRegistry.Proofs.Table
import CertRegistry.Request.Decision
import CertRegistry.Certificate.Refresh

/-!
# What the operations need and what they do

Every operation on the store is a chain of checks and writes. Each of them has one statement here,
which says exactly when the operation succeeds and what its result, the store and the log are then.
-/

namespace CertRegistry

variable {ctx : Context} {s : Store}

/-! ### Chains that may fail -/

lemma bind_eq_ok_iff {α β : Type} {x : Except Failure α} {f : α → Except Failure β} {b : β} :
    x >>= f = .ok b ↔ ∃ a, x = .ok a ∧ f a = .ok b := by
  cases x with
  | error e => simp [bind, Except.bind]
  | ok a => simp [bind, Except.bind]

lemma pure_eq_ok_iff {α : Type} {a b : α} : (pure a : Except Failure α) = .ok b ↔ b = a := by
  simp only [pure, Except.pure, Except.ok.injEq, eq_comm]

lemma throw_ne_ok {α : Type} {f : Failure} {a : α} : (throw f : Except Failure α) ≠ .ok a := nofun

lemma exists_of_isOk {α : Type} {x : Except Failure α} (h : x.isOk) : ∃ a, x = .ok a := by
  cases x with
  | error f => exact absurd h Bool.false_ne_true
  | ok a => exact ⟨a, rfl⟩

lemma map_eq_ok_iff {α β : Type} {x : Except Failure α} {f : α → β} {b : β} :
    x.map f = .ok b ↔ ∃ a, x = .ok a ∧ f a = b := by
  cases x <;> simp [Except.map]

lemma forM_eq_ok_iff {α : Type} {f : α → Except Failure Unit} {l : List α} {u : Unit} :
    l.forM f = .ok u ↔ ∀ a ∈ l, f a = .ok () := by
  induction l with
  | nil => exact ⟨fun _ => nofun, fun _ => rfl⟩
  | cons a l ih =>
    show (f a >>= fun _ => l.forM f) = .ok u ↔ _
    rw [bind_eq_ok_iff, List.forall_mem_cons, ih]
    constructor
    · rintro ⟨⟨⟩, ha, hl⟩
      exact ⟨ha, hl⟩
    · rintro ⟨ha, hl⟩
      exact ⟨(), ha, hl⟩

section

variable {α β γ : Type} {f : α → Except Failure β} {as : List α} {bs : List β}

lemma mapM_eq_ok_iff : as.mapM f = .ok bs ↔ List.Forall₂ (fun a b => f a = .ok b) as bs := by
  induction as generalizing bs with
  | nil => simp [List.mapM_nil, pure_eq_ok_iff]
  | cons a as ih =>
    simp only [List.mapM_cons, bind_eq_ok_iff, pure_eq_ok_iff, ih, List.forall₂_cons_left_iff]
    constructor
    · rintro ⟨b, hb, bs, hbs, rfl⟩
      exact ⟨b, bs, hb, hbs, rfl⟩
    · rintro ⟨b, bs, hb, hbs, rfl⟩
      exact ⟨b, hb, bs, hbs, rfl⟩

lemma exists_forall₂ (h : ∀ a ∈ as, ∃ b, f a = .ok b) :
    ∃ bs, List.Forall₂ (fun a b => f a = .ok b) as bs := by
  induction as with
  | nil => exact ⟨[], .nil⟩
  | cons a as ih =>
    obtain ⟨b, hb⟩ := h a List.mem_cons_self
    obtain ⟨bs, hbs⟩ := ih fun a' ha' => h a' (List.mem_cons_of_mem _ ha')
    exact ⟨b :: bs, .cons hb hbs⟩

lemma map_eq_map_ok (g : β → γ) (h : List.Forall₂ (fun a b => f a = .ok b) as bs) :
    as.map (fun a => (f a).map g) = (bs.map g).map .ok := by
  induction h with
  | nil => rfl
  | cons hb _ ih =>
    rw [List.map_cons, hb, ih]
    rfl

end

/-- All failures of an operation are of some kind. -/
def FailsWith {α : Type} (P : Failure → Prop) (x : Except Failure α) : Prop :=
  ∀ f, x = .error f → P f

namespace FailsWith

variable {α β : Type} {P : Failure → Prop} {x : Except Failure α}

lemma ok (a : α) : FailsWith P (.ok a) := nofun

lemma error {f : Failure} (hf : P f) : FailsWith P (.error f : Except Failure α) := by
  intro g h
  rwa [← Except.error.inj h]

lemma mono {Q : Failure → Prop} (hx : FailsWith P x) (h : ∀ f, P f → Q f) : FailsWith Q x :=
  fun f hf => h f (hx f hf)

/-- What comes of the first step is known to the second one. -/
lemma bind_of_ok {k : α → Except Failure β} (hx : FailsWith P x)
    (hk : ∀ a, x = .ok a → FailsWith P (k a)) : FailsWith P (x >>= k) := by
  cases x with
  | error e => exact error (hx e rfl)
  | ok a => exact hk a rfl

lemma bind {k : α → Except Failure β} (hx : FailsWith P x) (hk : ∀ a, FailsWith P (k a)) :
    FailsWith P (x >>= k) :=
  hx.bind_of_ok fun a _ => hk a

lemma map (hx : FailsWith P x) (g : α → β) : FailsWith P (x.map g) := by
  cases x with
  | error e => exact error (hx e rfl)
  | ok a => exact ok (g a)

lemma mapM {k : α → Except Failure β} {l : List α} (hk : ∀ a ∈ l, FailsWith P (k a)) :
    FailsWith P (l.mapM k) := by
  induction l with
  | nil => exact ok []
  | cons a l ih =>
    rw [List.mapM_cons]
    refine (hk a List.mem_cons_self).bind fun b => ?_
    exact (ih fun a ha => hk a (List.mem_cons_of_mem _ ha)).bind fun _ => ok _

lemma forM {k : α → Except Failure Unit} {l : List α} (hk : ∀ a ∈ l, FailsWith P (k a)) :
    FailsWith P (l.forM k) := by
  induction l with
  | nil => exact ok ()
  | cons a l ih =>
    exact (hk a List.mem_cons_self).bind fun _ => ih fun a ha => hk a (List.mem_cons_of_mem _ ha)

end FailsWith

/-- All that an operation succeeds with is of some kind. -/
def SucceedsWith {α : Type} (P : α → Prop) (x : Except Failure α) : Prop :=
  ∀ a, x = .ok a → P a

namespace SucceedsWith

variable {α β : Type} {P : α → Prop} {x : Except Failure β}

lemma ok {a : α} (ha : P a) : SucceedsWith P (.ok a) := by
  intro b h
  rwa [← Except.ok.inj h]

lemma error (f : Failure) : SucceedsWith P (.error f) := nofun

lemma bind {k : β → Except Failure α} (h : ∀ b, x = .ok b → SucceedsWith P (k b)) :
    SucceedsWith P (x >>= k) := by
  cases x with
  | error f => exact error f
  | ok b => exact h b rfl

lemma map {g : β → α} (h : ∀ b, P (g b)) : SucceedsWith P (x.map g) := by
  cases x with
  | error f => exact error f
  | ok b => exact ok (h b)

end SucceedsWith

/-! ### Guards -/

lemma Moment.stored_eq_ok_iff {m : Moment} {t : Instant} :
    m.stored = .ok t ↔ inRange m.instant ∧ t = m.instant := by
  unfold Moment.stored
  split_ifs with h <;> simp [h, eq_comm]

lemma Context.now_eq_ok_iff {t : Instant} :
    ctx.now = .ok t ↔ inRange ctx.clock.instant ∧ t = ctx.clock.instant :=
  Moment.stored_eq_ok_iff

lemma Context.reach_eq_ok_iff {u : Unit} : ctx.reach = .ok u ↔ ctx.settings.debug.isSome := by
  unfold Context.reach
  split_ifs with h <;> simp [h]

lemma Context.pass_eq_ok_iff {site : FaultSite} {u : Unit} :
    ctx.pass site = .ok u ↔ ∀ f ∈ ctx.fault, f.site ≠ site := by
  unfold Context.pass
  split
  · next f hf =>
    split_ifs with h <;> simp [hf, h]
  · next hf => simp [hf]

/-! ### Rows -/

lemma Store.certificate_eq_ok_iff {k : Key} {row : Row Certificate} :
    s.certificate k = .ok row ↔ s.certificates.get? k = some row := by
  unfold Store.certificate
  split
  · next r h => simp [h]
  · next h => simp [h]

lemma Store.request_eq_ok_iff {k : Key} {row : Row CertificateRequest} :
    s.request k = .ok row ↔ s.requests.get? k = some row := by
  unfold Store.request
  split
  · next r h => simp [h]
  · next h => simp [h]

lemma Table.get?_eq_some_iff {α : Type} {t : Table α} {k : Key} {row : Row α} :
    t.get? k = some row ↔ row ∈ t.rows ∧ k.id? = some row.id := by
  simp only [Table.get?, Option.bind_eq_some_iff, Table.find?_eq_some_iff]
  constructor
  · rintro ⟨id, hk, hrow, rfl⟩
    exact ⟨hrow, hk⟩
  · rintro ⟨hrow, hk⟩
    exact ⟨row.id, hk, hrow, rfl⟩

/-! ### Single writes -/

lemma Store.addCertificate_eq_ok_iff {c : Except Failure Certificate} {row : Row Certificate}
    {s' : Store} :
    s.addCertificate ctx c = .ok (row, s') ↔
      ctx.pass .certificateSave = .ok () ∧ ctx.settings.debug.isSome ∧
      inRange ctx.clock.instant ∧ ∃ c' t, c = .ok c' ∧
        s.certificates.append? ctx.clock.instant c' = some (row, t) ∧
        s' = { s with certificates := t } := by
  simp only [Store.addCertificate, bind_eq_ok_iff, Context.reach_eq_ok_iff, Context.now_eq_ok_iff,
    exists_const]
  constructor
  · rintro ⟨⟨⟩, hpass, hreach, now, ⟨hnow, rfl⟩, c', hc, h⟩
    split at h
    · next row' t happ =>
      rw [pure_eq_ok_iff, Prod.mk.injEq] at h
      obtain ⟨rfl, rfl⟩ := h
      exact ⟨hpass, hreach, hnow, c', t, hc, happ, rfl⟩
    · exact absurd h throw_ne_ok
  · rintro ⟨hpass, hreach, hnow, c', t, hc, happ, rfl⟩
    exact ⟨(), hpass, hreach, _, ⟨hnow, rfl⟩, c', hc, by rw [happ]; rfl⟩

lemma Store.addRequest_eq_ok_iff {r : Except Failure CertificateRequest}
    {row : Row CertificateRequest} {s' : Store} :
    s.addRequest ctx r = .ok (row, s') ↔
      ctx.pass .requestSave = .ok () ∧ ctx.settings.debug.isSome ∧
      inRange ctx.clock.instant ∧ ∃ r' t, r = .ok r' ∧
        s.requests.append? ctx.clock.instant r' = some (row, t) ∧
        s' = { s with requests := t } := by
  simp only [Store.addRequest, bind_eq_ok_iff, Context.reach_eq_ok_iff, Context.now_eq_ok_iff,
    exists_const]
  constructor
  · rintro ⟨⟨⟩, hpass, hreach, now, ⟨hnow, rfl⟩, r', hr, h⟩
    split at h
    · next row' t happ =>
      rw [pure_eq_ok_iff, Prod.mk.injEq] at h
      obtain ⟨rfl, rfl⟩ := h
      exact ⟨hpass, hreach, hnow, r', t, hr, happ, rfl⟩
    · exact absurd h throw_ne_ok
  · rintro ⟨hpass, hreach, hnow, r', t, hr, happ, rfl⟩
    exact ⟨(), hpass, hreach, _, ⟨hnow, rfl⟩, r', hr, by rw [happ]; rfl⟩

lemma Store.saveCertificate_eq_ok_iff {row row' : Row Certificate} {c : Certificate} {s' : Store} :
    s.saveCertificate ctx row c = .ok (row', s') ↔
      ctx.pass .certificateSave = .ok () ∧ inRange ctx.clock.instant ∧
      row' = row.change ctx.clock.instant c ∧
      s' = { s with certificates := s.certificates.change row ctx.clock.instant c } := by
  simp only [Store.saveCertificate, bind_eq_ok_iff, Context.now_eq_ok_iff, pure_eq_ok_iff,
    Prod.mk.injEq, Table.change]
  constructor
  · rintro ⟨⟨⟩, hpass, now, ⟨hnow, rfl⟩, rfl, rfl⟩
    exact ⟨hpass, hnow, rfl, rfl⟩
  · rintro ⟨hpass, hnow, rfl, rfl⟩
    exact ⟨(), hpass, _, ⟨hnow, rfl⟩, rfl, rfl⟩

lemma Store.saveRequest_eq_ok_iff {row row' : Row CertificateRequest}
    {r : Except Failure CertificateRequest} {s' : Store} :
    s.saveRequest ctx row r = .ok (row', s') ↔
      ctx.pass .requestSave = .ok () ∧ inRange ctx.clock.instant ∧ ∃ r', r = .ok r' ∧
      row' = row.change ctx.clock.instant r' ∧
      s' = { s with requests := s.requests.change row ctx.clock.instant r' } := by
  simp only [Store.saveRequest, bind_eq_ok_iff, Context.now_eq_ok_iff, pure_eq_ok_iff,
    Prod.mk.injEq, Table.change]
  constructor
  · rintro ⟨⟨⟩, hpass, now, ⟨hnow, rfl⟩, r', hr, rfl, rfl⟩
    exact ⟨hpass, hnow, r', hr, rfl, rfl⟩
  · rintro ⟨hpass, hnow, r', hr, rfl, rfl⟩
    exact ⟨(), hpass, _, ⟨hnow, rfl⟩, r', hr, rfl, rfl⟩

namespace Store

/-! ### Operations on certificates -/

lemma recordCertificate_eq_ok_iff {c : Except Failure Certificate} {d : Done (Row Certificate)} :
    s.recordCertificate ctx c = .ok d ↔
      ctx.pass .certificateSave = .ok () ∧ ctx.settings.debug.isSome ∧
      inRange ctx.clock.instant ∧ ∃ c' row t, c = .ok c' ∧
        s.certificates.append? ctx.clock.instant c' = some (row, t) ∧
        d = {
          value := row, store := { s with certificates := t }
          log := [.registry (recordedText (.ofInt row.id) row.data.name
            (.ofNat row.data.ownerId))] } := by
  simp only [recordCertificate, bind_eq_ok_iff, Prod.exists, addCertificate_eq_ok_iff,
    pure_eq_ok_iff]
  constructor
  · rintro ⟨row, s', ⟨hpass, hreach, hnow, c', t, hc, happ, rfl⟩, rfl⟩
    exact ⟨hpass, hreach, hnow, c', row, t, hc, happ, rfl⟩
  · rintro ⟨hpass, hreach, hnow, c', row, t, hc, happ, rfl⟩
    exact ⟨row, _, ⟨hpass, hreach, hnow, c', t, hc, happ, rfl⟩, rfl⟩

lemma updateCertificate_eq_ok_iff {k : Key} {name : Text} {expires : Moment}
    {d : Done (Row Certificate)} :
    s.updateCertificate ctx k name expires = .ok d ↔
      ctx.reachFor minColumn k = .ok () ∧ ∃ row, s.certificates.get? k = some row ∧
        ctx.pass .certificateSave = .ok () ∧ inRange ctx.clock.instant ∧
        let c := { row.data with name, expires := expires.instant }
        d = {
          value := row.change ctx.clock.instant c
          store := { s with certificates := s.certificates.change row ctx.clock.instant c }
          log := [.registry (updatedText k name expires.logText)] } := by
  simp only [updateCertificate, bind_eq_ok_iff, certificate_eq_ok_iff, Prod.exists,
    saveCertificate_eq_ok_iff, pure_eq_ok_iff]
  constructor
  · rintro ⟨⟨⟩, hreach, row, hrow, row', s', ⟨hpass, hnow, rfl, rfl⟩, rfl⟩
    exact ⟨hreach, row, hrow, hpass, hnow, rfl⟩
  · rintro ⟨hreach, row, hrow, hpass, hnow, rfl⟩
    exact ⟨(), hreach, row, hrow, _, _, ⟨hpass, hnow, rfl, rfl⟩, rfl⟩

lemma revokeCertificate_eq_ok_iff {k : Key} {d : Done (Row Certificate)} :
    s.revokeCertificate ctx k = .ok d ↔
      ctx.reachFor minColumn k = .ok () ∧ ∃ row, s.certificates.get? k = some row ∧
        ctx.pass .certificateSave = .ok () ∧ inRange ctx.clock.instant ∧
        d = {
          value := row.change ctx.clock.instant row.data.revoke
          store := { s with
            certificates := s.certificates.change row ctx.clock.instant row.data.revoke }
          log := [.registry ("Revoked certificate " ++ k.shown)] } := by
  simp only [revokeCertificate, bind_eq_ok_iff, certificate_eq_ok_iff, Prod.exists,
    saveCertificate_eq_ok_iff, pure_eq_ok_iff]
  constructor
  · rintro ⟨⟨⟩, hreach, row, hrow, row', s', ⟨hpass, hnow, rfl, rfl⟩, rfl⟩
    exact ⟨hreach, row, hrow, hpass, hnow, rfl⟩
  · rintro ⟨hreach, row, hrow, hpass, hnow, rfl⟩
    exact ⟨(), hreach, row, hrow, _, _, ⟨hpass, hnow, rfl, rfl⟩, rfl⟩

lemma deleteCertificate_eq_ok_iff {k : Key} {d : Done Unit} :
    s.deleteCertificate ctx k = .ok d ↔
      ctx.pass .rowDelete = .ok () ∧ ctx.settings.debug.isSome ∧
        ((∃ row, s.certificates.get? k = some row ∧
          d = {
            value := (), store := { s with certificates := s.certificates.erase row.id }
            log := [.registry ("Deleted certificate " ++ k.shown)] }) ∨
        (s.certificates.get? k = none ∧
          d = {
            value := (), store := s
            log := [⟨.warning, .registry,
              "Delete requested for missing certificate " ++ k.shown⟩] })) := by
  simp only [deleteCertificate, bind_eq_ok_iff, Context.reach_eq_ok_iff, exists_const]
  constructor
  · rintro ⟨⟨⟩, hpass, hreach, h⟩
    refine ⟨hpass, hreach, ?_⟩
    split at h
    · next row hrow => exact Or.inl ⟨row, hrow, pure_eq_ok_iff.1 h⟩
    · next hnone => exact Or.inr ⟨hnone, pure_eq_ok_iff.1 h⟩
  · rintro ⟨hpass, hreach, ⟨row, hrow, rfl⟩ | ⟨hnone, rfl⟩⟩
    · exact ⟨(), hpass, hreach, by rw [hrow]; rfl⟩
    · exact ⟨(), hpass, hreach, by rw [hnone]; rfl⟩

lemma refresh_eq_ok_iff {reference : Option Moment} {dryRun : Bool} {d : Done RefreshCounts} :
    s.refresh ctx reference dryRun = .ok d ↔ ∃ span threshold,
      spanOfDays ctx.settings.expiringDays = .ok span ∧
      (reference.getD ctx.clock).after span = .ok threshold ∧ ctx.settings.debug.isSome ∧
      inRange (reference.getD ctx.clock).instant ∧ inRange threshold.instant ∧
      let now := (reference.getD ctx.clock).instant
      let marked := Refresh.run now threshold.instant s.certificates
      d = if dryRun then
        { value := Refresh.preview now threshold.instant s.certificates, store := s }
      else
        { value := marked.1, store := { s with certificates := marked.2 }
          log := [.registry ("Refreshed certificate statuses: " ++ marked.1.text)] } := by
  simp only [refresh, bind_eq_ok_iff]
  constructor
  · rintro ⟨span, hspan, threshold, hafter, h⟩
    refine ⟨span, threshold, hspan, hafter, ?_⟩
    cases dryRun with
    | true =>
      simp only [if_true, bind_eq_ok_iff, Moment.stored_eq_ok_iff, Context.reach_eq_ok_iff,
        exists_const, pure_eq_ok_iff] at h ⊢
      obtain ⟨now, ⟨hnow, rfl⟩, hreach, thr, ⟨hthr, rfl⟩, rfl⟩ := h
      exact ⟨hreach, hnow, hthr, rfl⟩
    | false =>
      simp only [Bool.false_eq_true, if_false, bind_eq_ok_iff, Moment.stored_eq_ok_iff,
        Context.reach_eq_ok_iff, exists_const, pure_eq_ok_iff] at h ⊢
      obtain ⟨hreach, now, ⟨hnow, rfl⟩, thr, ⟨hthr, rfl⟩, rfl⟩ := h
      exact ⟨hreach, hnow, hthr, rfl⟩
  · rintro ⟨span, threshold, hspan, hafter, hreach, hnow, hthr, rfl⟩
    refine ⟨span, hspan, threshold, hafter, ?_⟩
    cases dryRun with
    | true =>
      simp only [if_true, bind_eq_ok_iff, Moment.stored_eq_ok_iff, Context.reach_eq_ok_iff,
        exists_const, pure_eq_ok_iff]
      exact ⟨_, ⟨hnow, rfl⟩, hreach, _, ⟨hthr, rfl⟩, rfl⟩
    | false =>
      simp only [Bool.false_eq_true, if_false, bind_eq_ok_iff, Moment.stored_eq_ok_iff,
        Context.reach_eq_ok_iff, exists_const, pure_eq_ok_iff]
      exact ⟨hreach, _, ⟨hnow, rfl⟩, _, ⟨hthr, rfl⟩, rfl⟩

/-! ### Operations on requests -/

lemma userColumn_eq_ok_iff {column : Text} {id : Int} {n : Nat} :
    userColumn column id = .ok n ↔ id = n ∧ n ≤ maxColumn := by
  unfold userColumn
  simp only [Integer.fits, Bool.and_eq_true, decide_eq_true_eq, maxColumn]
  split_ifs with hfits hsign
  · rw [Except.ok.injEq]
    omega
  · simp only [false_iff]
    omega
  · simp only [false_iff]
    omega

lemma newRequest_eq_ok_iff {userName : Text} {userId : Option Int} {kind : CertificateKind}
    {reason : Text} {r : CertificateRequest} :
    newRequest userName userId kind reason = .ok r ↔
      ∃ id : Nat, userId = some (id : Int) ∧ id ≤ maxColumn ∧
        r = { userName, userId := id, kind, status := .pending, reason } := by
  cases userId with
  | none => simp [newRequest]
  | some id =>
    simp only [newRequest, bind_eq_ok_iff, userColumn_eq_ok_iff, pure_eq_ok_iff, Option.some.injEq,
      and_assoc]

lemma createRequest_eq_ok_iff {r : Except Failure CertificateRequest}
    {d : Done (Row CertificateRequest)} :
    s.createRequest ctx r = .ok d ↔
      ctx.pass .requestSave = .ok () ∧ ctx.settings.debug.isSome ∧
      inRange ctx.clock.instant ∧ ∃ r' row t, r = .ok r' ∧
        s.requests.append? ctx.clock.instant r' = some (row, t) ∧
        d = {
          value := row, store := { s with requests := t }
          log := [.registry (requestedText (.ofInt row.id) row.data.userName)] } := by
  simp only [createRequest, bind_eq_ok_iff, Prod.exists, addRequest_eq_ok_iff, pure_eq_ok_iff]
  constructor
  · rintro ⟨row, s', ⟨hpass, hreach, hnow, r', t, hr, happ, rfl⟩, rfl⟩
    exact ⟨hpass, hreach, hnow, r', row, t, hr, happ, rfl⟩
  · rintro ⟨hpass, hreach, hnow, r', row, t, hr, happ, rfl⟩
    exact ⟨row, _, ⟨hpass, hreach, hnow, r', t, hr, happ, rfl⟩, rfl⟩

lemma checkTenant_eq_ok_iff {tenant : Key} {u : Unit} :
    s.checkTenant tenant = .ok u ↔
      s.holdsActive tenant = false ∧ s.pendingRequest? tenant = none := by
  unfold checkTenant
  split_ifs with hactive hpending
  · simp [hactive]
  · simp [hactive, Option.isSome_iff_ne_none.1 hpending]
  · simp [hactive, Option.not_isSome_iff_eq_none.1 hpending]

lemma submitRequest_eq_ok_iff {tenant : Caller} {kind : Text}
    {r : Except Failure CertificateRequest} {d : Done (Row CertificateRequest)} :
    s.submitRequest ctx tenant kind r = .ok d ↔
      s.holdsActive (.ofCaller tenant) = false ∧ s.pendingRequest? (.ofCaller tenant) = none ∧
      ctx.pass .requestSave = .ok () ∧ ctx.settings.debug.isSome ∧
      inRange ctx.clock.instant ∧ ∃ r' row t, r = .ok r' ∧
        s.requests.append? ctx.clock.instant r' = some (row, t) ∧
        d = {
          value := row, store := { s with requests := t }
          log := [.registry (submittedText tenant row.id kind)] } := by
  simp only [submitRequest, bind_eq_ok_iff, Prod.exists, Context.reach_eq_ok_iff, exists_const,
    checkTenant_eq_ok_iff, addRequest_eq_ok_iff, pure_eq_ok_iff]
  constructor
  · rintro ⟨-, ⟨hactive, hnone⟩, row, s', ⟨hpass, hreach, hnow, r', t, hr, happ, rfl⟩, rfl⟩
    exact ⟨hactive, hnone, hpass, hreach, hnow, r', row, t, hr, happ, rfl⟩
  · rintro ⟨hactive, hnone, hpass, hreach, hnow, r', row, t, hr, happ, rfl⟩
    exact ⟨hreach, ⟨hactive, hnone⟩, row, _, ⟨hpass, hreach, hnow, r', t, hr, happ, rfl⟩, rfl⟩

lemma undecided_eq_ok_iff {k : Key} {row : Row CertificateRequest} :
    s.undecided k = .ok row ↔ s.requests.get? k = some row ∧ row.data.isPending := by
  simp only [undecided, bind_eq_ok_iff, request_eq_ok_iff]
  constructor
  · rintro ⟨row', hrow, h⟩
    split_ifs at h with hpending
    · obtain rfl := pure_eq_ok_iff.1 h
      exact ⟨hrow, hpending⟩
  · rintro ⟨hrow, hpending⟩
    exact ⟨row, hrow, by rw [if_pos hpending]; rfl⟩

/-- What the log says about a request that was approved. -/
def approvedText (k : Key) (admin : Text) (cert : Row Certificate) : Text :=
  "Request " ++ k.shown ++ " approved by " ++ admin ++ ", issued certificate "
    ++ Text.ofInt cert.id ++ " (" ++ cert.data.name ++ ")"

/-- What the log says about a request that was rejected. -/
def rejectedText (k : Key) (admin : Text) (reason : Option Text) : Text :=
  "Request " ++ k.shown ++ " rejected by " ++ admin ++ ": " ++ reason.getD Json.null.shown

lemma approveRequest_eq_ok_iff {admin : Text} {k : Key} {d : Done (Row Certificate)} :
    s.approveRequest ctx admin k = .ok d ↔
      ctx.settings.debug.isSome ∧ ∃ row span expires cert t,
        s.requests.get? k = some row ∧ row.data.isPending ∧
        spanOfDays ctx.settings.validityDays = .ok span ∧ ctx.clock.after span = .ok expires ∧
        ctx.pass .certificateSave = .ok () ∧ ctx.pass .requestSave = .ok () ∧
        inRange ctx.clock.instant ∧ inRange expires.instant ∧
        s.certificates.append? ctx.clock.instant
          (row.data.certificate ctx.clock.instant expires.instant) = some (cert, t) ∧
        d = {
          value := cert
          store := ⟨t, s.requests.change row ctx.clock.instant
            (row.data.approve admin ctx.clock.instant)⟩
          log := [.registry (approvedText k admin cert)] } := by
  simp only [approveRequest, bind_eq_ok_iff, Prod.exists, Context.reach_eq_ok_iff, exists_const,
    undecided_eq_ok_iff, addCertificate_eq_ok_iff, saveRequest_eq_ok_iff, Context.now_eq_ok_iff,
    Moment.stored_eq_ok_iff, pure_eq_ok_iff]
  constructor
  · rintro ⟨hreach, row, ⟨hrow, hpending⟩, span, hspan, expires, hafter, cert, s',
      ⟨hpass, -, hnow, c, t, ⟨_, ⟨-, rfl⟩, _, ⟨hexp, rfl⟩, rfl⟩, happ, rfl⟩, row', s'',
      ⟨hpass', -, r, ⟨_, ⟨-, rfl⟩, rfl⟩, rfl, rfl⟩, rfl⟩
    exact ⟨hreach, row, span, expires, cert, t, hrow, hpending, hspan, hafter, hpass, hpass',
      hnow, hexp, happ, rfl⟩
  · rintro ⟨hreach, row, span, expires, cert, t, hrow, hpending, hspan, hafter, hpass, hpass',
      hnow, hexp, happ, rfl⟩
    exact ⟨hreach, row, ⟨hrow, hpending⟩, span, hspan, expires, hafter, cert, _,
      ⟨hpass, hreach, hnow, _, t, ⟨_, ⟨hnow, rfl⟩, _, ⟨hexp, rfl⟩, rfl⟩, happ, rfl⟩, _, _,
      ⟨hpass', hnow, _, ⟨_, ⟨hnow, rfl⟩, rfl⟩, rfl, rfl⟩, rfl⟩

lemma rejectRequest_eq_ok_iff {admin : Text} {k : Key} {reason : Option Text}
    {d : Done (Row CertificateRequest)} :
    s.rejectRequest ctx admin k reason = .ok d ↔
      ctx.settings.debug.isSome ∧ ∃ row reason',
        s.requests.get? k = some row ∧ row.data.isPending ∧
        ctx.pass .requestSave = .ok () ∧ inRange ctx.clock.instant ∧
        reason.mapM storedText = .ok reason' ∧
        let r := row.data.reject admin ctx.clock.instant reason'
        d = {
          value := row.change ctx.clock.instant r
          store := { s with requests := s.requests.change row ctx.clock.instant r }
          log := [.registry (rejectedText k admin reason)] } := by
  simp only [rejectRequest, bind_eq_ok_iff, Prod.exists, Context.reach_eq_ok_iff, exists_const,
    undecided_eq_ok_iff, saveRequest_eq_ok_iff, Context.now_eq_ok_iff, pure_eq_ok_iff]
  constructor
  · rintro ⟨hreach, row, ⟨hrow, hpending⟩, row', s', ⟨hpass, hnow, r, ⟨_, ⟨-, rfl⟩, reason',
      hreason, rfl⟩, rfl, rfl⟩, rfl⟩
    exact ⟨hreach, row, reason', hrow, hpending, hpass, hnow, hreason, rfl⟩
  · rintro ⟨hreach, row, reason', hrow, hpending, hpass, hnow, hreason, rfl⟩
    exact ⟨hreach, row, ⟨hrow, hpending⟩, _, _, ⟨hpass, hnow, _, ⟨_, ⟨hnow, rfl⟩, reason',
      hreason, rfl⟩, rfl, rfl⟩, rfl⟩

end Store

end CertRegistry
