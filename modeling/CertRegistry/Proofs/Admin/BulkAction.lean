import CertRegistry.Proofs.Admin.Selection
import CertRegistry.Proofs.Store.Transaction
import CertRegistry.Proofs.Time.Span

/-!
# Bulk actions as repeated operations

A bulk action goes through rows as they were selected, while every operation looks its row up anew.
Neither a row that is passed over nor a failure that ends the action makes a difference to the
store: it is the one that the single operations leave, one after the other. Where nothing but the
rules of the registry stands in the way, the action passes over the rows that need no change,
changes all the others, and tells how many they were.
-/

namespace CertRegistry

/-! ### Failures by a rule -/

namespace Store

variable {ctx : Context} {s : Store} {admin : Text} {k k' : Key}

lemma undecided_failsWith (k : Key) : FailsWith (·.isRule) (s.undecided k) := by
  refine FailsWith.bind ?_ fun row => ?_
  · unfold request
    split
    · exact .ok _
    · exact .error rfl
  · split_ifs
    · exact .ok _
    · exact .error rfl

lemma undecided_of_decided {row : Row CertificateRequest}
    (hrow : s.requests.get? k = some row) (hpending : row.data.isPending = false) :
    s.undecided k = .error (.alreadyDecided row.data.status.toText) := by
  simp only [undecided, request_eq_ok_iff.2 hrow, bind, Except.bind, hpending]
  rfl

/-- Where one request can be approved, only a rule keeps another one from it. -/
lemma approveRequest_failsWith {d : Done (Row Certificate)}
    (h : s.approveRequest ctx admin k' = .ok d) (k : Key) :
    FailsWith (·.isRule) (s.approveRequest ctx admin k) := by
  obtain ⟨hreach, _, span, expires, _, _, -, -, hspan, hafter, hcert, hreq, hnow, hexp, happ, -⟩ :=
    approveRequest_eq_ok_iff.1 h
  have hroom := (Table.append?_eq_some_iff.1 happ).1
  intro f hf
  cases hrow : s.undecided k with
  | error g =>
    simp only [approveRequest, Context.reach_of_isSome hreach, hrow] at hf
    exact Except.error.inj hf ▸ undecided_failsWith k g hrow
  | ok row =>
    obtain ⟨hrow, hpending⟩ := undecided_eq_ok_iff.1 hrow
    obtain ⟨cert, t, happ⟩ := Table.exists_append? hroom ctx.clock.instant
      (row.data.certificate ctx.clock.instant expires.instant)
    rw [approveRequest_eq_ok_iff.2 ⟨hreach, row, span, expires, cert, t, hrow, hpending, hspan,
      hafter, hcert, hreq, hnow, hexp, happ, rfl⟩] at hf
    cases hf

/-- Where one request can be rejected, only a rule keeps another one from it. -/
lemma rejectRequest_failsWith {reason : Option Text} {d : Done (Row CertificateRequest)}
    (h : s.rejectRequest ctx admin k' reason = .ok d) (k : Key) :
    FailsWith (·.isRule) (s.rejectRequest ctx admin k reason) := by
  obtain ⟨hreach, _, reason', -, -, hreq, hnow, hreason, -⟩ := rejectRequest_eq_ok_iff.1 h
  intro f hf
  cases hrow : s.undecided k with
  | error g =>
    simp only [rejectRequest, Context.reach_of_isSome hreach, hrow] at hf
    exact Except.error.inj hf ▸ undecided_failsWith k g hrow
  | ok row =>
    obtain ⟨hrow, hpending⟩ := undecided_eq_ok_iff.1 hrow
    rw [rejectRequest_eq_ok_iff.2 ⟨hreach, row, reason', hrow, hpending, hreq, hnow, hreason,
      rfl⟩] at hf
    cases hf

/-- Where one certificate can be revoked, only a rule keeps another one from it. -/
lemma revokeCertificate_failsWith (hdebug : ctx.settings.debug.isSome) {d : Done (Row Certificate)}
    (h : s.revokeCertificate ctx k' = .ok d) (k : Key) :
    FailsWith (·.isRule) (s.revokeCertificate ctx k) := by
  obtain ⟨-, -, -, hpass, hnow, -⟩ := revokeCertificate_eq_ok_iff.1 h
  have hreach := Context.reachFor_of_isSome hdebug minColumn k
  intro f hf
  cases hrow : s.certificates.get? k with
  | none =>
    simp only [revokeCertificate, certificate, hreach, hrow] at hf
    exact Except.error.inj hf ▸ rfl
  | some row =>
    rw [revokeCertificate_eq_ok_iff.2 ⟨hreach, row, hrow, hpass, hnow, rfl⟩] at hf
    cases hf

end Store

namespace BulkAction

variable {ctx : Context} {s : Store} {admin : Text} {ids : List Int}

/-! ### The store after an action -/

section Loop

variable {α β : Type} {title : α → Text} {act : Row α → Store → Except Failure (Done β)}

lemma foldl_after_of_ne_ok {rows : List (Row α)} (h : ∀ row ∈ rows, ∀ d, act row s ≠ .ok d) :
    rows.foldl (fun s row => s.after (act row s)) s = s := by
  induction rows with
  | nil => rfl
  | cons row rows ih =>
    have hrow : s.after (act row s) = s := by
      cases hact : act row s with
      | ok d => exact absurd hact (h row List.mem_cons_self d)
      | error f => rfl
    rw [List.foldl_cons, hrow]
    exact ih fun row' hrow' => h row' (List.mem_cons_of_mem _ hrow')

/-- The rows that an action does not come to would not have changed the store either: what ends it
is no rule, and so it strikes every row. -/
lemma store_processAll
    (hrule : ∀ s row d, act row s = .ok d → ∀ row', FailsWith (·.isRule) (act row' s)) :
    ∀ (rows : List (Row α)) (p : Progress), (processAll title act rows p).store =
      rows.foldl (fun s row => s.after (act row s)) p.store
  | [], _ => rfl
  | row :: rows, p => by
    rw [processAll, List.foldl_cons]
    split
    · next d hd => rw [hd, store_processAll hrule rows, Store.after]
    · next f hf =>
      rw [hf, Store.after]
      split_ifs with hf'
      · exact store_processAll hrule rows _
      · refine (foldl_after_of_ne_ok fun row' _ d hd => ?_).symm
        exact hf' (hrule _ row' d hd row f hf)

end Loop

/-- The ids of the rows that an action goes through. -/
def targets (ids : List Int) (s : Store) : BulkAction → List Int
  | revoke => ((selected s.certificates ids).filter fun r => r.data.status ≠ .revoked).map Row.id
  | approve | reject => (selected s.requests ids).map Row.id

/-- What the operation of an action leaves of a store, when it is made for one row alone. -/
def single (ctx : Context) (admin : Text) (s : Store) (id : Int) : BulkAction → Store
  | revoke => s.after (s.revokeCertificate ctx (.ofInt id))
  | approve => s.after (s.approveRequest ctx admin (.ofInt id))
  | reject => s.after (s.rejectRequest ctx admin (.ofInt id) (some rejectionReason))

lemma mem_of_mem_targets {a : BulkAction} {id : Int} (h : id ∈ a.targets ids s) : id ∈ ids := by
  cases a with
  | revoke =>
    obtain ⟨row, hrow, rfl⟩ := List.mem_map.1 h
    exact mem_of_mem_selected (List.mem_filter.1 hrow).1
  | approve | reject =>
    obtain ⟨row, hrow, rfl⟩ := List.mem_map.1 h
    exact mem_of_mem_selected hrow

lemma pairwise_targets (a : BulkAction) (ids : List Int) (s : Store) :
    (a.targets ids s).Pairwise (· < ·) := by
  cases a with
  | revoke => exact List.pairwise_map.2 ((s.certificates.sorted.filter _).filter _)
  | approve | reject => exact List.pairwise_map.2 (s.requests.sorted.filter _)

/-- Where there is nothing to select, there is nothing to do. -/
lemma applyTo_nil (a : BulkAction) : a.applyTo ctx admin [] s = { store := s } := by
  cases a <;> simp [applyTo, selected_nil, revokeAll, processAll]

lemma store_applyTo (hdebug : ctx.settings.debug.isSome) (a : BulkAction) (s : Store) :
    (a.applyTo ctx admin ids s).store =
      (a.targets ids s).foldl (fun s id => a.single ctx admin s id) s := by
  cases a with
  | revoke =>
    rw [applyTo_revoke Certificate.title]
    simp only [targets, single, List.foldl_map]
    refine store_processAll ?_ _ _
    exact fun s row d hd row' => Store.revokeCertificate_failsWith hdebug hd _
  | approve =>
    simp only [applyTo, targets, single, List.foldl_map]
    refine store_processAll ?_ _ _
    exact fun s row d hd row' => Store.approveRequest_failsWith hd _
  | reject =>
    simp only [applyTo, targets, single, List.foldl_map]
    refine store_processAll ?_ _ _
    exact fun s row d hd row' => Store.rejectRequest_failsWith hd _

/-- Where nothing says whether to debug, no operation on a row gets to the storage. -/
lemma single_of_not_debug (hdebug : ¬ ctx.settings.debug.isSome) {id : Int} (hid : Integer.fits id)
    (a : BulkAction) (s : Store) : a.single ctx admin s id = s := by
  have hreach : ctx.reach = .error .unsettled := if_neg hdebug
  cases a with
  | revoke =>
    have hfits : ∀ n ∈ (Key.ofInt id).id?, minColumn ≤ n ∧ n ≤ maxColumn := by
      intro n hn
      obtain rfl := Option.some.inj hn
      simpa [Integer.fits, minColumn, maxColumn] using hid
    have hreachFor : ctx.reachFor minColumn (.ofInt id) = .error .unsettled :=
      (if_pos hfits).trans hreach
    simp only [single, Store.revokeCertificate, hreachFor]
    rfl
  | approve =>
    simp only [single, Store.approveRequest, hreach]
    rfl
  | reject =>
    simp only [single, Store.rejectRequest, hreach]
    rfl

/-- An action on ids that a column can hold is its operation for one row after the other, whatever
becomes of each of them. -/
theorem store_progress (hfits : ∀ id ∈ ids, Integer.fits id) (a : BulkAction) (s : Store) :
    (a.progress ctx admin ids s).store =
      (a.targets ids s).foldl (fun s id => a.single ctx admin s id) s := by
  unfold progress
  by_cases hdebug : ctx.settings.debug.isSome
  · have hselected : checkSelection ctx ids = .ok () :=
      checkSelection_eq_ok_iff.2 fun _ => ⟨hdebug, hfits⟩
    rw [hselected]
    exact store_applyTo hdebug a s
  · have hstay : (a.targets ids s).foldl (fun s id => a.single ctx admin s id) s = s := by
      have hid : ∀ id ∈ a.targets ids s, Integer.fits id :=
        fun id h => hfits id (mem_of_mem_targets h)
      generalize a.targets ids s = rest at hid ⊢
      induction rest with
      | nil => rfl
      | cons id rest ih =>
        rw [List.foldl_cons, single_of_not_debug hdebug (hid id List.mem_cons_self)]
        exact ih fun id' hid' => hid id' (List.mem_cons_of_mem _ hid')
    rw [hstay]
    split
    · next h =>
      by_cases hids : ids = []
      · rw [hids, applyTo_nil]
      · exact absurd (checkSelection_eq_ok_iff.1 h hids).1 hdebug
    · rfl

/-- An action on ids of which a column cannot hold all does nothing. -/
lemma store_progress_of_not_fits (hfits : ¬ ∀ id ∈ ids, Integer.fits id) (a : BulkAction)
    (s : Store) : (a.progress ctx admin ids s).store = s := by
  unfold progress
  split
  · next h =>
    refine absurd (fun id hid => ?_) hfits
    exact (checkSelection_eq_ok_iff.1 h (List.ne_nil_of_mem hid)).2 id hid
  · rfl

end BulkAction

/-! ### Rows that are changed -/

/-- Changes rows, one after the other, to what each of them comes to. -/
def Table.changeAll {α : Type} (t : Table α) (rows : List (Row α)) (now : Instant) (f : α → α) :
    Table α :=
  rows.foldl (fun t row => t.change row now (f row.data)) t

lemma Table.lastId_changeAll {α : Type} (now : Instant) (f : α → α) (rows : List (Row α))
    (t : Table α) : (t.changeAll rows now f).lastId = t.lastId := by
  induction rows generalizing t with
  | nil => rfl
  | cons row rows ih => exact ih (t.change row now (f row.data))

lemma Table.rows_changeAll {α : Type} [DecidableEq α] (now : Instant) (f : α → α) :
    ∀ {rows : List (Row α)} {t : Table α}, t.Fresh rows → (t.changeAll rows now f).rows =
      t.rows.map fun r => if r ∈ rows then r.change now (f r.data) else r
  | [], t, _ => by simp [changeAll]
  | row :: rows, t, h => by
    have hrow := h.stored row List.mem_cons_self
    show ((t.change row now (f row.data)).changeAll rows now f).rows = _
    rw [rows_changeAll now f h.change, rows_change, List.map_map]
    refine List.map_congr_left fun r hr => ?_
    by_cases hid : r.id = row.id
    · obtain rfl := eq_of_id_eq hr hrow hid
      have hnot : r.change now (f r.data) ∉ rows := fun hmem => h.id_ne hmem rfl
      simp [hnot]
    · have hne : r ≠ row := fun heq => hid (congrArg Row.id heq)
      simp [hid, hne]

/-! ### An action that nothing hinders -/

namespace BulkAction

variable {ctx : Context} {s : Store} {admin : Text} {ids : List Int}

section Loop

variable {α β : Type} {title : α → Text} {act : Row α → Store → Except Failure (Done β)}

/-- An action on rows of which some are to do, and the others are refused by a rule. -/
lemma processAll_eq (title : α → Text) (refusal : Row α → Failure) {todo : Row α → Bool}
    {I : List (Row α) → Store → Prop}
    (hdo : ∀ row rows s, I (row :: rows) s → todo row → ∃ d, act row s = .ok d ∧ I rows d.store)
    (hskip : ∀ row rows s, I (row :: rows) s → todo row = false →
      act row s = .error (refusal row) ∧ I rows s)
    (hrule : ∀ row, (refusal row).isRule) :
    ∀ (rows : List (Row α)) (p : Progress), I rows p.store →
      let q := processAll title act rows p
      I [] q.store ∧ q.failure? = p.failure? ∧ q.changed = p.changed + rows.countP todo ∧
        q.notices = p.notices ++ (rows.filter fun row => !todo row).map fun row =>
          ⟨true, title row.data ++ ": " ++ (refusal row).message⟩
  | [], p, hp => by simpa [processAll] using hp
  | row :: rows, p, hp => by
    by_cases htodo : todo row
    · obtain ⟨d, hd, hI⟩ := hdo row rows p.store hp htodo
      have hrest := processAll_eq title refusal hdo hskip hrule rows
        { p with store := d.store, log := p.log ++ d.log, changed := p.changed + 1 } hI
      obtain ⟨hstore, hfailure, hchanged, hnotices⟩ := hrest
      simp only [processAll, hd]
      refine ⟨hstore, hfailure, ?_, ?_⟩
      · rw [hchanged, List.countP_cons_of_pos htodo]
        exact Nat.add_right_comm _ _ _
      · simp [hnotices, htodo]
    · obtain ⟨hact, hI⟩ := hskip row rows p.store hp (Bool.eq_false_of_not_eq_true htodo)
      have hrest := processAll_eq title refusal hdo hskip hrule rows
        { p with
          notices := p.notices ++ [⟨true, title row.data ++ ": " ++ (refusal row).message⟩] } hI
      obtain ⟨hstore, hfailure, hchanged, hnotices⟩ := hrest
      simp only [processAll, hact, hrule, if_true]
      refine ⟨hstore, hfailure, ?_, ?_⟩
      · rw [hchanged, List.countP_cons_of_neg htodo]
      · rw [hnotices, List.filter_cons_of_pos (by simp [htodo]), List.map_cons, List.append_assoc,
          List.singleton_append]

/-- An action on rows of which none can be done leaves the store alone and only warns. -/
lemma processAll_idle {rows : List (Row α)} {p : Progress}
    (h : ∀ row ∈ rows, ∀ d, act row p.store ≠ .ok d) (hp : ∀ n ∈ p.notices, n.isWarning) :
    let q := processAll title act rows p
    q.store = p.store ∧ q.changed = p.changed ∧ ∀ n ∈ q.notices, n.isWarning := by
  induction rows generalizing p with
  | nil => exact ⟨rfl, rfl, hp⟩
  | cons row rows ih =>
    rw [processAll]
    split
    · next d hd => exact absurd hd (h row List.mem_cons_self d)
    · next f hf =>
      split_ifs
      · refine ih (fun row' hrow' => h row' (List.mem_cons_of_mem _ hrow')) ?_
        intro n hn
        rcases List.mem_append.1 hn with hn | hn
        · exact hp n hn
        · rw [List.mem_singleton.1 hn]
      · exact ⟨rfl, rfl, hp⟩

end Loop

/-- How many of the selected rows an action changes. -/
def due (ids : List Int) (s : Store) : BulkAction → ℕ
  | revoke => (selected s.certificates ids).countP fun r => r.data.status ≠ .revoked
  | approve | reject => (selected s.requests ids).countP fun r => r.data.isPending

/-- The closing notice warns just where nothing was changed. -/
lemma closingNotice_isWarning (a : BulkAction) (n : ℕ) :
    (a.closingNotice n).isWarning = true ↔ n = 0 := by
  cases a <;> simp only [closingNotice, closing] <;> split_ifs with h <;> simp [h]

/-- Nothing keeps an action from going through a selection: the rows can be selected, the storage
does not break down, and where there is something to do, the times that are noted can be stored and
there are ids for the certificates that are issued. -/
structure Unhindered (a : BulkAction) (ctx : Context) (ids : List Int) (s : Store) : Prop where
  debug : ids ≠ [] → ctx.settings.debug.isSome
  fits : ∀ id ∈ ids, Integer.fits id
  fault : ctx.fault = none
  clock : 0 < a.due ids s → inRange ctx.clock.instant
  days : a = approve → 0 < a.due ids s →
    ∃ days, ctx.settings.validityDays = .int days ∧ ctx.clock.Reaches days
  room : a = approve → s.certificates.lastId + a.due ids s ≤ maxColumn

/-- The warnings of an action about the selected rows that it passes over. -/
def warnings (ids : List Int) (s : Store) : BulkAction → List Notice
  | revoke => []
  | approve | reject =>
    ((selected s.requests ids).filter fun r => !r.data.isPending).map fun r =>
      ⟨true, r.data.title ++ ": " ++ (Failure.alreadyDecided r.data.status.toText).message⟩

/-- An action has come to its end: it has changed what there was to change, warned of the rest, and
left nothing to do. -/
structure Completes (a : BulkAction) (ids : List Int) (s : Store) (p : Progress) : Prop where
  failure : p.failure? = none
  changed : p.changed = a.due ids s
  notices : p.notices = a.warnings ids s
  due : a.due ids p.store = 0

/-! ### Requests -/

/-- An action on requests, on its way: those that are still to come are as they were selected, and
whatever of the selection is pending is still to come. -/
structure Underway (ids : List Int) (rows : List (Row CertificateRequest))
    (t : Table CertificateRequest) : Prop where
  fresh : t.Fresh rows
  ahead : ∀ r ∈ t.rows, r.id ∈ ids → r.data.isPending → r ∈ rows

namespace Underway

variable {t : Table CertificateRequest} {row : Row CertificateRequest}
  {rows : List (Row CertificateRequest)} {now : Instant} {r : CertificateRequest}

lemma start : Underway ids (selected t ids) t where
  fresh := fresh_selected t ids
  ahead r hr hid _ := List.mem_filter.2 ⟨hr, by simpa using hid⟩

lemma change (h : Underway ids (row :: rows) t) (hr : r.isPending = false) :
    Underway ids rows (t.change row now r) where
  fresh := h.fresh.change
  ahead r' hr' hid hpending := by
    rcases (Table.mem_rows_change (h.fresh.stored row List.mem_cons_self)).1 hr' with
      ⟨hr', hne⟩ | rfl
    · rcases List.mem_cons.1 (h.ahead r' hr' hid hpending) with rfl | hmem
      · exact absurd rfl hne
      · exact hmem
    · exact absurd (hr.symm.trans hpending) Bool.false_ne_true

lemma skip (h : Underway ids (row :: rows) t) (hrow : row.data.isPending = false) :
    Underway ids rows t where
  fresh := h.fresh.tail
  ahead r' hr' hid hpending := by
    rcases List.mem_cons.1 (h.ahead r' hr' hid hpending) with rfl | hmem
    · exact absurd (hrow.symm.trans hpending) Bool.false_ne_true
    · exact hmem

lemma countP_eq_zero (h : Underway ids [] t) :
    (selected t ids).countP (fun r => r.data.isPending) = 0 := by
  rw [List.countP_eq_zero]
  intro r hr hpending
  obtain ⟨hr, hid⟩ := List.mem_filter.1 hr
  exact absurd (h.ahead r hr (by simpa using hid) hpending) List.not_mem_nil

end Underway

/-- An action on requests comes to its end, if it decides what is pending, as long as there is leave
for as many decisions as are still to come, and refuses whatever has been decided. -/
lemma processAll_completes {a : BulkAction} (ha : a ≠ revoke) {β : Type}
    {act : Row CertificateRequest → Store → Except Failure (Done β)} (leave : ℕ → Store → Prop)
    (hdo : ∀ row t n, t.requests.get? (.ofInt row.id) = some row → row.data.isPending →
      leave (n + 1) t → ∃ d r now, act row t = .ok d ∧ r.isPending = false ∧
        d.store.requests = t.requests.change row now r ∧ leave n d.store)
    (hskip : ∀ row t, t.requests.get? (.ofInt row.id) = some row → row.data.isPending = false →
      act row t = .error (.alreadyDecided row.data.status.toText))
    (hleave : leave (a.due ids s) s) :
    a.Completes ids s
      (processAll CertificateRequest.title act (selected s.requests ids) { store := s }) := by
  let pending (row : Row CertificateRequest) : Bool := row.data.isPending
  let I (rows : List (Row CertificateRequest)) (t : Store) : Prop :=
    Underway ids rows t.requests ∧ leave (rows.countP pending) t
  have hdo' (row rows t) (hI : I (row :: rows) t) (hpending : pending row) :
      ∃ d, act row t = .ok d ∧ I rows d.store := by
    obtain ⟨hway, hleave⟩ := hI
    rw [List.countP_cons_of_pos hpending] at hleave
    obtain ⟨d, r, now, hd, hr, hstore, hleave⟩ := hdo row t _ hway.fresh.get? hpending hleave
    exact ⟨d, hd, hstore ▸ hway.change hr, hleave⟩
  have hskip' (row rows t) (hI : I (row :: rows) t) (hpending : pending row = false) :
      act row t = .error (.alreadyDecided row.data.status.toText) ∧ I rows t := by
    obtain ⟨hway, hleave⟩ := hI
    rw [List.countP_cons_of_neg (by simp [hpending])] at hleave
    exact ⟨hskip row t hway.fresh.get? hpending, hway.skip hpending, hleave⟩
  have hstart : I (selected s.requests ids) s := by
    refine ⟨.start, ?_⟩
    cases a with
    | revoke => exact absurd rfl ha
    | approve | reject => exact hleave
  obtain ⟨⟨hway, -⟩, hfailure, hchanged, hnotices⟩ :=
    processAll_eq CertificateRequest.title _ hdo' hskip' (fun _ => rfl) (selected s.requests ids)
      { store := s } hstart
  cases a with
  | revoke => exact absurd rfl ha
  | approve | reject =>
    exact ⟨hfailure, hchanged.trans (Nat.zero_add _), hnotices, hway.countP_eq_zero⟩

lemma approve_completes (h : Unhindered approve ctx ids s) (hdebug : ctx.settings.debug.isSome) :
    approve.Completes ids s (approve.applyTo ctx admin ids s) := by
  have hpass (site : FaultSite) : ctx.pass site = .ok () := by simp [Context.pass, h.fault]
  let leave (n : ℕ) (t : Store) : Prop :=
    n ≤ approve.due ids s ∧ t.certificates.lastId + n ≤ maxColumn
  have hleave : leave (approve.due ids s) s := ⟨le_rfl, h.room rfl⟩
  refine processAll_completes (a := approve) (by decide) leave
    (fun row t n hrow hpending hn => ?_) (fun row t hrow hpending => ?_) hleave
  · obtain ⟨hdue, hroom⟩ := hn
    obtain ⟨days, hdays, hreaches⟩ := h.days rfl (by omega)
    obtain ⟨span, hspan, hafter, hexp⟩ := Moment.reaches_iff.1 ⟨hreaches, rfl⟩
    have hroom' : t.certificates.lastId < maxColumn := by omega
    obtain ⟨cert, u, happ⟩ := Table.exists_append? hroom' ctx.clock.instant
      (row.data.certificate ctx.clock.instant (ctx.clock.plusDays days).instant)
    rw [← hdays] at hspan
    refine ⟨_, _, _, Store.approveRequest_eq_ok_iff.2 ⟨hdebug, row, span, _, cert, u, hrow,
      hpending, hspan, hafter, hpass _, hpass _, h.clock (by omega), hexp, happ, rfl⟩, rfl, rfl,
      by omega, ?_⟩
    rw [Table.append?_lastId happ]
    omega
  · simp only [Store.approveRequest, Context.reach_of_isSome hdebug,
      Store.undecided_of_decided hrow hpending]
    rfl

lemma reject_completes (h : Unhindered reject ctx ids s) (hdebug : ctx.settings.debug.isSome) :
    reject.Completes ids s (reject.applyTo ctx admin ids s) := by
  have hpass (site : FaultSite) : ctx.pass site = .ok () := by simp [Context.pass, h.fault]
  have hreason : (some rejectionReason).mapM storedText = .ok (some rejectionReason) := rfl
  let leave (n : ℕ) (_ : Store) : Prop := n ≤ reject.due ids s
  have hleave : leave (reject.due ids s) s := le_rfl
  refine processAll_completes (a := reject) (by decide) leave
    (fun row t n hrow hpending hn => ?_) (fun row t hrow hpending => ?_) hleave
  · have hdue : n + 1 ≤ reject.due ids s := hn
    exact ⟨_, _, _, Store.rejectRequest_eq_ok_iff.2 ⟨hdebug, row, _, hrow, hpending, hpass _,
      h.clock (by omega), hreason, rfl⟩, rfl, rfl, Nat.le_of_succ_le hdue⟩
  · simp only [Store.rejectRequest, Context.reach_of_isSome hdebug,
      Store.undecided_of_decided hrow hpending]
    rfl

/-! ### Certificates -/

/-- The certificates after the revocation of a selection: those of the selection that were not
revoked are changed, and all others are as they were. -/
def revokedRows (now : Instant) (ids : List Int) (t : Table Certificate) : List (Row Certificate) :=
  t.rows.map fun r =>
    if r.id ∈ ids ∧ r.data.status ≠ .revoked then r.change now r.data.revoke else r

lemma rows_changeAll_revoke (now : Instant) (ids : List Int) (t : Table Certificate) :
    (t.changeAll (unrevoked t ids) now Certificate.revoke).rows = revokedRows now ids t := by
  rw [Table.rows_changeAll now Certificate.revoke (fresh_unrevoked t ids)]
  refine List.map_congr_left fun r hr => ?_
  simp [unrevoked, selected, hr, and_comm]

lemma countP_revokedRows (now : Instant) (ids : List Int) (t : Table Certificate) :
    ((revokedRows now ids t).filter fun r => ids.contains r.id).countP
      (fun r => r.data.status ≠ .revoked) = 0 := by
  rw [List.countP_eq_zero]
  intro r hr
  obtain ⟨hr, hid⟩ := List.mem_filter.1 hr
  obtain ⟨old, -, rfl⟩ := List.mem_map.1 hr
  by_cases hold : old.id ∈ ids ∧ old.data.status ≠ .revoked
  · rw [if_pos hold]
    simp [Row.change, Certificate.revoke]
  · rw [if_neg hold] at hid ⊢
    simp only [List.contains_iff_mem] at hid
    simpa [hid] using hold

/-- A revocation that nothing hinders changes and logs every certificate that it comes to. -/
lemma revokeAll_eq (hdebug : ctx.settings.debug.isSome)
    (hpass : ctx.pass .certificateSave = .ok ()) :
    ∀ (rows : List (Row Certificate)) (p : Progress), p.store.certificates.Fresh rows →
      (rows ≠ [] → inRange ctx.clock.instant) → revokeAll ctx rows p =
        { p with
          store := { p.store with
            certificates :=
              p.store.certificates.changeAll rows ctx.clock.instant Certificate.revoke }
          log := p.log ++ rows.map fun row =>
            .registry ("Revoked certificate " ++ (Key.ofInt row.id).shown)
          changed := p.changed + rows.length }
  | [], p, _, _ => by simp [revokeAll, Table.changeAll]
  | row :: rows, p, h, hclock => by
    have hnow : inRange ctx.clock.instant := hclock (List.cons_ne_nil row rows)
    have hrow := Store.revokeCertificate_eq_ok_iff.2
      ⟨Context.reachFor_of_isSome hdebug minColumn _, row, h.get?, hpass, hnow, rfl⟩
    simp only [revokeAll, hrow]
    rw [revokeAll_eq hdebug hpass rows _ h.change fun _ => hnow]
    simp [Table.changeAll, Nat.add_assoc, Nat.add_comm 1]

/-- Revokes what is not revoked of a selection. -/
lemma revoke_completes (h : Unhindered revoke ctx ids s) (hdebug : ctx.settings.debug.isSome) :
    let p := revoke.applyTo ctx admin ids s
    revoke.Completes ids s p ∧ p.store.requests = s.requests ∧
      p.store.certificates.lastId = s.certificates.lastId ∧
      p.store.certificates.rows = revokedRows ctx.clock.instant ids s.certificates := by
  intro p
  have hpass : ctx.pass .certificateSave = .ok () := by simp [Context.pass, h.fault]
  have hdue : (unrevoked s.certificates ids).length = revoke.due ids s :=
    List.countP_eq_length_filter.symm
  have hend : p = _ := revokeAll_eq hdebug hpass (unrevoked s.certificates ids) { store := s }
    (fresh_unrevoked s.certificates ids) fun hne => h.clock (hdue ▸ List.length_pos_iff.2 hne)
  have hdone : p.store.certificates.rows = revokedRows ctx.clock.instant ids s.certificates := by
    rw [hend]
    exact rows_changeAll_revoke ctx.clock.instant ids s.certificates
  refine ⟨⟨?_, ?_, ?_, ?_⟩, ?_, ?_, hdone⟩
  · rw [hend]
  · rw [hend, ← hdue]
    exact Nat.zero_add _
  · rw [hend]
    rfl
  · rw [due, selected, hdone]
    exact countP_revokedRows ctx.clock.instant ids s.certificates
  · rw [hend]
  · rw [hend]
    exact Table.lastId_changeAll ctx.clock.instant Certificate.revoke _ s.certificates

/-! ### The end of an action -/

lemma Unhindered.checkSelection {a : BulkAction} (h : Unhindered a ctx ids s) :
    checkSelection ctx ids = .ok () :=
  checkSelection_eq_ok_iff.2 fun hids => ⟨h.debug hids, h.fits⟩

/-- An action that nothing hinders comes to its end. -/
theorem progress_completes (admin : Text) {a : BulkAction} (h : Unhindered a ctx ids s) :
    a.Completes ids s (a.progress ctx admin ids s) := by
  simp only [progress, h.checkSelection]
  by_cases hids : ids = []
  · subst hids
    rw [applyTo_nil]
    cases a <;> exact ⟨rfl, by simp [due, selected_nil], by simp [warnings, selected_nil],
      by simp [due, selected_nil]⟩
  · have hdebug := h.debug hids
    cases a with
    | revoke => exact (revoke_completes h hdebug).1
    | approve => exact approve_completes h hdebug
    | reject => exact reject_completes h hdebug

/-- A revocation that nothing hinders changes nothing but what it has to. -/
theorem rows_progress_revoke (h : Unhindered revoke ctx ids s) :
    let p := revoke.progress ctx admin ids s
    p.store.requests = s.requests ∧ p.store.certificates.lastId = s.certificates.lastId ∧
      p.store.certificates.rows = revokedRows ctx.clock.instant ids s.certificates := by
  simp only [progress, h.checkSelection]
  by_cases hids : ids = []
  · subst hids
    simp [applyTo_nil, revokedRows]
  · exact (revoke_completes h (h.debug hids)).2

/-- A request that was selected can be decided only as long as it is pending. -/
lemma not_pending_of_selected {row r : Row CertificateRequest}
    (hdue : (selected s.requests ids).countP (fun r => r.data.isPending) = 0)
    (hrow : row ∈ selected s.requests ids) (hr : s.requests.get? (.ofInt row.id) = some r) :
    r.data.isPending = false := by
  obtain ⟨hmem, hid⟩ := Table.get?_eq_some_iff.1 hr
  obtain rfl := Table.eq_of_id_eq (List.mem_filter.1 hrow).1 hmem (Option.some.inj hid)
  exact Bool.eq_false_of_not_eq_true (List.countP_eq_zero.1 hdue _ hrow)

lemma applyTo_idle {a : BulkAction} (h : a.due ids s = 0) :
    let p := a.applyTo ctx admin ids s
    p.store = s ∧ p.changed = 0 ∧ ∀ n ∈ p.notices, n.isWarning := by
  have hnone : ∀ n ∈ ({ store := s } : Progress).notices, n.isWarning := by simp
  cases a with
  | revoke =>
    have hrows : (selected s.certificates ids).filter (fun r => r.data.status ≠ .revoked) = [] := by
      rw [← List.length_eq_zero_iff, ← List.countP_eq_length_filter]
      exact h
    rw [applyTo, hrows]
    exact ⟨rfl, rfl, hnone⟩
  | approve =>
    refine processAll_idle (fun row hrow d hd => ?_) hnone
    obtain ⟨-, r, _, _, _, _, hr, hpending, -⟩ := Store.approveRequest_eq_ok_iff.1 hd
    rw [not_pending_of_selected h hrow hr] at hpending
    exact Bool.false_ne_true hpending
  | reject =>
    refine processAll_idle (fun row hrow d hd => ?_) hnone
    obtain ⟨-, r, _, hr, hpending, -⟩ := Store.rejectRequest_eq_ok_iff.1 hd
    rw [not_pending_of_selected h hrow hr] at hpending
    exact Bool.false_ne_true hpending

/-- An action that has nothing to do does nothing, whatever the context is, and tells of no
success. -/
theorem progress_idle (ctx : Context) (admin : Text) {a : BulkAction} (h : a.due ids s = 0) :
    let p := a.progress ctx admin ids s
    p.store = s ∧ ∀ notices, a.notices p = .ok notices → ∀ n ∈ notices, n.isWarning := by
  have hidle : (a.progress ctx admin ids s).store = s ∧ (a.progress ctx admin ids s).changed = 0 ∧
      ∀ n ∈ (a.progress ctx admin ids s).notices, n.isWarning := by
    unfold progress
    split
    · exact applyTo_idle h
    · exact ⟨rfl, rfl, by simp⟩
  obtain ⟨hstore, hchanged, hwarn⟩ := hidle
  refine ⟨hstore, fun notices hp n hn => ?_⟩
  unfold BulkAction.notices at hp
  split at hp
  · exact absurd hp nofun
  · obtain rfl := Except.ok.inj hp
    rcases List.mem_append.1 hn with hn | hn
    · exact hwarn n hn
    · rw [List.mem_singleton.1 hn, hchanged, closingNotice_isWarning]

end BulkAction

end CertRegistry
