import CertRegistry.Proofs.Certificate.Refresh
import CertRegistry.Proofs.Store.Deed

/-!
# The account of issued certificates

Every certificate that was ever issued is accounted for, exactly once: either it was recorded, or it
was issued for one request that was approved, and then it keeps what that request asked for as long
as it is stored. A function names the certificate of each approved request; it grows with every
approval, and no other deed needs to change it.
-/

namespace CertRegistry

/-- A certificate has the owner, the kind and the time that it was issued with for a request. -/
structure Certificate.IssuedFor (c : Certificate) (r : CertificateRequest) : Prop where
  owner : c.owner = r.userName
  ownerId : c.ownerId = r.userId
  kind : c.kind = r.kind
  issued : c.issued = r.approvedAt

lemma CertificateRequest.status_ne_of_isPending {r : CertificateRequest} (h : r.isPending) :
    r.status ≠ .valid := by
  rw [of_decide_eq_true h]
  exact nofun

namespace Store

/-- A request that was approved is stored under an id. -/
def HasApproved (s : Store) (id : Int) (r : CertificateRequest) : Prop :=
  r.status = .valid ∧ ∃ row ∈ s.requests.rows, row.id = id ∧ row.data = r

/-- A request that was approved. -/
def isApproved (row : Row CertificateRequest) : Bool := row.data.status = .valid

/-- How many requests were approved. -/
def approvedCount (s : Store) : Nat := s.requests.rows.countP isApproved

section Requests

variable {s : Store} {row : Row CertificateRequest} {now : Instant} {r a : CertificateRequest}
  {id : Int} {c : Table Certificate}

lemma HasApproved.eq_of_mem (h : s.HasApproved id a) (hrow : row ∈ s.requests.rows)
    (hid : row.id = id) : row.data = a := by
  obtain ⟨-, row', hrow', rfl, rfl⟩ := h
  rw [Table.eq_of_id_eq hrow hrow' hid]

lemma hasApproved_change_iff (hrow : row ∈ s.requests.rows) :
    (⟨c, s.requests.change row now r⟩ : Store).HasApproved id a ↔
      (s.HasApproved id a ∧ id ≠ row.id) ∨ (a = r ∧ id = row.id ∧ r.status = .valid) := by
  constructor
  · rintro ⟨hstatus, row', hrow', rfl, rfl⟩
    rcases (Table.mem_rows_change hrow).1 hrow' with ⟨hmem, hid⟩ | rfl
    · exact Or.inl ⟨⟨hstatus, row', hmem, rfl, rfl⟩, hid⟩
    · exact Or.inr ⟨rfl, rfl, hstatus⟩
  · rintro (⟨⟨hstatus, row', hrow', rfl, rfl⟩, hid⟩ | ⟨rfl, rfl, hstatus⟩)
    · exact ⟨hstatus, row', (Table.mem_rows_change hrow).2 (Or.inl ⟨hrow', hid⟩), rfl, rfl⟩
    · exact ⟨hstatus, _, (Table.mem_rows_change hrow).2 (Or.inr rfl), rfl, rfl⟩

/-- A change that approves no request leaves the approved ones as they are. -/
lemma hasApproved_change_of_not (hrow : row ∈ s.requests.rows) (hold : row.data.status ≠ .valid)
    (hnew : r.status ≠ .valid) :
    (⟨c, s.requests.change row now r⟩ : Store).HasApproved id a ↔ s.HasApproved id a := by
  rw [hasApproved_change_iff hrow]
  constructor
  · rintro (⟨h, -⟩ | ⟨-, -, hstatus⟩)
    · exact h
    · exact absurd hstatus hnew
  · intro h
    refine Or.inl ⟨h, fun hid => hold ?_⟩
    rw [h.eq_of_mem hrow hid.symm]
    exact h.1

lemma approvedCount_change_of_not (hrow : row ∈ s.requests.rows)
    (hold : row.data.status ≠ .valid) (hnew : r.status ≠ .valid) :
    (⟨c, s.requests.change row now r⟩ : Store).approvedCount = s.approvedCount := by
  have hcount := Table.countP_change isApproved hrow now r
  have hbefore : isApproved row = false := decide_eq_false hold
  have hafter : isApproved (row.change now r) = false := decide_eq_false hnew
  rw [hbefore, hafter] at hcount
  exact hcount

/-- A request that is saved as it was is approved if it was. -/
lemma hasApproved_change_self (hrow : row ∈ s.requests.rows) :
    (⟨c, s.requests.change row now row.data⟩ : Store).HasApproved id a ↔ s.HasApproved id a := by
  rw [hasApproved_change_iff hrow]
  constructor
  · rintro (⟨h, -⟩ | ⟨rfl, rfl, hstatus⟩)
    · exact h
    · exact ⟨hstatus, row, hrow, rfl, rfl⟩
  · intro h
    by_cases hid : id = row.id
    · obtain rfl := h.eq_of_mem hrow hid.symm
      exact Or.inr ⟨rfl, hid, h.1⟩
    · exact Or.inl ⟨h, hid⟩

lemma approvedCount_change_self (hrow : row ∈ s.requests.rows) :
    (⟨c, s.requests.change row now row.data⟩ : Store).approvedCount = s.approvedCount :=
  Nat.add_right_cancel (Table.countP_change isApproved hrow now row.data)

/-- An approval adds its request to the approved ones. -/
lemma hasApproved_approve_iff (hrow : row ∈ s.requests.rows) (admin : Text) :
    (⟨c, s.requests.change row now (row.data.approve admin now)⟩ : Store).HasApproved id a ↔
      (s.HasApproved id a ∧ id ≠ row.id) ∨ (a = row.data.approve admin now ∧ id = row.id) := by
  rw [hasApproved_change_iff hrow]
  simp only [CertificateRequest.approve, and_true]

lemma approvedCount_approve (hrow : row ∈ s.requests.rows) (hpending : row.data.isPending)
    (admin : Text) :
    (⟨c, s.requests.change row now (row.data.approve admin now)⟩ : Store).approvedCount =
      s.approvedCount + 1 := by
  have hcount := Table.countP_change isApproved hrow now (row.data.approve admin now)
  have hbefore : isApproved row = false :=
    decide_eq_false (CertificateRequest.status_ne_of_isPending hpending)
  have hafter : isApproved (row.change now (row.data.approve admin now)) = true := rfl
  rw [hbefore, hafter] at hcount
  exact hcount

/-- A new request is not approved. -/
lemma hasApproved_append_iff {t : Table CertificateRequest} (hr : r.IsNew)
    (happ : s.requests.append? now r = some (row, t)) :
    (⟨c, t⟩ : Store).HasApproved id a ↔ s.HasApproved id a := by
  constructor
  · rintro ⟨hstatus, row', hrow', rfl, rfl⟩
    rcases (Table.mem_rows_append? happ).1 hrow' with hmem | rfl
    · exact ⟨hstatus, row', hmem, rfl, rfl⟩
    · rw [Table.append?_row happ, hr.status] at hstatus
      exact absurd hstatus (by decide)
  · rintro ⟨hstatus, row', hrow', rfl, rfl⟩
    exact ⟨hstatus, row', (Table.mem_rows_append? happ).2 (Or.inl hrow'), rfl, rfl⟩

lemma approvedCount_append {t : Table CertificateRequest} (hr : r.IsNew)
    (happ : s.requests.append? now r = some (row, t)) :
    (⟨c, t⟩ : Store).approvedCount = s.approvedCount := by
  have hnew : isApproved row = false := by
    rw [Table.append?_row happ]
    simp [isApproved, hr.status]
  show t.rows.countP isApproved = _
  rw [Table.countP_append? happ, hnew]
  rfl

end Requests

end Store

/-- Between two stores no certificate is issued and no request approved; what was issued for a
request keeps what it was issued with. -/
structure Keeps (s t : Store) : Prop where
  lastId : t.certificates.lastId = s.certificates.lastId
  certificates : ∀ c ∈ t.certificates.rows, ∃ old ∈ s.certificates.rows,
    old.id = c.id ∧ ∀ r, old.data.IssuedFor r → c.data.IssuedFor r
  approved : ∀ id r, t.HasApproved id r ↔ s.HasApproved id r
  count : t.approvedCount = s.approvedCount

namespace Keeps

variable {s t : Store} {now : Instant}

/-- Requests that no one approves, and certificates that stay. -/
lemma of_requests {u : Table CertificateRequest}
    (happroved : ∀ id r, (⟨s.certificates, u⟩ : Store).HasApproved id r ↔ s.HasApproved id r)
    (hcount : (⟨s.certificates, u⟩ : Store).approvedCount = s.approvedCount) :
    Keeps s ⟨s.certificates, u⟩ :=
  ⟨rfl, fun c hc => ⟨c, hc, rfl, fun _ h => h⟩, happroved, hcount⟩

/-- Certificates that keep what they were issued with, and requests that stay. -/
lemma of_certificates {u : Table Certificate} (hlast : u.lastId = s.certificates.lastId)
    (hrows : ∀ c ∈ u.rows, ∃ old ∈ s.certificates.rows,
      old.id = c.id ∧ ∀ r, old.data.IssuedFor r → c.data.IssuedFor r) :
    Keeps s ⟨u, s.requests⟩ :=
  ⟨hlast, hrows, fun _ _ => Iff.rfl, rfl⟩

lemma of_changed_certificate {row : Row Certificate} {c : Certificate}
    (hrow : row ∈ s.certificates.rows) (hc : ∀ r, row.data.IssuedFor r → c.IssuedFor r) :
    Keeps s ⟨s.certificates.change row now c, s.requests⟩ := by
  refine of_certificates rfl fun c' hc' => ?_
  rcases (Table.mem_rows_change hrow).1 hc' with ⟨hmem, -⟩ | rfl
  · exact ⟨c', hmem, rfl, fun _ h => h⟩
  · exact ⟨row, hrow, rfl, hc⟩

end Keeps

namespace Deed

/-- A deed that issues a certificate. -/
def issues : Deed → Bool
  | record | approve _ => true
  | _ => false

end Deed

/-- A deed that issues no certificate approves no request either. -/
lemma Change.keeps {now : Instant} {d : Deed} {s t : Store} (h : Change now d s t)
    (hd : d.issues = false) : Keeps s t := by
  cases h with
  | record hstatus happ => exact absurd hd (by decide)
  | approve hrow hpending admin happ => simp [Deed.issues] at hd
  | update hrow name expires =>
    exact .of_changed_certificate hrow fun r h => ⟨h.owner, h.ownerId, h.kind, h.issued⟩
  | revoke hrow =>
    exact .of_changed_certificate hrow fun r h => ⟨h.owner, h.ownerId, h.kind, h.issued⟩
  | delete hrow =>
    refine .of_certificates rfl fun c hc => ⟨c, (Table.mem_rows_erase.1 hc).1, rfl, fun _ h => h⟩
  | refresh threshold =>
    obtain ⟨f, hf, hf'⟩ := Refresh.refreshes_run now threshold s.certificates
    refine .of_certificates rfl fun c hc => ?_
    rw [hf] at hc
    obtain ⟨old, hold, rfl⟩ := List.mem_map.1 hc
    refine ⟨old, hold, (hf' old).id.symm, fun r h => ?_⟩
    rw [(hf' old).data]
    exact ⟨h.owner, h.ownerId, h.kind, h.issued⟩
  | request byForm hnew happ =>
    exact .of_requests (fun _ _ => Store.hasApproved_append_iff hnew happ)
      (Store.approvedCount_append hnew happ)
  | submit hnew hactive hpending happ =>
    exact .of_requests (fun _ _ => Store.hasApproved_append_iff hnew happ)
      (Store.approvedCount_append hnew happ)
  | reject hrow hpending admin reason =>
    have hold := CertificateRequest.status_ne_of_isPending hpending
    have hnew : RequestStatus.rejected ≠ .valid := nofun
    exact .of_requests (fun _ _ => Store.hasApproved_change_of_not hrow hold hnew)
      (Store.approvedCount_change_of_not hrow hold hnew)
  | edit hrow hpending e =>
    have hold := CertificateRequest.status_ne_of_isPending hpending
    exact .of_requests (fun _ _ => Store.hasApproved_change_of_not hrow hold hold)
      (Store.approvedCount_change_of_not hrow hold hold)
  | touch hrow hdecided =>
    exact .of_requests (fun _ _ => Store.hasApproved_change_self hrow)
      (Store.approvedCount_change_self hrow)

/-! ### The account -/

/-- All certificates that were ever issued are accounted for: they were recorded under some ids, or
each of them belongs to one approved request. -/
structure Accounted (s : Store) (recorded : List Int) (certOf : Int → Int) : Prop where
  count : s.certificates.lastId = s.approvedCount + recorded.length
  nodup : recorded.Nodup
  recorded_mem : ∀ n ∈ recorded, 1 ≤ n ∧ n ≤ s.certificates.lastId
  certOf_mem : ∀ id r, s.HasApproved id r →
    1 ≤ certOf id ∧ certOf id ≤ s.certificates.lastId ∧ certOf id ∉ recorded
  injective : ∀ id r id' r', s.HasApproved id r → s.HasApproved id' r' →
    certOf id = certOf id' → id = id'
  covered : ∀ n : Int, 1 ≤ n → n ≤ s.certificates.lastId →
    n ∈ recorded ∨ ∃ id r, s.HasApproved id r ∧ certOf id = n
  issued : ∀ id r, s.HasApproved id r → ∀ c ∈ s.certificates.rows, c.id = certOf id →
    c.data.IssuedFor r

namespace Accounted

variable {s t : Store} {recorded : List Int} {certOf : Int → Int} {now : Instant}

/-- Nothing was issued before the first step. -/
lemma empty (certOf : Int → Int) : Accounted {} [] certOf where
  count := rfl
  nodup := .nil
  recorded_mem := nofun
  certOf_mem := fun _ _ h => by
    obtain ⟨-, row, hrow, -⟩ := h
    exact absurd hrow List.not_mem_nil
  injective := fun _ _ _ _ h => by
    obtain ⟨-, row, hrow, -⟩ := h
    exact absurd hrow List.not_mem_nil
  covered := fun n h h' => absurd (h.trans h') (by decide)
  issued := fun _ _ _ c hc => absurd hc List.not_mem_nil

lemma keep (h : Accounted s recorded certOf) (hk : Keeps s t) : Accounted t recorded certOf where
  count := by rw [hk.lastId, hk.count, h.count]
  nodup := h.nodup
  recorded_mem := by rw [hk.lastId]; exact h.recorded_mem
  certOf_mem := fun id r hr => by rw [hk.lastId]; exact h.certOf_mem id r ((hk.approved id r).1 hr)
  injective := fun id r id' r' hr hr' =>
    h.injective id r id' r' ((hk.approved id r).1 hr) ((hk.approved id' r').1 hr')
  covered := fun n hn hn' => by
    rw [hk.lastId] at hn'
    refine (h.covered n hn hn').imp_right ?_
    rintro ⟨id, r, hr, rfl⟩
    exact ⟨id, r, (hk.approved id r).2 hr, rfl⟩
  issued := fun id r hr c hc hid => by
    obtain ⟨old, hold, hold', hkeep⟩ := hk.certificates c hc
    exact hkeep r (h.issued id r ((hk.approved id r).1 hr) old hold (hold'.trans hid))

/-- The id that comes next is nowhere in the account. -/
lemma notMem_of_lt (h : Accounted s recorded certOf) {n : Int} (hn : s.certificates.lastId < n) :
    n ∉ recorded :=
  fun hmem => not_lt_of_ge (h.recorded_mem n hmem).2 hn

lemma certOf_ne_of_lt (h : Accounted s recorded certOf) {n : Int} (hn : s.certificates.lastId < n)
    {id : Int} {r : CertificateRequest} (hr : s.HasApproved id r) : certOf id ≠ n :=
  ((h.certOf_mem id r hr).2.1.trans_lt hn).ne

/-- A certificate that is appended belongs to none of the requests that were approved before. -/
lemma issued_append (h : Accounted s recorded certOf) {row : Row Certificate}
    {u : Table Certificate} {c : Certificate}
    (happ : s.certificates.append? now c = some (row, u)) {id : Int} {r : CertificateRequest}
    (hr : s.HasApproved id r) {c' : Row Certificate} (hc' : c' ∈ u.rows) (hid : c'.id = certOf id) :
    c'.data.IssuedFor r := by
  rcases (Table.mem_rows_append? happ).1 hc' with hmem | rfl
  · exact h.issued id r hr c' hmem hid
  · rw [Table.append?_row happ] at hid
    exact absurd hid.symm (h.certOf_ne_of_lt (Int.lt_succ _) hr)

/-- A certificate that is recorded gets an id of its own. -/
lemma record (h : Accounted s recorded certOf) {c : Certificate} {row : Row Certificate}
    {u : Table Certificate} (happ : s.certificates.append? now c = some (row, u)) :
    Accounted { s with certificates := u } (recorded ++ [(u.lastId : Int)]) certOf := by
  have hlast := Table.append?_lastId_cast happ
  have hlt : (s.certificates.lastId : Int) < u.lastId := by omega
  constructor
  case count =>
    show u.lastId = s.approvedCount + _
    rw [Table.append?_lastId happ, h.count, List.length_append, List.length_singleton,
      Nat.add_assoc]
  case nodup =>
    have hdisjoint := List.disjoint_singleton.2 (h.notMem_of_lt hlt)
    exact h.nodup.append (List.nodup_singleton _) hdisjoint
  case recorded_mem =>
    intro n hn
    show 1 ≤ n ∧ n ≤ (u.lastId : Int)
    rcases List.mem_append.1 hn with hn | hn
    · have hmem := h.recorded_mem n hn
      omega
    · obtain rfl := List.mem_singleton.1 hn
      omega
  case certOf_mem =>
    intro id r hr
    obtain ⟨hone, hle, hnot⟩ := h.certOf_mem id r hr
    refine ⟨hone, hle.trans hlt.le, fun hmem => ?_⟩
    rcases List.mem_append.1 hmem with hmem | hmem
    · exact hnot hmem
    · exact h.certOf_ne_of_lt hlt hr (List.mem_singleton.1 hmem)
  case injective => exact h.injective
  case covered =>
    intro n hn hn'
    have hn' : n ≤ (u.lastId : Int) := hn'
    by_cases hnew : n = u.lastId
    · exact Or.inl (List.mem_append_right _ (List.mem_singleton.2 hnew))
    · exact (h.covered n hn (by omega)).imp_left fun hmem => List.mem_append_left _ hmem
  case issued =>
    intro id r hr c' hc' hid
    exact h.issued_append happ hr hc' hid

/-- A certificate that is issued for a request belongs to it. -/
lemma approve (h : Accounted s recorded certOf) {row : Row CertificateRequest}
    (hrow : row ∈ s.requests.rows) (hpending : row.data.isPending) (admin : Text)
    {expires : Instant} {cert : Row Certificate} {u : Table Certificate}
    (happ : s.certificates.append? now (row.data.certificate now expires) = some (cert, u)) :
    Accounted ⟨u, s.requests.change row now (row.data.approve admin now)⟩ recorded
      (Function.update certOf row.id u.lastId) := by
  have hlast := Table.append?_lastId_cast happ
  have hlt : (s.certificates.lastId : Int) < u.lastId := by omega
  have happroved {id : Int} {r : CertificateRequest} :
      (⟨u, s.requests.change row now (row.data.approve admin now)⟩ : Store).HasApproved id r ↔ _ :=
    Store.hasApproved_approve_iff hrow admin
  have hold {id : Int} (hid : id ≠ row.id) :
      Function.update certOf row.id (u.lastId : Int) id = certOf id :=
    Function.update_of_ne hid _ _
  have hnew : Function.update certOf row.id (u.lastId : Int) row.id = u.lastId :=
    Function.update_self _ _ _
  constructor
  case count =>
    rw [Store.approvedCount_approve hrow hpending]
    show u.lastId = _
    rw [Table.append?_lastId happ, h.count, Nat.add_right_comm]
  case nodup => exact h.nodup
  case recorded_mem =>
    intro n hn
    obtain ⟨hone, hle⟩ := h.recorded_mem n hn
    exact ⟨hone, hle.trans hlt.le⟩
  case certOf_mem =>
    intro id r hr
    rcases happroved.1 hr with ⟨hr, hid⟩ | ⟨rfl, rfl⟩
    · obtain ⟨hone, hle, hnot⟩ := h.certOf_mem id r hr
      rw [hold hid]
      exact ⟨hone, hle.trans hlt.le, hnot⟩
    · rw [hnew]
      exact ⟨by omega, le_rfl, h.notMem_of_lt hlt⟩
  case injective =>
    intro id r id' r' hr hr' heq
    rcases happroved.1 hr with ⟨hr, hid⟩ | ⟨rfl, rfl⟩ <;>
      rcases happroved.1 hr' with ⟨hr', hid'⟩ | ⟨rfl, hid'⟩
    · rw [hold hid, hold hid'] at heq
      exact h.injective id r id' r' hr hr' heq
    · rw [hold hid, hid', hnew] at heq
      exact absurd heq (h.certOf_ne_of_lt hlt hr)
    · rw [hold hid', hnew] at heq
      exact absurd heq.symm (h.certOf_ne_of_lt hlt hr')
    · exact hid'.symm
  case covered =>
    intro n hn hn'
    have hn' : n ≤ (u.lastId : Int) := hn'
    by_cases hlast' : n = u.lastId
    · exact Or.inr ⟨row.id, _, happroved.2 (Or.inr ⟨rfl, rfl⟩), hnew.trans hlast'.symm⟩
    · refine (h.covered n hn (by omega)).imp_right ?_
      rintro ⟨id, r, hr, rfl⟩
      -- the request that is approved now was pending, so it is another one
      have hid : id ≠ row.id := by
        rintro rfl
        rw [hr.eq_of_mem hrow rfl] at hpending
        exact CertificateRequest.status_ne_of_isPending hpending hr.1
      exact ⟨id, r, happroved.2 (Or.inl ⟨hr, hid⟩), hold hid⟩
  case issued =>
    intro id r hr c hc hid
    rcases happroved.1 hr with ⟨hr, hid'⟩ | ⟨rfl, rfl⟩
    · rw [hold hid'] at hid
      exact h.issued_append happ hr hc hid
    · rw [hnew] at hid
      rcases (Table.mem_rows_append? happ).1 hc with hmem | rfl
      · have hle := Table.id_le_lastId hmem
        omega
      · rw [Table.append?_row happ]
        exact ⟨rfl, rfl, rfl, rfl⟩

/-- The account goes on through deeds that record nothing. -/
lemma changes (h : Accounted s recorded certOf) {ds : List Deed} (hds : .record ∉ ds)
    (hchanges : Changes now ds s t) : ∃ certOf', Accounted t recorded certOf' := by
  induction hchanges generalizing certOf with
  | nil => exact ⟨certOf, h⟩
  | @cons d ds s t u head _ ih =>
    obtain ⟨hd, hds⟩ := List.ne_and_not_mem_of_not_mem_cons hds
    obtain ⟨certOf', h'⟩ : ∃ certOf', Accounted t recorded certOf' := by
      by_cases hissues : d.issues
      · cases head with
        | record => exact absurd rfl hd
        | approve hrow hpending admin happ => exact ⟨_, h.approve hrow hpending admin happ⟩
        | _ => exact absurd hissues Bool.false_ne_true
      · exact ⟨certOf, h.keep (head.keeps (Bool.eq_false_of_not_eq_true hissues))⟩
    exact ih h' hds

end Accounted

end CertRegistry
