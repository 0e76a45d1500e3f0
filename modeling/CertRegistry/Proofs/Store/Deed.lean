import CertRegistry.Proofs.Table
import CertRegistry.Admin.ChangeForm
import CertRegistry.Certificate.Refresh

/-!
# Deeds and their changes

A deed is one thing that is done to the store. `Change` says for every deed what the store was like
before it and what it is like after it. Whatever else happens to the store is a chain of deeds, so
what every deed keeps is kept for good.
-/

namespace CertRegistry

/-- What is done to the store, and to which row. -/
inductive Deed
  /-- A certificate is recorded that was issued elsewhere. -/
  | record
  | update (id : Int)
  | delete (id : Int)
  | revoke (id : Int)
  | refresh
  /-- An administrator makes a request, whatever its user holds, by a form or by a call. -/
  | request (byForm : Bool)
  /-- A tenant makes a request. -/
  | submit
  | approve (id : Int)
  | reject (id : Int)
  /-- A pending request is changed by a form. -/
  | edit (id : Int)
  /-- A decided request is saved by a form as it is. -/
  | touch (id : Int)
deriving DecidableEq

/-- A request that nobody has decided on. -/
structure CertificateRequest.IsNew (r : CertificateRequest) : Prop where
  status : r.status = .pending
  approvedBy : r.approvedBy = none
  approvedAt : r.approvedAt = none
  rejectedBy : r.rejectedBy = none
  rejectedAt : r.rejectedAt = none
  rejectedReason : r.rejectedReason = none

/-- What a deed changes, at a time. -/
inductive Change (now : Instant) : Deed → Store → Store → Prop
  | record {s : Store} {c : Certificate} {row : Row Certificate} {t : Table Certificate}
      (hstatus : c.status = .valid) (happ : s.certificates.append? now c = some (row, t)) :
      Change now .record s { s with certificates := t }
  | update {s : Store} {row : Row Certificate} (hrow : row ∈ s.certificates.rows) (name : Text)
      (expires : Instant) :
      Change now (.update row.id) s
        { s with certificates := s.certificates.change row now { row.data with name, expires } }
  | delete {s : Store} {row : Row Certificate} (hrow : row ∈ s.certificates.rows) :
      Change now (.delete row.id) s { s with certificates := s.certificates.erase row.id }
  | revoke {s : Store} {row : Row Certificate} (hrow : row ∈ s.certificates.rows) :
      Change now (.revoke row.id) s
        { s with certificates := s.certificates.change row now row.data.revoke }
  | refresh {s : Store} (threshold : Instant) :
      Change now .refresh s
        { s with certificates := (Refresh.run now threshold s.certificates).2 }
  | request {s : Store} {r : CertificateRequest} {row : Row CertificateRequest}
      {t : Table CertificateRequest} (byForm : Bool) (hnew : r.IsNew)
      (happ : s.requests.append? now r = some (row, t)) :
      Change now (.request byForm) s { s with requests := t }
  | submit {s : Store} {r : CertificateRequest} {row : Row CertificateRequest}
      {t : Table CertificateRequest} (hnew : r.IsNew)
      (hactive : s.holdsActive (.ofInt r.userId) = false)
      (hpending : s.pendingRequest? (.ofInt r.userId) = none)
      (happ : s.requests.append? now r = some (row, t)) :
      Change now .submit s { s with requests := t }
  | approve {s : Store} {row : Row CertificateRequest} (hrow : row ∈ s.requests.rows)
      (hpending : row.data.isPending) (admin : Text) {expires : Instant} {cert : Row Certificate}
      {t : Table Certificate}
      (happ : s.certificates.append? now (row.data.certificate now expires) = some (cert, t)) :
      Change now (.approve row.id) s ⟨t, s.requests.change row now (row.data.approve admin now)⟩
  | reject {s : Store} {row : Row CertificateRequest} (hrow : row ∈ s.requests.rows)
      (hpending : row.data.isPending) (admin : Text) (reason : Option Text) :
      Change now (.reject row.id) s
        { s with requests := s.requests.change row now (row.data.reject admin now reason) }
  | edit {s : Store} {row : Row CertificateRequest} (hrow : row ∈ s.requests.rows)
      (hpending : row.data.isPending) (e : ChangeForm.Entries) :
      Change now (.edit row.id) s
        { s with requests := s.requests.change row now (e.apply row.data) }
  | touch {s : Store} {row : Row CertificateRequest} (hrow : row ∈ s.requests.rows)
      (hdecided : row.data.isPending = false) :
      Change now (.touch row.id) s { s with requests := s.requests.change row now row.data }

/-- The changes of deeds, one after the other. -/
inductive Changes (now : Instant) : List Deed → Store → Store → Prop
  | nil (s : Store) : Changes now [] s s
  | cons {d : Deed} {ds : List Deed} {s t u : Store} (head : Change now d s t)
      (tail : Changes now ds t u) : Changes now (d :: ds) s u

namespace Changes

variable {now : Instant} {d : Deed} {ds es : List Deed} {s t u : Store}

lemma single (h : Change now d s t) : Changes now [d] s t := .cons h (.nil t)

/-- Without a deed nothing changes. -/
lemma eq_of_nil (h : Changes now [] s t) : t = s := by
  cases h
  rfl

lemma change_of_single (h : Changes now [d] s t) : Change now d s t := by
  obtain _ | ⟨head, tail⟩ := h
  cases tail
  exact head

lemma append (h : Changes now ds s t) (h' : Changes now es t u) : Changes now (ds ++ es) s u := by
  induction h with
  | nil => exact h'
  | cons head _ ih => exact .cons head (ih h')

/-- What every deed keeps holds after the deeds if it did before. -/
lemma invariant {P : Store → Prop} (h : Changes now ds s t)
    (hkeep : ∀ d ∈ ds, ∀ s t, Change now d s t → P s → P t) (hs : P s) : P t := by
  induction h with
  | nil => exact hs
  | cons head _ ih =>
    have htail := fun d hd => hkeep d (List.mem_cons_of_mem _ hd)
    exact ih htail (hkeep _ List.mem_cons_self _ _ head hs)

end Changes

end CertRegistry
