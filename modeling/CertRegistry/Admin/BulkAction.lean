import CertRegistry.Request.Decision

/-!
# Bulk actions

An administrator selects rows and applies one action to all of them, in the order of their ids.
The selection is made before the first row is changed. A rule of the registry that forbids a
decision on a request gives a warning and the action goes on; any other failure ends it there, and
so does any failure to revoke a certificate. What was done before stays done.
-/

namespace CertRegistry

/-- An action on selected rows. -/
inductive BulkAction
  | revoke
  | approve
  | reject
deriving DecidableEq, Repr

/-- What an administrator is told. -/
structure Notice where
  isWarning : Bool
  text : Text
deriving DecidableEq

namespace BulkAction

/-- How far an action has come: the store, the log, the warnings, the number of rows that were
changed, and the failure that ended it, if any. -/
structure Progress where
  store : Store
  log : List LogRecord := []
  notices : List Notice := []
  changed : Nat := 0
  failure? : Option Failure := none

/-- Applies an action to rows, one after the other. Where a rule forbids it for a row, the row is
passed over with a warning. -/
def processAll {α β : Type} (title : α → Text) (act : Row α → Store → Except Failure (Done β)) :
    List (Row α) → Progress → Progress
  | [], p => p
  | row :: rows, p =>
    match act row p.store with
    | .ok d =>
      processAll title act rows
        { p with store := d.store, log := p.log ++ d.log, changed := p.changed + 1 }
    | .error f =>
      if f.isRule then
        processAll title act rows
          { p with notices := p.notices ++ [⟨true, title row.data ++ ": " ++ f.message⟩] }
      else { p with failure? := some f }

/-- Revokes certificates, one after the other. None is passed over: whatever goes wrong ends it. -/
def revokeAll (ctx : Context) : List (Row Certificate) → Progress → Progress
  | [], p => p
  | row :: rows, p =>
    match p.store.revokeCertificate ctx (.ofInt row.id) with
    | .ok d =>
      revokeAll ctx rows
        { p with store := d.store, log := p.log ++ d.log, changed := p.changed + 1 }
    | .error f => { p with failure? := some f }

/-- The closing notice of an action: how many rows it changed, or that there was none to change. -/
def closing (changed : Nat) (before after none' : Text) : Notice :=
  if changed = 0 then ⟨true, none'⟩ else ⟨false, before ++ Text.ofNat changed ++ after⟩

/-- The closing notice of each action. -/
def closingNotice (a : BulkAction) (changed : Nat) : Notice :=
  match a with
  | revoke => closing changed "成功吊销了 " " 张证书。" "选中的证书均已吊销。"
  | approve =>
    closing changed "成功批准了 " " 个证书申请。"
      "没有符合条件的证书申请需要批准（只对待审核状态的申请进行批准）。"
  | reject =>
    closing changed "成功拒绝了 " " 个证书申请。"
      "没有符合条件的证书申请需要拒绝（只对待审核状态的申请进行拒绝）。"

/-- The reason that a bulk rejection records. -/
def rejectionReason : Text := "Rejected by admin"

/-- The rows of a selection. -/
def selected {α : Type} (t : Table α) (ids : List Int) : List (Row α) :=
  t.rows.filter fun r => ids.contains r.id

/-- Applies an action to the selected rows. Certificates that are revoked already are left out. -/
def applyTo (ctx : Context) (admin : Text) (ids : List Int) (s : Store) : BulkAction → Progress
  | revoke =>
    revokeAll ctx ((selected s.certificates ids).filter fun r => r.data.status ≠ .revoked)
      { store := s }
  | approve =>
    processAll CertificateRequest.title (fun row s => s.approveRequest ctx admin (.ofInt row.id))
      (selected s.requests ids) { store := s }
  | reject =>
    processAll CertificateRequest.title
      (fun row s => s.rejectRequest ctx admin (.ofInt row.id) (some rejectionReason))
      (selected s.requests ids) { store := s }

/-- Fails if the rows with these ids cannot be selected. The storage is asked for no row where there
is no id, and no column holds an id that does not fit. -/
def checkSelection (ctx : Context) (ids : List Int) : Except Failure Unit := do
  if ids = [] then return ()
  ctx.reach
  if ids.all Integer.fits then return () else throw .columnOverflow

/-- Applies an action to the selected rows, unless they cannot be selected. -/
def progress (a : BulkAction) (ctx : Context) (admin : Text) (ids : List Int) (s : Store) :
    Progress :=
  match checkSelection ctx ids with
  | .ok () => a.applyTo ctx admin ids s
  | .error f => { store := s, failure? := some f }

/-- What an administrator is told after an action, unless it was ended by a failure. -/
def notices (a : BulkAction) (p : Progress) : Except Failure (List Notice) :=
  match p.failure? with
  | some f => .error f
  | none => .ok (p.notices ++ [closingNotice a p.changed])

end BulkAction

end CertRegistry
