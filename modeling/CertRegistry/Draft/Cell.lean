import CertRegistry.Draft.Column

/-!
# Cells of a record

The converted columns of a record make its row. The storage refuses a value that it cannot take,
then a column that must hold a value and holds none, then a natural number that is negative; among
faults of one sort the first column counts.
-/

namespace CertRegistry.Draft

/-- The converted values of the columns of a record. -/
abbrev Cells := List (Column × Cell)

namespace Cells

/-- Converts the values given for columns. -/
def convert (values : List (Column × Given)) : Except Failure Cells :=
  values.mapM fun (c, g) => (c.convert g).map fun cell => (c, cell)

/-- Fails if the storage cannot take a value. -/
def checkTaken : Column × Cell → Except Failure Unit
  | (_, .text t) => (storedText t).map fun _ => ()
  | (_, .number n) => if Integer.fits n then .ok () else .error .columnOverflow
  | _ => .ok ()

/-- Fails if a column that must hold a value holds none. -/
def checkPresent (table : Text) : Column × Cell → Except Failure Unit
  | (c, .null) => if c.nullable then .ok () else .error (.emptyColumn table c.name)
  | _ => .ok ()

/-- Fails if a column of natural numbers holds a negative one. -/
def checkSign : Column × Cell → Except Failure Unit
  | (c, .number n) => if n < 0 then .error (.negativeColumn c.name) else .ok ()
  | _ => .ok ()

/-- Fails if the storage cannot take the values. -/
def take (cs : Cells) : Except Failure Unit := cs.forM checkTaken

/-- Fails if the values break a rule of their table. -/
def constrain (table : Text) (cs : Cells) : Except Failure Unit := do
  cs.forM (checkPresent table)
  cs.forM checkSign

/-- The value of a column. -/
def cell (cs : Cells) (name : Text) : Cell :=
  ((cs.find? fun c => c.1.name = name).map (·.2)).getD .null

/-- The text of a column that may be empty. -/
def text? (cs : Cells) (name : Text) : Option Text :=
  match cs.cell name with
  | .text t => some t
  | _ => none

/-- The text of a column. -/
def text (cs : Cells) (name : Text) : Text := (cs.text? name).getD []

/-- The number of a column. -/
def number (cs : Cells) (name : Text) : Nat :=
  match cs.cell name with
  | .number n => n.toNat
  | _ => 0

/-- The instant of a column that may be empty. -/
def instant? (cs : Cells) (name : Text) : Option Instant :=
  match cs.cell name with
  | .instant t => some t
  | _ => none

/-- The instant of a column. -/
def instant (cs : Cells) (name : Text) : Instant := (cs.instant? name).getD 0

/-- The certificate that the columns make. -/
def certificate (cs : Cells) : Certificate where
  name := cs.text "name"
  kind := .ofText (cs.text "type")
  status := .ofText (cs.text "status")
  owner := cs.text "owner"
  ownerId := cs.number "owner_id"
  content := cs.text "content"
  issued := cs.instant? "issued_date"
  expires := cs.instant "expiration_date"

/-- The request that the columns make. -/
def request (cs : Cells) : CertificateRequest where
  userName := cs.text "user_name"
  userId := cs.number "user_id"
  kind := .ofText (cs.text "type")
  status := .ofText (cs.text "status")
  reason := cs.text "reason"
  approvedBy := cs.text? "approved_by"
  approvedAt := cs.instant? "approved_at"
  rejectedBy := cs.text? "rejected_by"
  rejectedAt := cs.instant? "rejected_at"
  rejectedReason := cs.text? "rejected_reason"

end Cells

end CertRegistry.Draft
