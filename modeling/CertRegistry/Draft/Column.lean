import CertRegistry.Store
import CertRegistry.Time.Iso

/-!
# Columns

A program that uses the registry may give values of any type for the columns of a record. A column
for moments reads its value when it is given; every other one keeps what it was given, and converts
it when the record is saved.
-/

namespace CertRegistry.Draft

/-- A value as it was given: a JSON value, or a moment. -/
inductive Given
  | json (v : Json)
  | moment (m : Moment)

/-- A value as it is stored. -/
inductive Cell
  | null
  | text (t : Text)
  | number (n : Int)
  | instant (t : Instant)

/-- What a column holds. -/
inductive ColumnKind
  | text
  /-- A text that should be one of the declared ones. -/
  | choice (declared : List Text)
  | number
  | moment
  /-- The time of a change, which is noted when the record is saved. -/
  | timestamp

/-- A column of a table, with the value that stands for a missing one. -/
structure Column where
  name : Text
  kind : ColumnKind
  default : Json := .null
  nullable : Bool := false

/-- The columns that read moments, of all records. -/
def momentNames : List Text := ["issued_date", "expiration_date", "approved_at", "rejected_at"]

/-- A value given under a name. -/
def Given.read (name : Text) (v : Json) : Except Failure Given :=
  if name ∈ momentNames then
    match v with
    | .null => .ok (.json .null)
    | .text t =>
      match Moment.Compact.read? t with
      | some m => .ok (.moment m)
      | none => .error (.noMoment t)
    | _ => .error .noMomentText
  else .ok (.json v)

/-- The text of a value as the log shows it. -/
def Given.shown : Given → Text
  | .json v => v.shown
  | .moment m => m.logText

/-- The moment that a text writes in a column of times: a date and a time, or else a date alone,
each in the compact form before the spaced one. -/
def readTimestamp (t : Text) : Except Failure Moment :=
  match Moment.Compact.read? t, Moment.Spaced.read? t with
  | some m, _ | none, some (some m) => .ok m
  | none, some none => .error (.badTimestamp t .dateTime)
  | none, none =>
    match Moment.Compact.readDay? t, Moment.Spaced.readDay? t with
    | some m, _ | none, some (some m) => .ok m
    | none, some none => .error (.badTimestamp t .date)
    | none, none => .error (.badTimestamp t .form)

namespace Column

/-- Converts a number for a column. -/
def toNumber (c : Column) (v : Json) : Except Failure Cell :=
  match v.toInteger with
  | .ok n => .ok (.number n)
  | .error .infinite => .error (.noInteger .infinite)
  | .error _ => .error (.noNumber c.name v)

/-- Converts a value for a column. -/
def convert (c : Column) (g : Given) : Except Failure Cell :=
  match g with
  | .moment m => m.stored.map .instant
  | .json .null => .ok .null
  | .json v =>
    match c.kind, v with
    | .number, v => c.toNumber v
    | .text, v => .ok (.text v.shown)
    | .choice _, v => .ok (.text v.shown)
    | _, .text t => do return .instant (← (← readTimestamp t).stored)
    | _, _ => .error .noMomentText

/-- A value of a column as it is shown before it is read back. -/
def rendered (c : Column) (g : Given) : Except Failure Json :=
  match g with
  | .moment m =>
    match m.inZone? with
    | some m => .ok (.text m.text)
    | none => .error .zoneOverflow
  | .json .null => .ok .null
  | .json v =>
    match c.kind with
    | .text => .ok (.text v.shown)
    | .choice declared => .ok (if v.shown ∈ declared then .text v.shown else v)
    | .number =>
      match v.toInteger with
      | .ok n => .ok (.int n)
      | .error e => .error (.noInteger e)
    | _ => .ok v

end Column

end CertRegistry.Draft
