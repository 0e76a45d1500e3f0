import CertRegistry.Draft.Cell

/-!
# Layouts

A layout says which columns the records of a table have, what besides their columns they have a
name for, and how the columns make a record.
-/

namespace CertRegistry.Draft

/-- The layout of the records of a table. -/
structure Layout (α : Type) where
  /-- What a record is called. -/
  title : Text
  table : Text
  /-- The columns in order, the id apart. -/
  columns : List Column
  /-- The names of what a record computes. -/
  computed : List Text := []
  /-- The storage operation that saves a record. -/
  site : FaultSite
  record : Cells → α

/-- A column of texts, empty where none is given. -/
def textColumn (name : Text) : Column := ⟨name, .text, .text [], false⟩

/-- A column of texts that may be missing. -/
def optionalText (name : Text) : Column := ⟨name, .text, .null, true⟩

/-- A column of natural numbers. -/
def numberColumn (name : Text) : Column := ⟨name, .number, .int 0, false⟩

/-- A column of moments that may be missing. -/
def optionalMoment (name : Text) : Column := ⟨name, .moment, .null, true⟩

/-- The column of the kind of a certificate. -/
def kindColumn : Column := ⟨"type", .choice kindNames, .text [], false⟩

/-- The columns that note when a record was made and when it was changed. -/
def timestampColumns : List Column :=
  [⟨"created_at", .timestamp, .null, false⟩, ⟨"updated_at", .timestamp, .null, false⟩]

/-- The layout of certificates. -/
def certificateLayout : Layout Certificate where
  title := "Certificate"
  table := "certificate"
  columns := [textColumn "name", kindColumn,
      ⟨"status", .choice certificateStatusNames, .text CertificateStatus.valid.toText, false⟩,
      textColumn "owner", numberColumn "owner_id", textColumn "content",
      optionalMoment "issued_date", ⟨"expiration_date", .moment, .null, false⟩]
    ++ timestampColumns
  computed := ["is_active"]
  site := .certificateSave
  record := Cells.certificate

/-- The layout of requests. -/
def requestLayout : Layout CertificateRequest where
  title := "CertificateRequest"
  table := "certificate_request"
  columns := [textColumn "user_name", numberColumn "user_id", kindColumn,
      ⟨"status", .choice requestStatusNames, .text RequestStatus.pending.toText, false⟩,
      textColumn "reason", optionalText "approved_by", optionalMoment "approved_at",
      optionalText "rejected_by", optionalMoment "rejected_at", optionalText "rejected_reason"]
    ++ timestampColumns
  site := .requestSave
  record := Cells.request

end CertRegistry.Draft
