import CertRegistry.Json.Reader
import CertRegistry.Input.Field
import CertRegistry.Settings.Basic
import CertRegistry.Text.Utf8

/-!
# Submissions

A submission is a JSON object that is read field by field: every declared field is read from the
member of its name, whatever else the object holds. Either all fields take their values, or the
messages of all that do not are reported, in the order of declaration.
-/

namespace CertRegistry.Input

/-- The fields of a submission in order. -/
abbrev Schema := List Field

/-- The values of the fields in order. -/
abbrev Values := List (Text × Value)

/-- The messages of the fields that refuse their values, in order. -/
abbrev Errors := List (Text × List Text)

/-- Reads the fields of an object. -/
def Schema.bind : Schema → List (Text × Json) → Except Failure (Except Errors Values)
  | [], _ => .ok (.ok [])
  | f :: fs, members => do
    let first ← f.read (Json.member? members f.name)
    let rest ← Schema.bind fs members
    return match first, rest with
      | .ok v, .ok vs => .ok ((f.name, v) :: vs)
      | .ok _, .error es => .error es
      | .error e, .ok _ => .error [(f.name, e)]
      | .error e, .error es => .error ((f.name, e) :: es)

namespace Values

/-- The text of a field. -/
def text (vs : Values) (name : Text) : Text :=
  match vs.lookup name with
  | some (.text t) => t
  | _ => []

/-- The number of a field. -/
def number (vs : Values) (name : Text) : Int :=
  match vs.lookup name with
  | some (.number n) => n
  | _ => 0

/-- The date and time of a field. -/
def moment? (vs : Values) (name : Text) : Option Moment :=
  match vs.lookup name with
  | some (.moment m) => some m
  | _ => none

end Values

/-- One field with its messages. -/
def errorText (e : Text × List Text) : Text := e.1 ++ ": " ++ Text.join " " e.2

/-- The messages of all fields in one line. -/
def errorsText (es : Errors) : Text := Text.join "; " (es.map errorText)

/-- The value of a field as JSON. -/
def Value.toJson : Value → Json
  | .absent => .null
  | .text t => .text t
  | .number n => .int n
  | .moment m => .text m.text

/-! ### Bodies -/

/-- The size of a body: what its sender declares, if anything, and else the number of its bytes.
What counts as false declares no byte. -/
def declaredSize (declared? : Option Json) (bytes : List Nat) :
    Except Json.IntegerFailure Int :=
  match declared? with
  | none => .ok bytes.length
  | some v => if v.isTrue then v.toInteger else .ok 0

/-- Fails if a body is larger than a body may be. -/
def checkSize (limit? : Option Json) (size : Except Json.IntegerFailure Int) :
    Except Failure Unit :=
  match limit?, size with
  | none, _ => .error .unsettled
  | some .null, _ => .ok ()
  | some _, .error e => .error (.noInteger e)
  | some limit, .ok n =>
    match limit.less (.int n) with
    | .ok true => .error .bodyTooLarge
    | .ok false => .ok ()
    | .error _ => .error (.unordered ">" (.int n) limit)

/-- The members of an object, or none at all where there are no bytes. -/
def parseMembers (bytes : List Nat) : Except Failure (List (Text × Json)) :=
  let invalid : Failure := .badInput "Invalid JSON in request body"
  if bytes = [] then .ok []
  else
    match Text.Utf8.decode? bytes with
    | none => .error invalid
    | some t =>
      match Json.read t with
      | .error .malformed => .error invalid
      | .error (.integerTooLong n) => .error (.integerTooLong n)
      | .error .deepList => .error (.tooDeep false)
      | .error .deepObject => .error (.tooDeep true)
      | .ok (.object members) => .ok members
      | .ok _ => .error (.badInput "Request body must be a JSON object")

/-- The members of a body. Its size is checked first, and no byte past that size is read. -/
def readBody (settings : Settings) (declared? : Option Json) (bytes : List Nat) :
    Except Failure (List (Text × Json)) := do
  let size := declaredSize declared? bytes
  checkSize settings.maxBodySize size
  parseMembers (bytes.take ((size.toOption.getD 0).toNat))

/-! ### The submissions of the registry -/

/-- A text of limited length that must not be blank. -/
def shortText (name : Text) (most : Nat) : Field :=
  ⟨name, .text (some most) true false, none, false⟩

/-- The kind of a certificate. -/
def kindField : Field := { name := "type", kind := .kind }

/-- The id of a user, 0 for none. -/
def userIdField (name : Text) : Field := { name, kind := .natural, default? := some (.number 0) }

/-- Why a certificate is asked for, or refused. -/
def reasonField : Field := { name := "reason", kind := .text none true false }

/-- When a certificate ends. -/
def expiresField : Field := { name := "expiration_date", kind := .moment }

/-- A certificate that was issued elsewhere. -/
def certificateSchema : Schema :=
  [shortText "name" 255, kindField,
    { name := "owner", kind := .text (some 150) true true, default? := some (.text []) },
    userIdField "owner_id",
    { name := "content", kind := .text none false false },
    { name := "issued_date", kind := .moment, default? := some .absent, nullable := true },
    expiresField]

/-- The new name and end of a certificate. -/
def changeSchema : Schema := [shortText "name" 255, expiresField]

/-- A request that an administrator makes for a user. -/
def requestSchema : Schema :=
  [shortText "user_name" 150, userIdField "user_id", kindField, reasonField]

/-- A request that a tenant makes. -/
def tenantRequestSchema : Schema := [kindField, reasonField]

/-- The reason of a rejection. -/
def rejectionSchema : Schema := [reasonField]

end CertRegistry.Input
