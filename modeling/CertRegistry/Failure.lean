import CertRegistry.Json.Basic

/-!
# Failures

Everything that can stop an operation, by its cause. A failure has a wording and the status of
the reply that reports it. Failures of the registry's own rules are told apart from those of the
storage, of the clock and of conversions: a bulk action passes over the former, and those of them
that the caller can mend are reported as a bad request.
-/

namespace CertRegistry

/-- What is wrong with the text of a time: it has no form that is read, it has the form of a date
and a time and is none, or it has the form of a date and is none. -/
inductive TimestampFault
  | form
  | dateTime
  | date
deriving DecidableEq, Repr

/-- Why an operation did not succeed. -/
inductive Failure
  /-- The caller's input is unusable. -/
  | badInput (message : Text)
  /-- There is no such certificate. -/
  | certificateMissing (lookup : Text)
  /-- There is no such request. -/
  | requestMissing (id : Text)
  /-- The tenant holds an active certificate. -/
  | certificateExists
  /-- The tenant has a pending request. -/
  | requestExists
  /-- The request is not pending any more. -/
  | alreadyDecided (status : Text)
  /-- The storage broke down. -/
  | storage (message : Text)
  /-- A column that must hold a value would hold none. -/
  | emptyColumn (table column : Text)
  /-- A column for natural numbers would hold a negative one. -/
  | negativeColumn (column : Text)
  /-- A whole number is too large for its column. -/
  | columnOverflow
  /-- A row would have the same value in a column as another one, where no two rows may. -/
  | duplicate (table column : Text)
  /-- A table has given out its last id. -/
  | tableFull
  /-- A text with surrogates cannot be stored. -/
  | unencodable (text : Text)
  /-- A value for a column of whole numbers is none. -/
  | noNumber (column : Text) (value : Json)
  /-- A value is no integer. -/
  | noInteger (cause : Json.IntegerFailure)
  /-- A number in a body has too many digits. -/
  | integerTooLong (digits : Nat)
  /-- Lists and objects in a body lie too deep inside one another, the last one being an object
  or a list. -/
  | tooDeep (inObject : Bool)
  /-- Two values have no order. -/
  | unordered (sign : Text) (left right : Json)
  /-- A value is no number of days. -/
  | noDays (value : Json)
  /-- A number of days does not fit a machine integer. -/
  | daysOverflow
  /-- A number of days is too large for a span of time. -/
  | spanOverflow (days : Int)
  /-- A date lies outside the years 1 to 9999. -/
  | dateOverflow
  /-- A stored date lies past the year 9999 in the registry's zone. -/
  | zoneOverflow
  /-- A text is no date and time in the compact form. -/
  | noMoment (text : Text)
  /-- A value that should write a date and a time is no text. -/
  | noMomentText
  /-- A text in a column of times is none. -/
  | badTimestamp (text : Text) (fault : TimestampFault)
  /-- A record has no columns of these names. -/
  | unknownColumns (record : Text) (names : List Text)
  /-- A value was given for what a record computes. -/
  | computedColumn (record name : Text)
  /-- A setting is missing, and there is nothing to fall back to. -/
  | unsettled
  /-- A query string has too many fields. -/
  | tooManyFields
  /-- A body is too large. -/
  | bodyTooLarge
  /-- The addresses that a call was passed on from are no text. -/
  | noAddresses (value : Json)
  /-- A page number is no integer. -/
  | badPage
  /-- A page size is zero. -/
  | emptyPage
  /-- A number is not the status of a reply. -/
  | badStatus
  /-- A value is no number that could be the status of a reply. -/
  | noStatus
  /-- The secret of the deployment is empty. -/
  | noSecret
  /-- A look-up by id that must succeed found no row. -/
  | noRow (model : Text)

namespace Failure

/-- The words for a date that is out of range in the zone. -/
def outOfRange : Text := "时间数值超出有效范围。"

/-- The first stretch of surrogates of a text: its first position, its length and its first
surrogate. -/
def surrogateStretch (t : Text) : Nat × Nat × Nat :=
  let before := t.takeWhile (!Text.isSurrogate ·)
  let stretch := (t.drop before.length).takeWhile Text.isSurrogate
  (before.length, stretch.length, stretch.headD 0)

/-- The words for a text that cannot be encoded. -/
def unencodableMessage (t : Text) : Text :=
  let (start, length, first) := surrogateStretch t
  let place : Text :=
    if length ≤ 1 then " '\\u" ++ Text.hex 4 first ++ "' in position " ++ Text.ofNat start
    else "s in position " ++ Text.ofNat start ++ "-" ++ Text.ofNat (start + length - 1)
  "'utf-8' codec can't encode character" ++ place ++ ": surrogates not allowed"

/-- The words for a text that is no time. -/
def timestampMessage (t : Text) (fault : TimestampFault) : Text :=
  let subject : Text := "“" ++ t ++ "”的值有"
  match fault with
  | .form =>
    subject ++ "一个错误的日期格式。它的格式应该是YYYY-MM-DD HH:MM[:ss[.uuuuuu]][TZ] "
  | .dateTime =>
    subject ++ "正确的格式 (YYYY-MM-DD HH:MM[:ss[.uuuuuu]][TZ]) 但它是一个错误的日期/时间"
  | .date => subject ++ "正确的格式（YYYY-MM-DD）但它是一个错误的日期"

/-- The wording of a failure. -/
def message : Failure → Text
  | badInput m => m
  | certificateMissing lookup => "certificate not found: " ++ lookup
  | requestMissing id => "failed to get request by id: " ++ id ++ ": record not found"
  | certificateExists => "certificate already exists for user"
  | requestExists => "certificate request is pending for user"
  | alreadyDecided status => "request is not pending, current status: " ++ status
  | storage m => m
  | emptyColumn table column => "NOT NULL constraint failed: " ++ table ++ "." ++ column
  | negativeColumn column => "CHECK constraint failed: " ++ column
  | columnOverflow => "Python int too large to convert to SQLite INTEGER"
  | duplicate table column => "UNIQUE constraint failed: " ++ table ++ "." ++ column
  | tableFull => "database or disk is full"
  | unencodable t => unencodableMessage t
  | noNumber column value =>
    "Field '" ++ column ++ "' expected a number but got " ++ value.quoted ++ "."
  | noInteger cause => cause.message
  | integerTooLong digits => IntegerError.tooLongMessage digits
  | tooDeep inObject =>
    let place : Text := if inObject then "object" else "array"
    "maximum recursion depth exceeded while decoding a JSON " ++ place ++ " from a unicode string"
  | unordered sign left right =>
    "'" ++ sign ++ "' not supported between instances of '" ++ left.typeName ++ "' and '"
      ++ right.typeName ++ "'"
  | noDays value => "unsupported type for timedelta days component: " ++ value.typeName
  | daysOverflow => "Python int too large to convert to C int"
  | spanOverflow days =>
    "days=" ++ Text.ofInt days ++ "; must have magnitude <= 999999999"
  | dateOverflow => "date value out of range"
  | zoneOverflow => "[ErrorDetail(string='" ++ outOfRange ++ "', code='overflow')]"
  | noMoment t => "Invalid isoformat string: " ++ t.quoted
  | noMomentText => "fromisoformat: argument must be str"
  | badTimestamp t fault => "[" ++ (timestampMessage t fault).quoted ++ "]"
  | unknownColumns record names =>
    record ++ "() got unexpected keyword arguments: " ++ Text.join ", " (names.map Text.quoted)
  | computedColumn record name =>
    "property '" ++ name ++ "' of '" ++ record ++ "' object has no setter"
  | unsettled => []
  | tooManyFields =>
    Text.ofString
      "The number of GET/POST parameters exceeded settings.DATA_UPLOAD_MAX_NUMBER_FIELDS."
  | bodyTooLarge => "Request body exceeded settings.DATA_UPLOAD_MAX_MEMORY_SIZE."
  | noAddresses value => "'" ++ value.typeName ++ "' object has no attribute 'split'"
  | badPage => "页码不是整数"
  | emptyPage => "division by zero"
  | badStatus => "HTTP status code must be an integer from 100 to 599."
  | noStatus => "HTTP status code must be an integer."
  | noSecret => "The SECRET_KEY setting must not be empty."
  | noRow model => model ++ " matching query does not exist."

/-- The status of a reply that reports the failure. -/
def status : Failure → Nat
  | badInput _ | certificateExists | requestExists | zoneOverflow => 400
  | _ => 500

/-- A failure of the registry's own rules. -/
def isRule : Failure → Bool
  | badInput _ | certificateMissing _ | requestMissing _ | certificateExists | requestExists
  | alreadyDecided _ => true
  | _ => false

/-- A failure that the caller can mend. -/
def isRefusal (f : Failure) : Bool := f.isRule && decide (f.status < 500)

end Failure

end CertRegistry
