import CertRegistry.Text.Blank
import CertRegistry.Text.DecimalDigit
import CertRegistry.Text.Utf8
import CertRegistry.Time.Moment

/-!
# Reading dates and times

A moment is written as a date, a separator and a time, with an offset from UTC or without one.
Three forms are tried in order:

* the compact form of ISO 8601, read byte by byte, with calendar or week dates, with colons or
  without, and with any single code point as separator;
* the spaced form, which allows single digits, digits of all scripts and blanks before the offset;
* the words `iso-8601`, which name the start of the year 1900.
-/

namespace CertRegistry

namespace Moment

/-- A moment from its parts, if they are a date of the years 1 to 9999 and a time of day, and the
offset is below a day. -/
def ofParts? (day' : Nat) (hour' minute' second' microsecond : Nat) (offset? : Option Int) :
    Option Moment :=
  if hour' < 24 ∧ minute' < 60 ∧ second' < 60 ∧ (∀ o ∈ offset?, -day < o ∧ o < day) then
    some ⟨day' * day + hour' * hour + minute' * minute + second' * second + microsecond, offset?⟩
  else none

/-- The number of a date, if it is one. -/
def dayNumber? (year month day' : Nat) : Option Nat :=
  let d : Date := ⟨year, month, day'⟩
  if d.isValid then some d.toNumber else none

namespace Compact

/-- The byte in front, and 0 at the end. -/
def front (t : List Nat) : Nat := t.headD 0

/-- The number in front of a text, written with exactly so many ASCII digits, and the rest. -/
def digits? (count : Nat) (t : List Nat) : Option (Nat × List Nat) :=
  let ds := t.take count
  if ds.length = count ∧ ds.all Text.isAsciiDigit then
    some (Text.digitsValue (ds.map (· - 48)), t.drop count)
  else none

/-- Where the separator between date and time stands. In a week date the day of the week may be
missing, and without hyphens the parity of the digit run decides whether it is. -/
def separatorIndex (t : List Nat) : Nat :=
  let at' (i : Nat) := t.getD i 0
  if t.length = 7 then 7
  else if at' 4 = 45 then
    if at' 5 = 87 then
      if at' 8 = 45 then if 10 < t.length ∧ Text.isAsciiDigit (at' 10) then 8 else 10
      else 8
    else 10
  else if at' 4 = 87 then
    let i := 7 + ((t.drop 7).takeWhile Text.isAsciiDigit).length
    if i < 9 then i else if i % 2 = 0 then 7 else 8
  else 8

/-- The day that the first `length` bytes write, and whether nothing follows it there. What follows
the day of the week does not count. -/
def dayIn? (length : Nat) (t : List Nat) : Option (Nat × Bool) := do
  let (year, r) ← digits? 4 t
  let dashed := front r = 45
  let r := if dashed then r.drop 1 else r
  if front r = 87 then
    let (week, r) ← digits? 2 (r.drop 1)
    if t.length - r.length < length then
      if dashed ∧ front r ≠ 45 then none
      else
        let (weekday, _) ← digits? 1 (if dashed then r.drop 1 else r)
        return (← Date.ofWeek? year week weekday, true)
    else return (← Date.ofWeek? year week 1, true)
  else
    let (month, r) ← digits? 2 r
    if dashed ∧ front r ≠ 45 then none
    else
      let (day', r) ← digits? 2 (if dashed then r.drop 1 else r)
      return (← dayNumber? year month day', decide (t.length - r.length = length))

/-- The day that the first `length` bytes write. -/
def date? (length : Nat) (t : List Nat) : Option Nat := do
  let (d, complete) ← dayIn? length t
  if complete then some d else none

/-- A time of day or an offset, and whether nothing follows it. -/
structure Clock where
  hour : Nat
  minute : Nat
  second : Nat
  microsecond : Nat
  complete : Bool

/-- The fraction of a second at the end of a part of `length` bytes. Six digits are read and
further ones skipped. -/
def fraction? (length : Nat) (t : List Nat) : Option (Nat × Bool) := do
  let count := min length 6
  let (n, r) ← digits? count t
  return (n * Nat.pow 10 (6 - count), front (r.dropWhile Text.isAsciiDigit) = 0)

/-- The fields of a clock from the first one missing on: up to three of two digits, then a
fraction. With `colons`, a colon must stand between two fields. -/
def clockFrom? (fields : List Nat) (colons : Bool) : Nat → Nat → List Nat → Option Clock
  | 0, length, t => do
    let (n, complete) ← fraction? length t
    return ⟨fields.getD 0 0, fields.getD 1 0, fields.getD 2 0, n, complete⟩
  | missing + 1, length, t => do
    let (n, r) ← digits? 2 t
    let fields := fields ++ [n]
    let mark := front r
    let colons := if fields.length = 1 then mark = 58 else colons
    if length ≤ 3 then
      return ⟨fields.getD 0 0, fields.getD 1 0, fields.getD 2 0, 0, mark = 0⟩
    else if colons ∧ mark = 58 then clockFrom? fields colons missing (length - 3) (r.drop 1)
    else if mark = 46 ∨ mark = 44 then
      let (n, complete) ← fraction? (length - 3) (r.drop 1)
      return ⟨fields.getD 0 0, fields.getD 1 0, fields.getD 2 0, n, complete⟩
    else if colons then none
    else clockFrom? fields colons missing (length - 2) r

/-- The clock in the first `length` bytes. -/
def clock? (length : Nat) (t : List Nat) : Option Clock := clockFrom? [] true 3 length t

/-- A byte that opens an offset: a plus sign, a hyphen, or the letter for UTC. -/
def opensOffset (b : Nat) : Bool := b = 43 || b = 45 || b = 90

/-- A time with an optional offset. What follows the time must be nothing or an offset; in front
of an offset some bytes that belong to neither are passed over. -/
def time? (day' : Nat) (t : List Nat) : Option Moment := do
  let length := (t.takeWhile (!opensOffset ·)).length
  let c ← clock? length t
  match t.drop length with
  | [] => if c.complete then ofParts? day' c.hour c.minute c.second c.microsecond none else none
  | mark :: r =>
    if mark = 90 then
      if front r = 0 then ofParts? day' c.hour c.minute c.second c.microsecond (some 0) else none
    else
      let o ← clock? r.length r
      let seconds : Int := o.hour * hour + o.minute * minute + o.second * second
      let size : Int := if seconds = 0 then 0 else seconds + o.microsecond
      if o.complete then
        ofParts? day' c.hour c.minute c.second c.microsecond
          (some (if mark = 45 then -size else size))
      else none

/-- The number of bytes of the code point that a byte opens. -/
def pointLength (b : Nat) : Nat :=
  if b < 0x80 then 1
  else if b / 16 = 0xE then 3
  else if b / 16 = 0xF then 4
  else 2

/-- A text with the first surrogate at a place where a separator may stand made a letter. -/
def mendSeparator (t : Text) : Text :=
  match [7, 8, 10].find? fun i => Text.isSurrogate (t.getD i 0) with
  | some i => t.set i 84
  | none => t

/-- The moment that a text writes in the compact form. -/
def read? (t : Text) : Option Moment :=
  let t := mendSeparator t
  if t.any Text.isSurrogate then none
  else
    let bytes := Text.Utf8.encode t
    let length := separatorIndex bytes
    if bytes.length < 7 then none
    else
      match date? length bytes with
      | none => none
      | some day' =>
        match bytes.drop length with
        | [] => ofParts? day' 0 0 0 0 none
        | mark :: _ => time? day' (bytes.drop (length + pointLength mark))

/-- The start of the day that a text of 7, 8 or 10 bytes writes in the compact form, without a time.
What follows the day is passed over. -/
def readDay? (t : Text) : Option Moment :=
  let bytes := Text.Utf8.encode t
  if t.any Text.isSurrogate ∨ bytes.length ∉ [7, 8, 10] then none
  else (dayIn? bytes.length bytes).map fun d => ⟨d.1 * day, none⟩

end Compact

namespace Spaced

/-- A number in front of a text, of at least `least` and at most `most` digits of any script. -/
def digits? (least most : Nat) (t : Text) : Option (List Nat × Text) :=
  let ds := (t.take most).takeWhile Text.isDigit
  if least ≤ ds.length then some (ds.filterMap Text.digitValue?, t.drop ds.length) else none

/-- The rest of a text after one of some code points. -/
def after? (marks : List Nat) : Text → Option Text
  | c :: r => if c ∈ marks then some r else none
  | [] => none

/-- The seconds and the fraction, both optional. -/
def seconds (t : Text) : Nat × Nat × Text :=
  match (after? [58] t).bind (digits? 1 2) with
  | none => (0, 0, t)
  | some (s, r) =>
    match (after? [46, 44] r).bind (digits? 1 12) with
    | none => (Text.digitsValue s, 0, r)
    | some (f, r') =>
      let six := f.take 6
      (Text.digitsValue s, Text.digitsValue six * Nat.pow 10 (6 - six.length), r')

/-- The optional offset: the letter for UTC, or a sign, two digits and perhaps two more, with or
without a colon. -/
def offset (t : Text) : Option Int × Text :=
  match t with
  | 90 :: r => (some 0, r)
  | c :: r =>
    if c = 43 ∨ c = 45 then
      match digits? 2 2 r with
      | none => (none, t)
      | some (h, r) =>
        let (m, r) := match digits? 2 2 ((after? [58] r).getD r) with
          | some (m, r') => (Text.digitsValue m, r')
          | none => (0, r)
        let size : Int := Text.digitsValue h * hour + m * minute
        (some (if c = 45 then -size else size), r)
    else (none, t)
  | [] => (none, t)

/-- The moment that a text writes in the spaced form: `none` where the text has not this form,
`some none` where it has it and its parts are out of range. -/
def read? (t : Text) : Option (Option Moment) := do
  let (year, r) ← digits? 4 4 t
  let (month, r) ← (after? [45] r).bind (digits? 1 2)
  let (day', r) ← (after? [45] r).bind (digits? 1 2)
  let (hour', r) ← (after? [84, 32] r).bind (digits? 1 2)
  let (minute', r) ← (after? [58] r).bind (digits? 1 2)
  let (second', microsecond, r) := seconds r
  let (offset?, r) := offset (r.dropWhile Text.isBlank)
  if r = [] ∨ r = [10] then
    let day? := dayNumber? (Text.digitsValue year) (Text.digitsValue month) (Text.digitsValue day')
    return day?.bind fun d =>
      ofParts? d (Text.digitsValue hour') (Text.digitsValue minute') second' microsecond offset?
  else none

/-- The start of the day that a text writes in the spaced form, without a time: `none` where the
text has not this form, `some none` where it has it and there is no such day. -/
def readDay? (t : Text) : Option (Option Moment) := do
  let (year, r) ← digits? 4 4 t
  let (month, r) ← (after? [45] r).bind (digits? 1 2)
  let (day', r) ← (after? [45] r).bind (digits? 1 2)
  if r = [] ∨ r = [10] then
    let day? := dayNumber? (Text.digitsValue year) (Text.digitsValue month) (Text.digitsValue day')
    return day?.map fun d => ⟨d * day, none⟩
  else none

end Spaced

/-- The words `iso-8601` in letters of either case; the dotted and the dotless i and the long s
count as letters of either case too. -/
def isFormatName (t : Text) : Bool :=
  match t with
  | [i, s, o, 45, 56, 54, 48, 49] =>
    (i = 105 || i = 73 || i = 0x130 || i = 0x131) && (s = 115 || s = 83 || s = 0x17F)
      && (o = 111 || o = 79)
  | _ => false

/-- The moment that a text writes. -/
def read? (t : Text) : Option Moment :=
  match Compact.read? t with
  | some m => some m
  | none =>
    match Spaced.read? t with
    | some m => m
    | none => if isFormatName t then some ⟨(Date.mk 1900 1 1).toNumber * day, none⟩ else none

end Moment

end CertRegistry
