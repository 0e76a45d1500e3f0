import CertRegistry.Failure
import CertRegistry.Certificate.Basic
import CertRegistry.Time.Iso

/-!
# Fields of a submission

A field takes a JSON value, or none, and gives the value that it stands for or the messages that
refuse it. The first step that fails refuses the value; only the checks at the end all run. A
local time without an offset whose instant lies before the year 1 is no refusal but a failure.
-/

namespace CertRegistry.Input

/-- A value of a field. -/
inductive Value
  | absent
  | text (t : Text)
  | number (n : Int)
  | moment (m : Moment)
deriving DecidableEq

/-- What a field takes. -/
inductive FieldKind
  /-- A text of limited or unlimited length, trimmed or kept, blank or not. -/
  | text (most : Option Nat) (trimmed blank : Bool)
  /-- One of the declared kinds of certificates. -/
  | kind
  /-- A natural number. -/
  | natural
  /-- A date and a time. -/
  | moment
deriving DecidableEq

/-- A field: its name, what it takes, the value that stands for a missing one, and whether it may
be null. -/
structure Field where
  name : Text
  kind : FieldKind
  default? : Option Value := none
  nullable : Bool := false

namespace Message

/-- A field that must be there is missing. -/
def required : Text := "该字段是必填项。"

/-- A field is null and must not be. -/
def null : Text := "该字段不能为 null。"

/-- A text is blank and must not be. -/
def blank : Text := "该字段不能为空。"

/-- A value is no text. -/
def noText : Text := "不是有效的字符串。"

/-- A text is too long. -/
def tooLong (most : Nat) : Text := "请确保这个字段不能超过 " ++ Text.ofNat most ++ " 个字符。"

/-- A text holds U+0000. -/
def zero : Text := "不允许是用空字符串。"

/-- A text holds a surrogate. -/
def surrogate (c : Nat) : Text :=
  "不允许使用代理字符: U+" ++ (Text.hex 4 c).map (fun d => if 97 ≤ d then d - 32 else d) ++ "。"

/-- A value is none of the declared ones. -/
def noChoice (v : Json) : Text := "“" ++ v.shown ++ "” 不是合法选项。"

/-- A value is no integer. -/
def noInteger : Text := "请填写合法的整数值。"

/-- A number is negative. -/
def negative : Text := "请确保该值大于或者等于 0。"

/-- The text of a number is too long. -/
def longNumber : Text := "字符串值太长。"

/-- A text is no date and time. -/
def noMoment : Text :=
  Text.ofString
    "日期时间格式错误。请从这些格式中选择：YYYY-MM-DDThh:mm[:ss[.uuuuuu]][+HH:MM|-HH:MM|Z]。"

/-- A date and time is out of range. -/
def momentOverflow : Text := Failure.outOfRange

end Message

/-- The messages of the checks that a text does not pass. -/
def textFaults (most : Option Nat) (t : Text) : List Text :=
  let long := match most with
    | some n => if n < t.length then [Message.tooLong n] else []
    | none => []
  let zero := if 0 ∈ t then [Message.zero] else []
  let surrogate := (t.find? Text.isSurrogate).map Message.surrogate
  long ++ zero ++ surrogate.toList

/-- The text that a value stands for. A truth value stands for none, a number for its digits. -/
def plainText? : Json → Option Text
  | .text t => some t
  | .int n => some (Text.ofInt n)
  | .float x => some x.text
  | _ => none

/-- A text that counts as blank. -/
def isBlankText (trimmed : Bool) (t : Text) : Bool := (if trimmed then t.strip else t) = []

/-- Reads a text. -/
def readText (most : Option Nat) (trimmed blank : Bool) (v : Json) : Except (List Text) Value :=
  match plainText? v with
  | none => .error [Message.noText]
  | some t =>
    if isBlankText trimmed t then if blank then .ok (.text []) else .error [Message.blank]
    else
      let t := if trimmed then t.strip else t
      match textFaults most t with
      | [] => .ok (.text t)
      | faults => .error faults

/-- Reads a kind of certificates; nothing is trimmed. -/
def readKind (v : Json) : Except (List Text) Value :=
  if v.shown ∈ kindNames then .ok (.text v.shown) else .error [Message.noChoice v]

/-- A text without a point at its end, nor zeros and blanks after that point. -/
def dropWholePoint (t : Text) : Text :=
  match (t.reverse.dropWhile Text.isBlank).dropWhile (· = 48) with
  | 46 :: r => r.reverse
  | _ => t

/-- The longest text of a number. -/
def maxNumberText : Nat := 1000

/-- Reads a natural number. -/
def readNatural (v : Json) : Except (List Text) Value :=
  let long := match v with
    | .text t => decide (maxNumberText < t.length)
    | _ => false
  if long then .error [Message.longNumber]
  else
    match Integer.ofText (dropWholePoint v.shown) with
    | .error _ => .error [Message.noInteger]
    | .ok n => if n < 0 then .error [Message.negative] else .ok (.number n)

/-- Reads a date and time. One with an offset is shown in the registry's zone, one without is
taken as a local time there. -/
def readMoment (v : Json) : Except Failure (Except (List Text) Value) :=
  match v with
  | .text t =>
    match Moment.read? t with
    | none => .ok (.error [Message.noMoment])
    | some m =>
      match m.inZone? with
      | none => .ok (.error [Message.momentOverflow])
      | some m => if inRange m.instant then .ok (.ok (.moment m)) else .error .dateOverflow
  | _ => .ok (.error [Message.noMoment])

/-- Reads a value that is there and not null. -/
def FieldKind.read (k : FieldKind) (v : Json) : Except Failure (Except (List Text) Value) :=
  match k with
  | .text most trimmed blank => .ok (readText most trimmed blank v)
  | .kind => .ok (readKind v)
  | .natural => .ok (readNatural v)
  | .moment => readMoment v

/-- Reads what a submission has for a field. -/
def Field.read (f : Field) : Option Json → Except Failure (Except (List Text) Value)
  | none =>
    match f.default? with
    | some v => .ok (.ok v)
    | none => .ok (.error [Message.required])
  | some .null => .ok (if f.nullable then .ok .absent else .error [Message.null])
  | some v => f.kind.read v

end CertRegistry.Input
