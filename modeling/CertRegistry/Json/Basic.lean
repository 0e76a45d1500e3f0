import CertRegistry.Number.Integer
import CertRegistry.Number.Shortest
import CertRegistry.Text.Quoted

/-!
# JSON values

The values of a JSON body, with whole numbers apart from doubles, and their texts. A text shows
itself when it stands alone and in quotes inside a list or an object; the constants are spelled
`None`, `True` and `False`.
-/

namespace CertRegistry

/-- A JSON value. -/
inductive Json
  | null
  | bool (b : Bool)
  | int (n : Int)
  | float (x : Double)
  | text (t : Text)
  | list (items : List Json)
  | object (members : List (Text × Json))
deriving Inhabited

namespace Json

mutual

/-- The text of a value inside a list or an object. -/
def quoted : Json → Text
  | .null => "None"
  | .bool b => if b then "True" else "False"
  | .int n => Text.ofInt n
  | .float x => x.text
  | .text t => t.quoted
  | .list items => "[" ++ quotedItems items ++ "]"
  | .object members => "\x7b" ++ quotedMembers members ++ "\x7d"

/-- The texts of the items of a list, with commas between them. -/
def quotedItems : List Json → Text
  | [] => []
  | [v] => quoted v
  | v :: w :: r => quoted v ++ ", " ++ quotedItems (w :: r)

/-- The texts of the members of an object, with commas between them. -/
def quotedMembers : List (Text × Json) → Text
  | [] => []
  | [(k, v)] => k.quoted ++ ": " ++ quoted v
  | (k, v) :: m :: r => k.quoted ++ ": " ++ quoted v ++ ", " ++ quotedMembers (m :: r)

end

/-- The text of a value that stands alone. -/
def shown : Json → Text
  | .text t => t
  | v => quoted v

/-- The value of a member. -/
def member? (members : List (Text × Json)) (name : Text) : Option Json := members.lookup name

/-- Sets a member: a name that is there keeps its place, a new one goes last. -/
def setMember (name : Text) (value : Json) : List (Text × Json) → List (Text × Json)
  | [] => [(name, value)]
  | (k, v) :: r => if k = name then (k, value) :: r else (k, v) :: setMember name value r

/-- Why a value is no integer. -/
inductive IntegerFailure
  | text (t : Text) (cause : IntegerError)
  | noNumber (value : Json)
  | notANumber
  | infinite

/-- The integer that a value stands for: a truth value is 0 or 1, a double loses its fraction, and
a text is read. -/
def toInteger : Json → Except IntegerFailure Int
  | .bool b => .ok (if b then 1 else 0)
  | .int n => .ok n
  | .float x =>
    match x.truncate? with
    | some n => .ok n
    | none => .error (if x = .nan then .notANumber else .infinite)
  | .text t =>
    match Integer.ofText t with
    | .ok n => .ok n
    | .error e => .error (.text t e)
  | v => .error (.noNumber v)

/-- The name of the type of a value that is no number. -/
def typeName : Json → Text
  | .null => "NoneType"
  | .bool _ => "bool"
  | .int _ => "int"
  | .float _ => "float"
  | .text _ => "str"
  | .list _ => "list"
  | .object _ => "dict"

end Json

/-- The text of a refusal to read an integer with too many digits. -/
def IntegerError.tooLongMessage (digits : Nat) : Text :=
  "Exceeds the limit (4300 digits) for integer string conversion: value has "
    ++ Text.ofNat digits ++ " digits; use sys.set_int_max_str_digits() to increase the limit"

/-- The text of a refusal to read an integer. -/
def Json.IntegerFailure.message : Json.IntegerFailure → Text
  | .text t .malformed => "invalid literal for int() with base 10: " ++ t.quoted.take 200
  | .text _ (.tooLong n) => IntegerError.tooLongMessage n
  | .noNumber v =>
    "int() argument must be a string, a bytes-like object or a real number, not '"
      ++ v.typeName ++ "'"
  | .notANumber => "cannot convert float NaN to integer"
  | .infinite => "cannot convert float infinity to integer"

end CertRegistry
