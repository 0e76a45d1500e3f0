import CertRegistry.Text.Utf8

/-!
# Query strings

Fields of a query string or of a submitted form: `name=value` parts joined by `&`, with `+` for a
space and percent escapes for the bytes of UTF-8.
-/

namespace CertRegistry.Text.Query

/-- The bytes of an ASCII text with its percent escapes decoded; a malformed escape is kept. -/
def percentDecode : Text → List Nat
  | 37 :: a :: b :: r =>
    match hexValue? a, hexValue? b with
    | some x, some y => (16 * x + y) :: percentDecode r
    | _, _ => 37 :: percentDecode (a :: b :: r)
  | c :: r => c :: percentDecode r
  | [] => []

/-- The text that a part of a field writes: its ASCII runs are decoded, all else is kept. -/
def unescape (t : Text) : Text :=
  (t.splitBy fun a b => decide (a < 128) == decide (b < 128)).flatMap fun run =>
    if run.all (· < 128) then Utf8.decodeLenient (percentDecode run) else run

/-- The name and the value of a part, the value empty where no equals sign stands. -/
def field (part : Text) : Text × Text :=
  let halves := (part.replace 43 32).cut 61
  (unescape halves.1, unescape (halves.2.getD []))

/-- The number of parts of a query string; an empty one has none. -/
def partCount (t : Text) : Nat := if t = [] then 0 else (t.splitOn 38).length

/-- The fields of a query string in order. -/
def fields (t : Text) : List (Text × Text) := ((t.splitOn 38).filter (· ≠ [])).map field

/-- The value of a field; the last one counts where a name is repeated. -/
def get? (fields : List (Text × Text)) (name : Text) : Option Text :=
  (fields.reverse.find? fun f => f.1 = name).map (·.2)

end CertRegistry.Text.Query
