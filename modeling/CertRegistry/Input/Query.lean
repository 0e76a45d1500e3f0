import CertRegistry.Failure
import CertRegistry.Settings.Basic
import CertRegistry.Text.Query

/-!
# Fields of a query string or a form

A query string is read only if it has no more parts than the settings allow, empty parts included.
The parts are counted and compared before any is read.
-/

namespace CertRegistry.Input

/-- Fails if a query string or a form has more parts than there may be. -/
def checkFields (limit? : Option Json) (count : Nat) : Except Failure Unit :=
  match limit? with
  | none => .error .unsettled
  | some .null => .ok ()
  | some limit =>
    match limit.less (.int count) with
    | .ok true => .error .tooManyFields
    | .ok false => .ok ()
    | .error (v, w) => .error (.unordered "<" v w)

/-- The fields of a query string or a form in order, unless it has too many parts. -/
def readFields (settings : Settings) (t : Text) : Except Failure (List (Text × Text)) := do
  checkFields settings.maxFields (Text.Query.partCount t)
  return Text.Query.fields t

end CertRegistry.Input
