import CertRegistry.Http.Route
import CertRegistry.Json.Basic

/-!
# Names of routes

Every route has a name, and one with an id has a name for that argument too. A path can be written
by the name of its route and the values of its arguments, as long as they have the form in which
it is read.
-/

namespace CertRegistry

namespace Route

/-- The name of a route. -/
def name : Route → Text
  | certificates => "certificate_list"
  | newCertificate => "create_certificate"
  | updateCertificate _ => "update_certificate"
  | deleteCertificate _ => "delete_certificate"
  | revokeCertificate _ => "revoke_certificate"
  | requests => "certificate_request_list"
  | newRequest => "create_certificate_request"
  | approveRequest _ => "approve_certificate_request"
  | rejectRequest _ => "reject_certificate_request"
  | download => "download_certificate"
  | submit => "tenant_create_request"
  | ownCertificate => "tenant_certificate"
  | ownRequests => "tenant_requests"

/-- The name and the value of the argument of a route, if it has one. -/
def argument? : Route → Option (Text × Nat)
  | updateCertificate id | deleteCertificate id | revokeCertificate id => some ("cert_id", id)
  | approveRequest id | rejectRequest id => some ("request_id", id)
  | _ => none

namespace Pattern

/-- The name of the routes of a pattern. -/
def name : Pattern → Text
  | fixed _ route => route.name
  | numbered _ _ route => (route 0).name

/-- The form of a pattern as a regular expression, with its argument as a group. -/
def text : Pattern → Text
  | fixed ws _ => Text.join "/" ws ++ "/\\Z"
  | numbered before after route =>
    let argument := ((route 0).argument?.map (·.1)).getD []
    Text.join "/" (before ++ ("(?P<" ++ argument ++ ">[0-9]+)") :: after) ++ "/\\Z"

/-- The path of a pattern with the texts of its arguments, if there are as many of them as it has
places and each has the form of its place. -/
def path? : Pattern → List Text → Option Text
  | fixed ws _, [] => some (pathOf ws)
  | numbered before after _, [numeral] =>
    if isNumeral numeral then some (pathOf (before ++ numeral :: after)) else none
  | _, _ => none

end Pattern

/-- Why no path can be written. -/
inductive NameError
  | unknown (name : Text)
  /-- There is no group of routes with this name below that of the registry. -/
  | noGroup (name : Text)
  | unfit (pattern : Pattern) (arguments : List Json)

/-- The wording of the refusal to write a path. -/
def NameError.message : NameError → Text
  | unknown name =>
    "Reverse for '" ++ name ++ "' not found. '" ++ name
      ++ "' is not a valid view function or pattern name."
  | noGroup name => name.quoted ++ " is not a registered namespace inside 'certificates'"
  | unfit pattern arguments =>
    let given : Text :=
      match arguments with
      | [] => "no arguments"
      | [v] => "arguments '(" ++ v.quoted ++ ",)'"
      | vs => "arguments '(" ++ Json.quotedItems vs ++ ")'"
    "Reverse for '" ++ pattern.name ++ "' with " ++ given ++ " not found. 1 pattern(s) tried: ["
      ++ pattern.text.quoted ++ "]"

/-- The path of the route with a name, given the values of its arguments. A name with a colon is
that of a route in a group, and there are no groups. -/
def pathByName (name : Text) (arguments : List Json) : Except NameError Text :=
  match name.cut 58 with
  | (group, some _) => .error (.noGroup group)
  | (_, none) =>
    match patterns.find? fun p => p.name = name with
    | none => .error (.unknown name)
    | some p =>
      match p.path? (arguments.map Json.shown) with
      | some path => .ok path
      | none => .error (.unfit p arguments)

end Route

end CertRegistry
