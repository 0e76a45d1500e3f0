import CertRegistry.Number.Integer

/-!
# Routes

The paths that the registry answers. A route has fixed words between slashes; some have an id
among them, written in ASCII digits. Resolving a path and writing the path of a route are inverse
up to leading zeros of the id.
-/

namespace CertRegistry

/-- A place that a call can be sent to. -/
inductive Route
  | certificates
  | newCertificate
  | updateCertificate (id : Nat)
  | deleteCertificate (id : Nat)
  | revokeCertificate (id : Nat)
  | requests
  | newRequest
  | approveRequest (id : Nat)
  | rejectRequest (id : Nat)
  | download
  | submit
  | ownCertificate
  | ownRequests
deriving DecidableEq, Repr

namespace Route

/-- The form of the paths of a route: words between slashes, or words around an id. -/
inductive Pattern
  | fixed (words : List Text) (route : Route)
  | numbered (before after : List Text) (route : Nat → Route)

/-- The words of a list of strings below the root of the registry. -/
def words (ws : List Text) : List Text := "certificates" :: ws

/-- The patterns in order. -/
def patterns : List Pattern :=
  [.fixed (words ["admin", "certificates"]) certificates,
    .fixed (words ["admin", "certificates", "create"]) newCertificate,
    .numbered (words ["admin", "certificates"]) ["update"] updateCertificate,
    .numbered (words ["admin", "certificates"]) ["delete"] deleteCertificate,
    .numbered (words ["admin", "certificates"]) ["revoke"] revokeCertificate,
    .fixed (words ["admin", "requests"]) requests,
    .fixed (words ["admin", "requests", "create"]) newRequest,
    .numbered (words ["admin", "requests"]) ["approve"] approveRequest,
    .numbered (words ["admin", "requests"]) ["reject"] rejectRequest,
    .fixed (words ["download"]) download,
    .fixed (words ["tenant", "request"]) submit,
    .fixed (words ["tenant", "certificate"]) ownCertificate,
    .fixed (words ["tenant", "requests"]) ownRequests]

/-- A text that writes an id: ASCII digits. -/
def isNumeral (t : Text) : Bool := t ≠ [] && t.all Text.isAsciiDigit

/-- The number that a numeral writes. -/
def numeralValue (t : Text) : Nat := Text.digitsValue (t.map (· - 48))

/-- The path with some words: every word between slashes. -/
def pathOf (ws : List Text) : Text := Text.join [47] ([] :: ws ++ [[]])

/-- The words of a path that begins and ends with a slash. -/
def wordsOf? (path : Text) : Option (List Text) :=
  match path.splitOn 47 with
  | [] :: rest => if rest.getLast? = some [] then some rest.dropLast else none
  | _ => none

/-- The route of the words of a path. A numeral with too many digits is not read. -/
def Pattern.match? (ws : List Text) : Pattern → Option Route
  | .fixed form route => if ws = form then some route else none
  | .numbered before after route =>
    match ws.drop before.length with
    | numeral :: rest =>
      if ws.take before.length = before ∧ isNumeral numeral ∧ numeral.length ≤ Integer.maxDigits
          ∧ rest = after then
        some (route (numeralValue numeral))
      else none
    | [] => none

/-- The route of a path. -/
def resolve (path : Text) : Option Route :=
  (wordsOf? path).bind fun ws => patterns.findSome? (Pattern.match? ws)

/-- The words of the path of a route. -/
def toWords : Route → List Text
  | certificates => words ["admin", "certificates"]
  | newCertificate => words ["admin", "certificates", "create"]
  | updateCertificate id => words ["admin", "certificates"] ++ [Text.ofNat id, "update"]
  | deleteCertificate id => words ["admin", "certificates"] ++ [Text.ofNat id, "delete"]
  | revokeCertificate id => words ["admin", "certificates"] ++ [Text.ofNat id, "revoke"]
  | requests => words ["admin", "requests"]
  | newRequest => words ["admin", "requests", "create"]
  | approveRequest id => words ["admin", "requests"] ++ [Text.ofNat id, "approve"]
  | rejectRequest id => words ["admin", "requests"] ++ [Text.ofNat id, "reject"]
  | download => words ["download"]
  | submit => words ["tenant", "request"]
  | ownCertificate => words ["tenant", "certificate"]
  | ownRequests => words ["tenant", "requests"]

/-- The path of a route. -/
def path (r : Route) : Text := pathOf r.toWords

end Route

end CertRegistry
