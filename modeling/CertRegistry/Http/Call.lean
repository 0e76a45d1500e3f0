import CertRegistry.Account
import CertRegistry.Http.Route
import CertRegistry.Input.Query
import CertRegistry.Text.Blank

/-!
# Calls

What a call to the registry brings along: who makes it, the method, the path, the query string,
the body, and where it comes from.
-/

namespace CertRegistry

/-- A call to the registry. -/
structure Call where
  caller : Caller := .anonymous
  method : Text
  path : Text
  query : Text := []
  body : List Nat := []
  /-- The size of the body as its sender declares it. -/
  declaredSize : Option Json := none
  /-- The addresses that a call was passed on from, as its sender says: a text, or null. -/
  forwardedFor : Json := .null
  remoteAddress : Json := .null

/-- The address of a client: the first of those that the call was passed on from, if any, and else
the one that sent it. -/
def clientAddress (forwardedFor remoteAddress : Json) : Except Failure Json :=
  match forwardedFor with
  | .text (p :: t) => .ok (.text (Text.cut 44 (p :: t)).1.strip)
  | v => if v.isTrue then .error (.noAddresses v) else .ok remoteAddress

/-- The address of the client as the log shows it. -/
def Call.origin (c : Call) : Except Failure Text :=
  (clientAddress c.forwardedFor c.remoteAddress).map Json.shown

/-- The integer that a parameter stands for. -/
def parameterValue (v : Json) : Except Failure Int :=
  match v.toInteger with
  | .ok n => .ok n
  | .error .infinite => .error (.noInteger .infinite)
  | .error e => .error (.badInput ("Invalid parameter: " ++ e.message))

/-- The smaller one of two values. -/
def smallerValue (v w : Json) : Except Failure Json :=
  match w.less v with
  | .ok isLess => .ok (if isLess then w else v)
  | .error (v, w) => .error (.unordered "<" v w)

/-- The number of a page and its size, from the values given for them. A number below 1 counts as
1; a size below 1 counts as the default one, and no size passes the largest one. -/
def pageParams (settings : Settings) (page? perPage? : Option Json) :
    Except Failure (Int × Json) := do
  let page ← parameterValue (page?.getD (.int 1))
  let perPage ← parameterValue (perPage?.getD settings.defaultPageSize)
  let size ← smallerValue (if perPage < 1 then settings.defaultPageSize else .int perPage)
    settings.maxPageSize
  return (max page 1, size)

/-- The number of a page and its size, from a query string. -/
def queryPage (settings : Settings) (query : Text) : Except Failure (Int × Json) := do
  let fields ← Input.readFields settings query
  let value (name : Text) := (Text.Query.get? fields name).map Json.text
  pageParams settings (value "page") (value "per_page")

end CertRegistry
