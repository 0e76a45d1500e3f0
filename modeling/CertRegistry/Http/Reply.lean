import CertRegistry.View
import CertRegistry.Redaction
import CertRegistry.Store

/-!
# Replies

What the registry answers to a call: a record, a list, a message, a file, or a refusal. The words
of a refusal that is the registry's own fault are redacted unless debugging, and where no setting
says which of the two holds there is no answer with words at all.
-/

namespace CertRegistry

/-- The methods that the registry knows. -/
inductive Method
  | get
  | post
  | put
  | patch
  | delete
deriving DecidableEq, Repr

namespace Method

/-- The name of a method. -/
def name : Method → Text
  | get => "GET"
  | post => "POST"
  | put => "PUT"
  | patch => "PATCH"
  | delete => "DELETE"

/-- The capitals of a letter: the long s is an s, and so is the first letter of its ligatures. -/
def capitals (c : Nat) : Text :=
  if 97 ≤ c ∧ c ≤ 122 then [c - 32]
  else if c = 0x17F then [83]
  else if c = 0xFB05 ∨ c = 0xFB06 then [83, 84]
  else [c]

/-- The method that a text names, in letters of either case. -/
def ofText? (t : Text) : Option Method :=
  [get, post, put, patch, delete].find? fun m => m.name = t.flatMap capitals

end Method

/-- An answer to a call. -/
inductive Reply
  /-- The call failed, with a status and words for why. -/
  | refused (status : Nat) (error : Text)
  /-- The call failed by the registry's own fault, and nothing says whether to redact the words. -/
  | unworded
  /-- The route is not for this method but for others. -/
  | wrongMethod (allowed : List Method)
  /-- The call is done. -/
  | done (message : Text)
  | certificate (view : Option CertificateView)
  | request (view : RequestView)
  | requests (views : List RequestView)
  | certificatePage (views : List CertificateView) (total : Nat)
  | requestPage (views : List RequestView) (total : Nat)
  /-- A file to be saved. -/
  | file (content : Text)

namespace Reply

/-- The status of an answer. -/
def status : Reply → Nat
  | refused status _ => status
  | unworded => 500
  | wrongMethod _ => 405
  | _ => 200

/-- The body of a call that succeeded. -/
def success (name : Text) (v : Json) : Json := .object [("success", .bool true), (name, v)]

/-- The body of a page. -/
def pageBody (items : List Json) (total : Nat) : Json :=
  success "data" (.object [("content", .list items), ("total", .int total)])

/-- The body of an answer, where it is JSON. -/
def body? : Reply → Option Json
  | refused _ error => some (.object [("success", .bool false), ("error", .text error)])
  | unworded | wrongMethod _ => none
  | done message => some (success "message" (.text message))
  | certificate view => some (success "data" (view.elim .null CertificateView.toJson))
  | request view => some (success "data" view.toJson)
  | requests views => some (success "data" (.list (views.map RequestView.toJson)))
  | certificatePage views total => some (pageBody (views.map CertificateView.toJson) total)
  | requestPage views total => some (pageBody (views.map RequestView.toJson) total)
  | file _ => none

/-- The words of a refusal: redacted where it is the registry's own fault, unless debugging. There
are none if that is not settled. -/
def words? (debug : Option Bool) (isFault : Bool) (error : Text) : Option Text :=
  if isFault then debug.map fun debug => if debug then error else redact error else some error

/-- The refusal of a call with a status. -/
def ofError (debug : Option Bool) (status : Nat) (error : Text) : Reply :=
  (words? debug (decide (500 ≤ status)) error).elim unworded (refused status)

/-- Whether a status given as a value is one of the registry's own faults. -/
def isFault : Json → Except Failure Bool
  | .float .nan => .ok false
  | v =>
    match v.less (.int 500) with
    | .ok isBelow => .ok !isBelow
    | .error (v, w) => .error (.unordered ">=" v w)

/-- The status that a value stands for: a number loses its fraction and must lie in the range of
statuses. -/
def statusOf (v : Json) : Except Failure Nat :=
  match v.toInteger with
  | .ok n => if 100 ≤ n ∧ n ≤ 599 then .ok n.toNat else .error .badStatus
  | .error .infinite => .error (.noInteger .infinite)
  | .error _ => .error .noStatus

/-- The refusal of a call with a status given as a value. The words are settled first. -/
def ofStatus (debug : Option Bool) (status : Json) (error : Text) : Except Failure Reply := do
  match words? debug (← isFault status) error with
  | none => return unworded
  | some words => return refused (← statusOf status) words

/-- The refusal of a call by a failure. -/
def ofFailure (ctx : Context) (f : Failure) : Reply := ofError ctx.settings.debug f.status f.message

end Reply

/-- What the log says about a failure: a refusal is no error. -/
def Failure.record (f : Failure) (action : Text) : LogRecord :=
  if f.isRefusal then ⟨.info, .endpoints, "Rejected " ++ action ++ ": " ++ f.message⟩
  else ⟨.error, .endpoints, "Error " ++ action ++ ": " ++ f.message⟩

end CertRegistry
