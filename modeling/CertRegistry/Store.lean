import CertRegistry.Account
import CertRegistry.Failure
import CertRegistry.Request.Basic
import CertRegistry.Settings.Basic
import CertRegistry.Table
import CertRegistry.Time.Span

/-!
# Store, context and outcome

The store holds the two tables of the registry. An operation on it runs in a context, which fixes
the clock, the settings and perhaps a fault of the storage. It either fails, and then nothing has
happened, or is done, with a result, a new store and what it logged.
-/

namespace CertRegistry

/-- The tables of the registry. -/
structure Store where
  certificates : Table Certificate := {}
  requests : Table CertificateRequest := {}
deriving Inhabited

@[ext] theorem Store.ext {s t : Store} (hc : s.certificates = t.certificates)
    (hr : s.requests = t.requests) : s = t := by
  cases s; cases t; cases hc; cases hr; rfl

/-- The storage operation that a fault strikes. -/
inductive FaultSite
  | certificateSave
  | requestSave
  | rowDelete
deriving DecidableEq, Repr

/-- A fault of the storage: where it strikes and what it says. -/
structure Fault where
  site : FaultSite
  message : Text

/-- What an operation runs in: what the clock shows, the settings, and a fault if there is one. -/
structure Context where
  clock : Moment
  settings : Settings := {}
  fault : Option Fault := none

/-- The time now, as it is stored. -/
def Context.now (ctx : Context) : Except Failure Instant := ctx.clock.stored

/-- Fails if a fault strikes here. -/
def Context.pass (ctx : Context) (site : FaultSite) : Except Failure Unit :=
  match ctx.fault with
  | some f => if f.site = site then .error (.storage f.message) else .ok ()
  | none => .ok ()

/-- Fails where nothing says whether to debug: the storage cannot be reached then. -/
def Context.reach (ctx : Context) : Except Failure Unit :=
  if ctx.settings.debug.isSome then .ok () else .error .unsettled

theorem Context.reach_of_isSome {ctx : Context} (h : ctx.settings.debug.isSome) :
    ctx.reach = .ok () := by
  simp [reach, h]

/-- How serious a log record is. -/
inductive LogLevel
  | info
  | warning
  | error
deriving DecidableEq, Repr

/-- Which part of the program wrote a log record: the registry itself, the endpoints, or the check
of who may call them. -/
inductive LogSource
  | registry
  | endpoints
  | access
deriving DecidableEq, Repr

/-- A record of the log. -/
structure LogRecord where
  level : LogLevel
  source : LogSource
  text : Text
deriving DecidableEq, Repr

/-- A record of the registry about something that went well. -/
def LogRecord.registry (text : Text) : LogRecord := ⟨.info, .registry, text⟩

/-- The result of an operation that succeeded, the store after it, and what it logged. -/
structure Done (α : Type) where
  value : α
  store : Store
  log : List LogRecord := []

/-- A text as a column holds it: one with surrogates cannot be encoded. -/
def storedText (t : Text) : Except Failure Text :=
  if t.any Text.isSurrogate then .error (.unencodable t) else .ok t

/-- A key to look rows up by: the number that it stands for, if any, and its text. -/
structure Key where
  id? : Option Int
  shown : Text

namespace Key

/-- The key of an id. -/
def ofInt (id : Int) : Key := ⟨some id, Text.ofInt id⟩

/-- The key of a caller; one who is not known has no id. -/
def ofCaller : Caller → Key
  | .anonymous => ⟨none, Json.null.shown⟩
  | .user a => .ofInt a.id

/-- The key that a value stands for in a column. -/
def ofJson (column : Text) : Json → Except Failure Key
  | .null => .ok ⟨none, Json.null.shown⟩
  | v =>
    match v.toInteger with
    | .ok id => .ok ⟨some id, v.shown⟩
    | .error .infinite => .error (.noInteger .infinite)
    | .error _ => .error (.noNumber column v)

end Key

/-- Reaches the storage for the rows with a key in a column whose numbers start at `least`. A number
that the column cannot hold is in no row, and the storage is not asked for it. -/
def Context.reachFor (ctx : Context) (least : Int) (k : Key) : Except Failure Unit :=
  if ∀ n ∈ k.id?, least ≤ n ∧ n ≤ maxColumn then ctx.reach else .ok ()

theorem Context.reachFor_of_isSome {ctx : Context} (h : ctx.settings.debug.isSome) (least : Int)
    (k : Key) : ctx.reachFor least k = .ok () := by
  simp [reachFor, reach_of_isSome h]

/-- The row that a key names. -/
def Table.get? {α : Type} (t : Table α) (k : Key) : Option (Row α) := k.id?.bind t.find?

namespace Store

/-- The certificate that a key names. -/
def certificate (s : Store) (k : Key) : Except Failure (Row Certificate) :=
  match s.certificates.get? k with
  | some r => .ok r
  | none => .error (.certificateMissing k.shown)

/-- The request that a key names. -/
def request (s : Store) (k : Key) : Except Failure (Row CertificateRequest) :=
  match s.requests.get? k with
  | some r => .ok r
  | none => .error (.requestMissing k.shown)

/-- Appends a certificate, if its columns can hold it. -/
def addCertificate (ctx : Context) (c : Except Failure Certificate) (s : Store) :
    Except Failure (Row Certificate × Store) := do
  ctx.pass .certificateSave
  ctx.reach
  let now ← ctx.now
  let c ← c
  match s.certificates.append? now c with
  | some (row, t) => return (row, { s with certificates := t })
  | none => throw .tableFull

/-- Appends a request, if its columns can hold it. -/
def addRequest (ctx : Context) (r : Except Failure CertificateRequest) (s : Store) :
    Except Failure (Row CertificateRequest × Store) := do
  ctx.pass .requestSave
  ctx.reach
  let now ← ctx.now
  let r ← r
  match s.requests.append? now r with
  | some (row, t) => return (row, { s with requests := t })
  | none => throw .tableFull

/-- Changes what a row of the certificates records, and notes the time. -/
def saveCertificate (ctx : Context) (row : Row Certificate) (c : Certificate) (s : Store) :
    Except Failure (Row Certificate × Store) := do
  ctx.pass .certificateSave
  let now ← ctx.now
  return (row.change now c,
    { s with certificates := s.certificates.editAt row.id fun r => r.change now c })

/-- Changes what a row of the requests records, if its columns can hold it, and notes the time. -/
def saveRequest (ctx : Context) (row : Row CertificateRequest)
    (r : Except Failure CertificateRequest) (s : Store) :
    Except Failure (Row CertificateRequest × Store) := do
  ctx.pass .requestSave
  let now ← ctx.now
  let r ← r
  return (row.change now r,
    { s with requests := s.requests.editAt row.id fun old => old.change now r })

end Store

end CertRegistry
