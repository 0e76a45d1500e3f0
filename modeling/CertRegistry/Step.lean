import CertRegistry.Admin.BulkAction
import CertRegistry.Admin.ChangeForm
import CertRegistry.Admin.Command
import CertRegistry.Http.Endpoint

/-!
# Steps and runs

The ways into the registry from outside: a call, a bulk action, the change form of requests, and
the refresh command. Each step comes with its own context, so that clock, settings and faults may
change between steps. A run is a list of steps.
-/

namespace CertRegistry

/-- A step from outside. -/
inductive Step
  | call (c : Call)
  | bulk (action : BulkAction) (ids : List Int) (admin : Caller)
  | form (id? : Option Int) (data : Text)
  | refresh (options : Command.Options)

/-- What comes of a step. -/
inductive StepResult
  /-- No route has the path of the call. -/
  | unrouted
  | replied (reply : Reply)
  | noticed (notices : List Notice)
  | saved (result : ChangeForm.Result)
  | printed (text : Text)
  | failed (f : Failure)

namespace Step

/-- Makes a step. -/
def run (ctx : Context) (s : Store) : Step → Done StepResult
  | call c =>
    match Endpoint.answer ctx c s with
    | none => { value := .unrouted, store := s }
    | some d => { d with value := .replied d.value }
  | bulk action ids admin =>
    let p := action.progress ctx admin.name ids s
    { value := match action.notices p with
        | .ok notices => .noticed notices
        | .error f => .failed f
      store := p.store
      log := p.log }
  | form id? data =>
    match ChangeForm.save ctx id? data s with
    | .ok d => { d with value := .saved d.value }
    | .error f => { value := .failed f, store := s }
  | refresh options =>
    match Command.run ctx options s with
    | .ok d => { d with value := .printed d.value }
    | .error f => { value := .failed f, store := s }

/-- The store after a step. -/
def next (ctx : Context) (s : Store) (step : Step) : Store := (step.run ctx s).store

/-- The store after a run. -/
def runAll : Store → List (Context × Step) → Store
  | s, [] => s
  | s, (ctx, step) :: rest => runAll (step.next ctx s) rest

end Step

end CertRegistry
