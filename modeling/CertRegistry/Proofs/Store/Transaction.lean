import CertRegistry.Store
import Mathlib.Tactic.Lemma

/-!
# Transactions

An operation of several writes can be taken apart: the writes act on the store one after the other,
and a transaction undoes those that were made where a later one fails. So a transaction leaves the
store of its last write, or the store as it was.
-/

namespace CertRegistry

variable {α β : Type}

/-- A chain of looks at the store and of writes, each of which acts at once. -/
abbrev Writes (α : Type) := ExceptT Failure (StateM Store) α

namespace Writes

/-- Runs a chain: its outcome, and the store as it was left. -/
def runOn (w : Writes α) (s : Store) : Except Failure α × Store := StateT.run (ExceptT.run w) s

/-- Looks at the store. -/
def look (f : Store → Except Failure α) : Writes α := ExceptT.mk fun s => (f s, s)

/-- Writes to the store; a write that fails leaves it alone. -/
def write (f : Store → Except Failure (α × Store)) : Writes α := ExceptT.mk fun s =>
  match f s with
  | .ok (a, t) => (.ok a, t)
  | .error f => (.error f, s)

/-- What a chain leads to: its result with the store after its last write, or a failure. -/
def result (w : Writes α) (s : Store) : Except Failure (α × Store) :=
  match w.runOn s with
  | (.ok a, t) => .ok (a, t)
  | (.error f, _) => .error f

/-- A chain as one transaction: if it fails, its writes are undone. -/
def atomic (w : Writes α) : Writes α := ExceptT.mk fun s =>
  match w.runOn s with
  | (.ok a, t) => (.ok a, t)
  | (.error f, _) => (.error f, s)

variable {w : Writes α} {s : Store}

/-- A chain goes on with the store that its first part left, and ends where that part fails. -/
lemma runOn_bind {next : α → Writes β} : (w >>= next).runOn s = match w.runOn s with
    | (.ok a, t) => (next a).runOn t
    | (.error f, t) => (.error f, t) := by
  simp only [runOn, ExceptT.run_bind, StateT.run_bind]
  match w.run.run s with
  | (.ok a, t) => rfl
  | (.error f, t) => rfl

lemma runOn_look {f : Store → Except Failure α} : (look f).runOn s = (f s, s) := rfl

lemma runOn_write {f : Store → Except Failure (α × Store)} : (write f).runOn s = match f s with
    | .ok (a, t) => (.ok a, t)
    | .error f => (.error f, s) := rfl

lemma result_bind {next : α → Writes β} :
    (w >>= next).result s = w.result s >>= fun p => (next p.1).result p.2 := by
  simp only [result, runOn_bind]
  match w.runOn s with
  | (.ok a, t) => rfl
  | (.error f, t) => rfl

lemma result_pure {a : α} : (pure a : Writes α).result s = pure (a, s) := rfl

lemma result_look_bind {f : Store → Except Failure α} {next : α → Writes β} :
    (look f >>= next).result s = f s >>= fun a => (next a).result s := by
  rw [result_bind]
  simp only [result, runOn_look]
  cases f s <;> rfl

lemma result_write_bind {f : Store → Except Failure (α × Store)} {next : α → Writes β} :
    (write f >>= next).result s = f s >>= fun p => (next p.1).result p.2 := by
  rw [result_bind]
  simp only [result, runOn_write]
  cases f s <;> rfl

/-- A transaction leaves what its chain leads to, or the store as it was. -/
lemma runOn_atomic : w.atomic.runOn s = match w.result s with
    | .ok (a, t) => (.ok a, t)
    | .error f => (.error f, s) := by
  have hatomic : w.atomic.runOn s = match w.runOn s with
      | (.ok a, t) => (.ok a, t)
      | (.error f, _) => (.error f, s) := rfl
  rw [hatomic, result]
  match w.runOn s with
  | (.ok a, t) => rfl
  | (.error f, t) => rfl

end Writes

namespace Store

/-- The store that an operation leaves: its own where it succeeds, the old one where it fails. -/
def after (s : Store) : Except Failure (Done α) → Store
  | .ok d => d.store
  | .error _ => s

/-- A transaction whose writes lead to what an operation says leaves what the operation leaves. -/
lemma runOn_atomic_of_result {w : Writes α} {s : Store} {x : Except Failure (Done α)}
    (h : w.result s = (fun d => (d.value, d.store)) <$> x) :
    w.atomic.runOn s = (Done.value <$> x, s.after x) := by
  rw [Writes.runOn_atomic, h]
  cases x <;> rfl

end Store

end CertRegistry
