import CertRegistry.Proofs.Http.Failure
import CertRegistry.Proofs.Redaction.Masking
import CertRegistry.Proofs.Step.Answer

/-!
# Redacted answers

A call that is answered as the registry's own fault ended in a failure, since everything else that
a call is answered with is a success or blames the call. So the words of such an answer are those of
the failure, redacted unless debugging, and hold nothing that the patterns look for.
-/

namespace CertRegistry

open Redaction in
/-- Unless debugging, the words for a fault of the registry's own hold nothing that the patterns
look for. -/
lemma Reply.ofFailure_redacted {ctx : Context} (hdebug : ctx.settings.debug = some false)
    {f : Failure} (hstatus : (ofFailure ctx f).status = 500) :
    ∃ error, ofFailure ctx f = .refused 500 error ∧ ∀ p ∈ patterns, ¬ p.Occurs error := by
  rcases f.status_eq with hf | hf
  · simp [ofFailure, ofError, words?, hf, Reply.status] at hstatus
  · refine ⟨redact f.message, ?_, not_occurs_redact f.message⟩
    simp [ofFailure, ofError, words?, hf, hdebug]

namespace Step

open Redaction

lemma call_redacted {ctx : Context} {c : Call} {s : Store} {reply : Reply}
    (hdebug : ctx.settings.debug = some false)
    (hreply : ((call c).run ctx s).value = .replied reply) (hstatus : reply.status = 500) :
    ∃ error, reply = .refused 500 error ∧ ∀ p ∈ patterns, ¬ p.Occurs error := by
  cases hroute : Route.resolve c.path with
  | none => simp [run, Endpoint.answer, hroute] at hreply
  | some r =>
    simp only [run, Endpoint.answer, hroute, Option.map_some, StepResult.replied.injEq] at hreply
    subst hreply
    obtain ⟨f, hfails⟩ := Endpoint.exists_fails hstatus.ge
    rw [hfails.value_eq] at hstatus ⊢
    exact Reply.ofFailure_redacted hdebug hstatus

/-- Redacting a text removes everything that the patterns look for, and changes nothing else than
texts that hold something of it. So without debugging no answer that tells of a fault of the
registry's own holds anything of it either. -/
theorem redaction_complete :
    (∀ t, (∀ p ∈ patterns, ¬ p.Occurs (redact t)) ∧
      (redact t = t ↔ ∀ p ∈ patterns, ¬ p.Occurs t) ∧ redact (redact t) = redact t) ∧
    ∀ (ctx : Context) (c : Call) (s : Store) (reply : Reply), ctx.settings.debug = some false →
      ((call c).run ctx s).value = .replied reply → reply.status = 500 →
        ∃ error, reply = .refused 500 error ∧ ∀ p ∈ patterns, ¬ p.Occurs error := by
  refine ⟨fun t => ⟨not_occurs_redact t, redact_eq_self_iff t, redact_redact t⟩, ?_⟩
  intro ctx c s reply hdebug hreply hstatus
  exact call_redacted hdebug hreply hstatus

theorem redaction_complete_changeCall :
    let ctx : Context :=
      { clock := .ofUtc (utc 2026 1 15 4 30)
        settings := { debug := some false }
        fault := some ⟨.certificateSave, "password = hunter2 in /home/ann"⟩ }
    ∃ reply, ((call changeCall).run ctx heldStore).value = .replied reply ∧ reply.status = 500 ∧
      ∃ error, reply = .refused 500 error ∧ ∀ p ∈ patterns, ¬ p.Occurs error := by
  intro ctx
  have hstatus : ((call changeCall).run ctx heldStore).value.status? = some 500 := by
    decide +kernel
  cases hvalue : ((call changeCall).run ctx heldStore).value with
  | replied reply =>
    rw [hvalue] at hstatus
    have hreply := Option.some.inj hstatus
    exact ⟨reply, rfl, hreply,
      redaction_complete.2 ctx changeCall heldStore reply rfl hvalue hreply⟩
  | _ =>
    rw [hvalue] at hstatus
    exact absurd hstatus nofun

end Step

end CertRegistry
