import CertRegistry.Proofs.Step.Effect
import CertRegistry.Proofs.Store.Stamp

/-!
# Stamps over steps

Whatever a step changes it stamps with the time on its clock, and what it makes it stamps as made at
that time. Over a run whose clock never goes back, no row was made after its last change, and no row
was changed ahead of the clock.
-/

namespace CertRegistry.Step

/-- The times on the clocks of a run. -/
def times (run : List (Context × Step)) : List Instant := run.map fun p => p.1.clock.instant

/-- The clock of a run never goes back. -/
def IsForward (run : List (Context × Step)) : Prop := (times run).Pairwise (· ≤ ·)

variable {s : Store} {now : Instant} {run : List (Context × Step)}

/-- A step stamps what it changes with the time on its clock. -/
lemma next_stamped (ctx : Context) (s : Store) (step : Step) :
    s.Stamped ctx.clock.instant (step.next ctx s) := by
  refine next_invariant (P := s.Stamped ctx.clock.instant) (fun _ _ _ _ h hs => ?_) ?_
  · exact hs.trans h.stamped
  · exact ⟨.refl _ _, .refl _ _⟩

/-- On a clock that never goes back the stamps stay timely, up to the last time of the run. -/
lemma runAll_timely (hclock : (now :: times run).Pairwise (· ≤ ·)) (hs : s.Timely now) :
    (runAll s run).Timely ((times run).getLastD now) := by
  induction run generalizing s now with
  | nil => exact hs
  | cons p rest ih =>
    obtain ⟨ctx, step⟩ := p
    obtain ⟨hfirst, hrest⟩ := List.pairwise_cons.1 hclock
    have hnext := hs.stamped (next_stamped ctx s step) (hfirst _ List.mem_cons_self)
    have hlast : (times ((ctx, step) :: rest)).getLastD now =
        (times rest).getLastD ctx.clock.instant := List.getLastD_cons
    rw [hlast]
    exact ih hrest hnext

/-- From the empty store the stamps are timely up to some time of the run. -/
lemma exists_timely (hclock : IsForward run) (now : Instant) :
    ∃ last ∈ now :: times run, (runAll {} run).Timely last := by
  cases run with
  | nil => exact ⟨now, List.mem_cons_self, .empty now⟩
  | cons p rest =>
    obtain ⟨hfirst, hrest⟩ := List.pairwise_cons.1 hclock
    have hclock : (p.1.clock.instant :: times (p :: rest)).Pairwise (· ≤ ·) := by
      refine List.pairwise_cons.2 ⟨fun t ht => ?_, hclock⟩
      rcases List.mem_cons.1 ht with rfl | ht
      · exact le_rfl
      · exact hfirst t ht
    have hlast : (times (p :: rest)).getLastD p.1.clock.instant =
        (times rest).getLastD p.1.clock.instant := List.getLastD_cons
    refine ⟨_, List.mem_cons_of_mem _ ?_, runAll_timely hclock (.empty _)⟩
    rw [hlast]
    exact List.getLastD_mem_cons

/-- Nothing changes unstamped. A step leaves every row as it was, or stamps it with the time on its
clock; a row keeps the time at which it was made, and a new row was made at that time. So in a run
from the empty store on a clock that never goes back and now shows some time, no row was made after
its last change, and no row was changed after that time. -/
theorem changes_stamped :
    (∀ (s : Store) (ctx : Context) (step : Step),
      s.certificates.Stamped ctx.clock.instant (step.next ctx s).certificates ∧
      s.requests.Stamped ctx.clock.instant (step.next ctx s).requests) ∧
    ∀ (run : List (Context × Step)) (now : Instant), (times run ++ [now]).Pairwise (· ≤ ·) →
      (∀ r ∈ (runAll {} run).certificates.rows, r.createdAt ≤ r.updatedAt ∧ r.updatedAt ≤ now) ∧
      ∀ r ∈ (runAll {} run).requests.rows, r.createdAt ≤ r.updatedAt ∧ r.updatedAt ≤ now := by
  constructor
  · intro s ctx step
    have h := next_stamped ctx s step
    exact ⟨h.certificates, h.requests⟩
  · intro run now hclock
    obtain ⟨hforward, -, hnow⟩ := List.pairwise_append.1 hclock
    obtain ⟨last, hlast, h⟩ := exists_timely hforward now
    have hle : last ≤ now := by
      rcases List.mem_cons.1 hlast with rfl | hlast
      · exact le_rfl
      · exact hnow last hlast now (List.mem_singleton_self now)
    have h := h.mono hle
    exact ⟨fun r hr => ⟨h.certificates.created_le r hr, h.certificates.updated_le r hr⟩,
      fun r hr => ⟨h.requests.created_le r hr, h.requests.updated_le r hr⟩⟩

/-- A request is made by the form, approved an hour later, and a refresh follows two years later,
when the certificate has come to its end. -/
def expiry : List (Context × Step) :=
  let start := utc 2026 1 15 4 30
  [({ clock := .ofUtc start }, .form none "user_name=ann&user_id=7&type=client&reason=access"),
    ({ clock := .ofUtc (start + hour) },
      .bulk .approve [1] (.user { id := 1, name := "root", isStaff := true })),
    ({ clock := .ofUtc (utc 2028 1 15 4 30) }, .refresh {})]

theorem changes_stamped_expiry :
    (times expiry ++ [utc 2028 1 15 4 31]).Pairwise (· ≤ ·) ∧
    (runAll {} expiry).certificates.rows.map (fun r => (r.createdAt, r.updatedAt)) =
      [(utc 2026 1 15 5 30, utc 2028 1 15 4 30)] ∧
    ∀ r ∈ (runAll {} expiry).requests.rows,
      r.createdAt ≤ r.updatedAt ∧ r.updatedAt ≤ utc 2028 1 15 4 31 := by
  have hclock : (times expiry ++ [utc 2028 1 15 4 31]).Pairwise (· ≤ ·) := by decide
  have hrows : (runAll {} expiry).certificates.rows.map (fun r => (r.createdAt, r.updatedAt)) =
      [(utc 2026 1 15 5 30, utc 2028 1 15 4 30)] := by decide +kernel
  exact ⟨hclock, hrows, (changes_stamped.2 expiry _ hclock).2⟩

end CertRegistry.Step
