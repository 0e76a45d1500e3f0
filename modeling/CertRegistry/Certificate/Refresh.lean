import CertRegistry.Store

/-!
# Refreshing statuses

A certificate expires at its end, and it counts as expiring from a number of days before. Three
marks are set one after the other, each on what the former ones left: expired, expiring, and valid
again for a certificate whose end was moved away. A dry run counts for all three what there is.
-/

namespace CertRegistry

/-- The numbers of certificates that become expired, expiring, and valid again. -/
structure RefreshCounts where
  expired : Nat
  expiring : Nat
  valid : Nat
deriving DecidableEq, Repr

namespace RefreshCounts

/-- Whether nothing changes. -/
def isZero (c : RefreshCounts) : Bool := c.expired = 0 && c.expiring = 0 && c.valid = 0

/-- The counts as the log shows them. -/
def text (c : RefreshCounts) : Text :=
  (Json.object [("expired", .int c.expired), ("expiring", .int c.expiring),
    ("valid", .int c.valid)]).quoted

end RefreshCounts

namespace Refresh

/-- A certificate past its end that is neither revoked nor marked as expired. -/
def expires (now : Instant) (c : Certificate) : Bool :=
  decide (c.expires ≤ now) && c.status ≠ .revoked && c.status ≠ .expired

/-- A valid certificate that ends after now and up to the threshold. -/
def nears (now threshold : Instant) (c : Certificate) : Bool :=
  c.status = .valid && decide (now < c.expires) && decide (c.expires ≤ threshold)

/-- An expiring certificate that ends after the threshold. -/
def recovers (threshold : Instant) (c : Certificate) : Bool :=
  c.status = .expiring && decide (threshold < c.expires)

/-- The number of certificates of a class. -/
def count (p : Certificate → Bool) (t : Table Certificate) : Nat := t.rows.countP fun r => p r.data

/-- Gives a status to the certificates of a class, and notes the time. -/
def mark (p : Certificate → Bool) (status : CertificateStatus) (now : Instant)
    (t : Table Certificate) : Table Certificate :=
  t.edit fun r => if p r.data then { r with updatedAt := now, data.status := status } else r

/-- The three marks, with the number of certificates that each of them changes. -/
def run (now threshold : Instant) (t : Table Certificate) : RefreshCounts × Table Certificate :=
  let t₁ := mark (expires now) .expired now t
  let t₂ := mark (nears now threshold) .expiring now t₁
  let t₃ := mark (recovers threshold) .valid now t₂
  (⟨count (expires now) t, count (nears now threshold) t₁, count (recovers threshold) t₂⟩, t₃)

/-- The counts of the three marks on one and the same table. -/
def preview (now threshold : Instant) (t : Table Certificate) : RefreshCounts :=
  ⟨count (expires now) t, count (nears now threshold) t, count (recovers threshold) t⟩

end Refresh

/-- Refreshes the statuses of all certificates at a moment, which is now if none is given. Its time
and the threshold, a span of time later, must be times of the years 1 to 9999 in UTC. -/
def Store.refresh (ctx : Context) (reference : Option Moment) (dryRun : Bool) (s : Store) :
    Except Failure (Done RefreshCounts) := do
  let span ← spanOfDays ctx.settings.expiringDays
  let now := reference.getD ctx.clock
  let threshold ← now.after span
  if dryRun then
    let now ← now.stored
    ctx.reach
    let threshold ← threshold.stored
    return { value := Refresh.preview now threshold s.certificates, store := s }
  else
    ctx.reach
    let now ← now.stored
    let threshold ← threshold.stored
    let (counts, certificates) := Refresh.run now threshold s.certificates
    return {
      value := counts, store := { s with certificates }
      log := [.registry ("Refreshed certificate statuses: " ++ counts.text)] }

end CertRegistry
