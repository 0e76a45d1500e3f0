import CertRegistry.Proofs.Certificate.Rule
import CertRegistry.Proofs.Store.Operations
import CertRegistry.Proofs.Store.Transaction
import CertRegistry.Proofs.Time.Span

/-!
# Refreshes

A refresh makes its three marks one after the other, in one transaction: where the threshold turns
out not to be storable, the first mark is undone. A refresh that can be made gives every row the
status that it is due, and leaves all else. So refreshes that were missed or made more often leave
no other trace than the times of the last changes.
-/

namespace CertRegistry

/-- What it takes to refresh at a moment with a window of some days: the storage can be reached, and
the moment and the threshold can be stored. -/
structure Context.CanRefresh (ctx : Context) (m : Moment) (days : Int) : Prop where
  reached : ctx.settings.debug.isSome
  now : inRange m.instant
  days : m.Reaches days

namespace Store

variable {ctx : Context} {reference : Option Moment} {m : Moment} {days : Int} {s t : Store}

/-! ### The marks as one transaction -/

/-- Gives a status to the certificates of a class, which may need a time that cannot be stored. -/
def setStatus (ctx : Context) (now : Moment) (p : Instant → Except Failure (Certificate → Bool))
    (status : CertificateStatus) (s : Store) : Except Failure (Nat × Store) := do
  ctx.reach
  let now ← now.stored
  let p ← p now
  return (Refresh.count p s.certificates,
    { s with certificates := Refresh.mark p status now s.certificates })

/-- The marks of a refresh, one after the other. -/
def refreshing (ctx : Context) (reference : Option Moment) : Writes RefreshCounts := do
  let span ← Writes.look fun _ => spanOfDays ctx.settings.expiringDays
  let now := reference.getD ctx.clock
  let threshold ← Writes.look fun _ => now.after span
  let expired ← Writes.write (setStatus ctx now (fun now => return Refresh.expires now) .expired)
  let expiring ← Writes.write
    (setStatus ctx now (fun now => return Refresh.nears now (← threshold.stored)) .expiring)
  let valid ← Writes.write
    (setStatus ctx now (fun _ => return Refresh.recovers (← threshold.stored)) .valid)
  return ⟨expired, expiring, valid⟩

/-- The marks of a refresh lead to what the operation on the store says. -/
lemma result_refreshing (ctx : Context) (reference : Option Moment) (s : Store) :
    (refreshing ctx reference).result s =
      (fun d => (d.value, d.store)) <$> s.refresh ctx reference false := by
  simp only [refreshing, Writes.result_look_bind, Writes.result_write_bind, Writes.result_pure,
    refresh, map_bind]
  congr 1
  funext span
  congr 1
  funext threshold
  simp only [setStatus, Bool.false_eq_true, if_false]
  cases hreach : ctx.reach with
  | error f => rfl
  | ok u =>
    cases hnow : (reference.getD ctx.clock).stored with
    | error f => rfl
    | ok now =>
      cases hthreshold : threshold.stored with
      | error f => rfl
      | ok threshold => rfl

/-! ### What a refresh comes to -/

/-- A store whose certificates have the statuses that they are due. -/
def settle (now threshold : Instant) (s : Store) : Store :=
  { s with certificates := (Refresh.run now threshold s.certificates).2 }

lemma rows_settle (now threshold : Instant) (s : Store) :
    (s.settle now threshold).certificates.rows =
      s.certificates.rows.map (Row.settle now threshold) :=
  Refresh.rows_run_eq_settle now threshold s.certificates

/-- A refresh that succeeds settles the store, if it is no dry run. -/
lemma store_of_refresh {dryRun : Bool} {d : Done RefreshCounts}
    (h : s.refresh ctx reference dryRun = .ok d) :
    d.store = s ∨ ∃ threshold, d.store = s.settle (reference.getD ctx.clock).instant threshold := by
  obtain ⟨span, threshold, -, -, -, -, -, rfl⟩ := refresh_eq_ok_iff.1 h
  cases dryRun with
  | true => exact Or.inl rfl
  | false => exact Or.inr ⟨threshold.instant, rfl⟩

/-- With a window of whole days it is known when a refresh succeeds, and with what. -/
lemma refresh_eq_ok_iff_canRefresh (hdays : ctx.settings.expiringDays = .int days) {dryRun : Bool}
    {d : Done RefreshCounts} :
    s.refresh ctx reference dryRun = .ok d ↔
      ctx.CanRefresh (reference.getD ctx.clock) days ∧
        let now := (reference.getD ctx.clock).instant
        let threshold := ((reference.getD ctx.clock).plusDays days).instant
        let counts := (Refresh.run now threshold s.certificates).1
        d = if dryRun then { value := Refresh.preview now threshold s.certificates, store := s }
          else
            { value := counts, store := s.settle now threshold
              log := [.registry ("Refreshed certificate statuses: " ++ counts.text)] } := by
  rw [refresh_eq_ok_iff, hdays]
  constructor
  · rintro ⟨span, threshold, hspan, hafter, hreach, hnow, hthreshold, rfl⟩
    obtain ⟨hreaches, rfl⟩ := Moment.reaches_iff.2 ⟨span, hspan, hafter, hthreshold⟩
    exact ⟨⟨hreach, hnow, hreaches⟩, rfl⟩
  · rintro ⟨⟨hreach, hnow, hreaches⟩, rfl⟩
    obtain ⟨span, hspan, hafter, hthreshold⟩ := Moment.reaches_iff.1 ⟨hreaches, rfl⟩
    exact ⟨span, _, hspan, hafter, hreach, hnow, hthreshold, rfl⟩

lemma refresh_of_canRefresh (hdays : ctx.settings.expiringDays = .int days)
    (hm : reference.getD ctx.clock = m) (h : ctx.CanRefresh m days) (s : Store) :
    s.refresh ctx reference false = .ok
      { value := (Refresh.run m.instant (m.plusDays days).instant s.certificates).1
        store := s.settle m.instant (m.plusDays days).instant
        log := [.registry ("Refreshed certificate statuses: "
          ++ (Refresh.run m.instant (m.plusDays days).instant s.certificates).1.text)] } := by
  subst hm
  exact (refresh_eq_ok_iff_canRefresh hdays).2 ⟨h, rfl⟩

lemma dryRun_of_canRefresh (hdays : ctx.settings.expiringDays = .int days)
    (hm : reference.getD ctx.clock = m) (h : ctx.CanRefresh m days) (s : Store) :
    s.refresh ctx reference true = .ok
      { value := Refresh.preview m.instant (m.plusDays days).instant s.certificates
        store := s } := by
  subst hm
  exact (refresh_eq_ok_iff_canRefresh hdays).2 ⟨h, rfl⟩

/-- What a refresh at a moment, with a window of some days, leaves of a store and counts. -/
structure Settled (m : Moment) (days : Int) (s : Store) (counts : RefreshCounts) (t : Store) :
    Prop where
  rows : t.certificates.rows =
    s.certificates.rows.map (Row.settle m.instant (m.plusDays days).instant)
  counter : t.certificates.lastId = s.certificates.lastId
  requests : t.requests = s.requests
  counts : counts = ⟨Refresh.becoming m.instant (m.plusDays days).instant .expired s.certificates,
    Refresh.becoming m.instant (m.plusDays days).instant .expiring s.certificates,
    Refresh.becoming m.instant (m.plusDays days).instant .valid s.certificates⟩
  /-- On a clock that keeps its offset, the threshold is just those days away. -/
  threshold : m.offset?.isSome → (m.plusDays days).instant = m.instant + days * day

lemma settled_settle (m : Moment) (days : Int) (s : Store) :
    s.Settled m days (Refresh.run m.instant (m.plusDays days).instant s.certificates).1
      (s.settle m.instant (m.plusDays days).instant) where
  rows := rows_settle _ _ s
  counter := rfl
  requests := rfl
  counts := Refresh.counts_run_eq_becoming _ _ s.certificates
  threshold := Moment.instant_plusDays

/-- A refresh follows the rule for statuses. Its marks, undone where one of them fails, leave the
store as it was or the store of the operation; they succeed if and only if the moment and the
threshold can be stored and the storage can be reached, and then they give every certificate the
status that it is due, count those that get another one, and change nothing else. -/
theorem refresh_pointwise (ctx : Context) (days : Int)
    (hdays : ctx.settings.expiringDays = .int days) (reference : Option Moment) (s : Store) :
    let m := reference.getD ctx.clock
    ((refreshing ctx reference).atomic.runOn s =
      (Done.value <$> s.refresh ctx reference false, s.after (s.refresh ctx reference false))) ∧
    ((s.refresh ctx reference false).isOk ↔ ctx.CanRefresh m days) ∧
    ∀ d, s.refresh ctx reference false = .ok d → s.Settled m days d.value d.store := by
  refine ⟨runOn_atomic_of_result (result_refreshing ctx reference s), ⟨fun h => ?_, fun h => ?_⟩,
    ?_⟩
  · obtain ⟨d, hd⟩ := exists_of_isOk h
    exact ((refresh_eq_ok_iff_canRefresh hdays).1 hd).1
  · rw [refresh_of_canRefresh hdays rfl h]
    rfl
  · intro d hd
    obtain ⟨-, rfl⟩ := (refresh_eq_ok_iff_canRefresh hdays).1 hd
    exact settled_settle _ days s

/-- A row of a valid certificate. -/
def rowUntil (expires : Instant) : Row Certificate where
  id := 1
  createdAt := 0
  updatedAt := 0
  data := {
    name := "ann-client-cert"
    kind := .client
    status := .valid
    owner := "ann"
    ownerId := 7
    content := []
    issued := some 0
    expires }

lemma id_rowUntil_le (expires : Instant) : (rowUntil expires).id ≤ maxColumn := by
  simp [rowUntil, maxColumn]

/-- A store with a valid certificate. -/
def holdingUntil (expires : Instant) : Store where
  certificates := .single (rowUntil expires) (id_rowUntil_le expires)
  requests := default

/-- A row of a certificate with some id and some status. -/
def rowOf (id : Int) (status : CertificateStatus) (expires : Instant) : Row Certificate :=
  { rowUntil expires with id, data := { (rowUntil expires).data with status } }

/-- A store with certificates of every status that end just at the time of a refresh, just at its
threshold thirty days later, or a minute after one of them. -/
def shelf : Store where
  certificates := {
    rows := [
      rowOf 1 .valid (utc 2026 1 15 4 30), rowOf 2 .expiring (utc 2026 1 15 4 30),
      rowOf 3 .revoked (utc 2026 1 15 4 30), rowOf 4 .valid (utc 2026 1 15 4 31),
      rowOf 5 .valid (utc 2026 2 14 4 30), rowOf 6 .expiring (utc 2026 2 14 4 30),
      rowOf 7 .valid (utc 2026 2 14 4 31), rowOf 8 .expiring (utc 2026 2 14 4 31),
      rowOf 9 .expired (utc 2026 2 14 4 31)]
    lastId := 9
    sorted := by decide
    bounded := by decide }
  requests := default

/-- Two certificates expire, two come to expire soon, and one does not any more; the other four
stay as they are. -/
theorem refresh_pointwise_shelf :
    let ctx : Context := { clock := .ofUtc (utc 2026 1 15 4 30) }
    let now := ctx.clock.instant
    ctx.settings.expiringDays = .int 30 ∧ ∃ d, shelf.refresh ctx none false = .ok d ∧
      d.value = ⟨2, 2, 1⟩ ∧
      d.store.certificates.rows.map (fun r => (r.id, r.data.status, r.updatedAt)) =
        [(1, .expired, now), (2, .expired, now), (3, .revoked, 0), (4, .expiring, now),
          (5, .expiring, now), (6, .expiring, 0), (7, .valid, 0), (8, .valid, now),
          (9, .expired, 0)] := by
  intro ctx now
  obtain ⟨-, hok, hsettled⟩ := refresh_pointwise ctx 30 rfl none shelf
  have hdays : ctx.clock.Reaches 30 := (Moment.reaches_ofUtc_iff (by decide)).2 (by decide)
  obtain ⟨d, hd⟩ := exists_of_isOk (hok.2 ⟨rfl, by decide, hdays⟩)
  have hsettled := hsettled d hd
  refine ⟨rfl, d, hd, ?_, ?_⟩
  · rw [hsettled.counts]
    decide +kernel
  · rw [hsettled.rows]
    decide +kernel

/-- A threshold that can be stored is not enough: so must be the moment itself, which an hour before
the year 1 in UTC is not, and the settings must say whether to debug. -/
theorem storableThreshold_not_refreshed :
    let early : Moment := ⟨0, some hour⟩
    let now : Moment := .ofUtc (utc 2026 1 15 4 30)
    early.Reaches 30 ∧ now.Reaches 30 ∧
    (rowUntil 0).data.dueStatus early.instant (early.plusDays 30).instant = .expiring ∧
    (rowUntil 0).data.dueStatus now.instant (now.plusDays 30).instant = .expired ∧
    (holdingUntil 0).refresh { clock := now } (some early) false = .error .dateOverflow ∧
    (holdingUntil 0).refresh { clock := now, settings := { debug := none } } none false
      = .error .unsettled := by
  refine ⟨⟨by decide, by decide, by decide⟩, (Moment.reaches_ofUtc_iff (by decide)).2 (by decide),
    by decide +kernel, by decide +kernel, rfl, rfl⟩

/-! ### Refreshes before -/

/-- Two stores that differ in nothing but the times at which certificates changed last. -/
structure SameButTimes (s t : Store) : Prop where
  rows : s.certificates.rows.map Row.untimed = t.certificates.rows.map Row.untimed
  counter : s.certificates.lastId = t.certificates.lastId
  requests : s.requests = t.requests

lemma SameButTimes.refl (s : Store) : s.SameButTimes s := ⟨rfl, rfl, rfl⟩

lemma SameButTimes.trans {u : Store} (h : s.SameButTimes t) (h' : t.SameButTimes u) :
    s.SameButTimes u :=
  ⟨h.rows.trans h'.rows, h.counter.trans h'.counter, h.requests.trans h'.requests⟩

/-- Refreshes in order; one that fails leaves the store alone. -/
def refreshAll (s : Store) : List (Context × Option Moment) → Store
  | [] => s
  | (ctx, reference) :: rest => (s.after (s.refresh ctx reference false)).refreshAll rest

variable {now threshold now' threshold' : Instant}

/-- An earlier refresh makes no difference to a later one. -/
lemma settle_settle_sameButTimes (h : now ≤ now') (s : Store) :
    ((s.settle now threshold).settle now' threshold').SameButTimes (s.settle now' threshold') := by
  refine ⟨?_, rfl, rfl⟩
  simp only [rows_settle, List.map_map]
  exact List.map_congr_left fun r _ => Row.untimed_settle_settle h r

/-- A refresh right after another one finds nothing to do. -/
lemma settle_settle (now threshold : Instant) (s : Store) :
    (s.settle now threshold).settle now threshold = s.settle now threshold := by
  refine Store.ext (Table.ext ?_ rfl) rfl
  simp only [rows_settle, List.map_map]
  exact List.map_congr_left fun r _ => Row.settle_settle now threshold r

lemma after_refresh_sameButTimes (h : (reference.getD ctx.clock).instant ≤ now') (s : Store) :
    ((s.after (s.refresh ctx reference false)).settle now' threshold').SameButTimes
      (s.settle now' threshold') := by
  cases hd : s.refresh ctx reference false with
  | error f => exact .refl _
  | ok d =>
    rcases store_of_refresh hd with hstore | ⟨threshold, hstore⟩
    · rw [after, hstore]
      exact .refl _
    · rw [after, hstore]
      exact settle_settle_sameButTimes h s

lemma refreshAll_sameButTimes {earlier : List (Context × Option Moment)}
    (h : ∀ r ∈ earlier, (r.2.getD r.1.clock).instant ≤ now') (s : Store) :
    ((s.refreshAll earlier).settle now' threshold').SameButTimes (s.settle now' threshold') := by
  induction earlier generalizing s with
  | nil => exact .refl _
  | cons r rest ih =>
    have hrest := ih fun r' hr' => h r' (List.mem_cons_of_mem _ hr')
    exact (hrest _).trans (after_refresh_sameButTimes (h r List.mem_cons_self) s)

/-- Refreshes that were made before, or missed, do not matter. After earlier refreshes, with
whatever windows, a refresh that can be made leads to the same store, but for the times of the last
changes, as it does without them; made once more it changes nothing and counts nothing. -/
theorem refresh_absorbs_earlier (ctx : Context) (days : Int)
    (hdays : ctx.settings.expiringDays = .int days) (reference : Option Moment)
    (hrefresh : ctx.CanRefresh (reference.getD ctx.clock) days) (s : Store)
    (earlier : List (Context × Option Moment))
    (hle : ∀ r ∈ earlier, (r.2.getD r.1.clock).instant ≤ (reference.getD ctx.clock).instant) :
    ∃ d d' again, s.refresh ctx reference false = .ok d ∧
      (s.refreshAll earlier).refresh ctx reference false = .ok d' ∧
      d'.store.SameButTimes d.store ∧
      d.store.refresh ctx reference false = .ok again ∧ again.value = ⟨0, 0, 0⟩ ∧
      again.store = d.store := by
  have hok (t : Store) := refresh_of_canRefresh hdays rfl hrefresh t
  exact ⟨_, _, _, hok s, hok _, refreshAll_sameButTimes hle s, hok _,
    Refresh.counts_run_run _ _ s.certificates, settle_settle _ _ s⟩

theorem refresh_absorbs_earlier_twoWindows :
    let ctx : Context :=
      { clock := .ofUtc (utc 2026 1 28 0), settings := { expiringDays := .int 7 } }
    let earlier : List (Context × Option Moment) :=
      [({ clock := .ofUtc (utc 2026 1 15 0) }, none),
        (ctx, some (.ofUtc (utc 2026 1 20 0)))]
    let s := holdingUntil (utc 2026 2 1 0)
    ctx.CanRefresh ctx.clock 7 ∧
    (∀ r ∈ earlier, (r.2.getD r.1.clock).instant ≤ ctx.clock.instant) ∧
    (s.refreshAll (earlier.take 1)).certificates.rows.map (·.data.status) = [.expiring] ∧
    (s.refreshAll earlier).certificates.rows.map (·.data.status) = [.valid] ∧
    ∃ d d', s.refresh ctx none false = .ok d ∧
      (s.refreshAll earlier).refresh ctx none false = .ok d' ∧ d'.store.SameButTimes d.store := by
  intro ctx earlier s
  have hdays : ctx.clock.Reaches 7 := (Moment.reaches_ofUtc_iff (by decide)).2 (by decide)
  have hrefresh : ctx.CanRefresh ctx.clock 7 := ⟨rfl, by decide, hdays⟩
  have hle : ∀ r ∈ earlier, (r.2.getD r.1.clock).instant ≤ ctx.clock.instant := by decide
  obtain ⟨d, d', -, hd, hd', hsame, -⟩ :=
    refresh_absorbs_earlier ctx 7 rfl none hrefresh s earlier hle
  exact ⟨hrefresh, hle, by decide +kernel, by decide +kernel, d, d', hd, hd', hsame⟩

/-- At a moment that cannot be stored a refresh does nothing, and so an earlier one makes the
difference, although both thresholds can be stored. -/
theorem storableThreshold_not_absorbed :
    let before : Moment := .ofUtc (timeEnd - 36 * hour)
    let late : Moment := ⟨timeEnd - hour, some (-(5 * hour))⟩
    let ctx (days : Int) : Context := { clock := before, settings := { expiringDays := .int days } }
    let s := holdingUntil (timeEnd - 48 * hour)
    before.instant ≤ late.instant ∧ before.Reaches 0 ∧ late.Reaches (-1) ∧
    s.refresh (ctx (-1)) (some late) false = .error .dateOverflow ∧
    ¬ (s.refreshAll [(ctx 0, some before), (ctx (-1), some late)]).SameButTimes
      (s.refreshAll [(ctx (-1), some late)]) := by
  intro before late ctx s
  refine ⟨by decide, ⟨by decide, by decide, by decide⟩, ⟨by decide, by decide, by decide⟩, rfl, ?_⟩
  intro h
  have hstatuses := congrArg (List.map fun r => r.data.status) h.rows
  revert hstatuses
  decide +kernel

end Store

end CertRegistry
