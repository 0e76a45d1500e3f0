import CertRegistry.Step
import CertRegistry.Proofs.Store.Refresh
import CertRegistry.Proofs.Time.Zone

/-!
# Dry runs

A dry run makes the three counts on one and the same table, where a refresh makes each of them after
the mark before it. The counts of the first two marks agree. The third one also has the expiring
certificates that have ended although they end past the threshold: those the first mark has expired
before. With a window that does not end before it begins there are none, and then the command says
in a dry run what it says when it is run next, and after that it has nothing more to do.
-/

namespace CertRegistry

namespace Command

/-! ### What the command says -/

/-- The line for no certificate at all. -/
def nothing : Text := "没有需要更新状态的证书"

/-- The three counts, as the command words them. -/
def numbers (c : RefreshCounts) : Text :=
  "标记 " ++ Text.ofNat c.expired ++ " 张证书为已过期，" ++ Text.ofNat c.expiring
    ++ " 张证书为即将过期，" ++ Text.ofNat c.valid ++ " 张证书恢复为有效"

/-- What the command says of its counts: what is going to be done, or what is done. -/
def announced (dryRun : Bool) (c : RefreshCounts) : Text :=
  if c.isZero then nothing else (if dryRun then Text.ofString "将" else "已") ++ numbers c

/-- A line as it is printed. -/
def shown (os : Options) (line : Text) : Text :=
  (if os.forceColor then highlighted line else line) ++ "\n"

lemma output_eq (os : Options) (c : RefreshCounts) :
    output os c = shown os (announced os.dryRun c) := by
  simp only [output, report, shown, announced, nothing, numbers, List.append_assoc]

end Command

namespace Step

variable {ctx : Context} {os : Command.Options} {s : Store}

/-- What the command prints and leaves where the refresh succeeds. -/
lemma run_refresh_of_eq_ok {d : Done RefreshCounts} (h : s.refresh ctx none os.dryRun = .ok d) :
    (refresh os).run ctx s =
      { d with value := .printed (Command.shown os (Command.announced os.dryRun d.value)) } := by
  have hrun : Command.run ctx os s = .ok { d with value := Command.output os d.value } := by
    rw [Command.run, h]
    rfl
  simp only [run, hrun, Command.output_eq]

/-- With a window of no or more days the command prints the counts of the marks, even in a dry
run. -/
lemma run_refresh {days : Int} (hdays : ctx.settings.expiringDays = .int days)
    (hrefresh : ctx.CanRefresh ctx.clock days) (hpos : 0 ≤ days) (os : Command.Options)
    (s : Store) :
    let now := ctx.clock.instant
    let threshold := (ctx.clock.plusDays days).instant
    let counts := (Refresh.run now threshold s.certificates).1
    ((refresh os).run ctx s).value =
      .printed (Command.shown os (Command.announced os.dryRun counts)) ∧
    ((refresh os).run ctx s).store = if os.dryRun then s else s.settle now threshold := by
  have hclock : (none : Option Moment).getD ctx.clock = ctx.clock := rfl
  cases hos : os.dryRun with
  | true =>
    have hok := Store.dryRun_of_canRefresh hdays hclock hrefresh s
    rw [Refresh.preview_eq_counts_run (Moment.instant_le_plusDays hpos), ← hos] at hok
    rw [run_refresh_of_eq_ok hok, hos]
    exact ⟨rfl, rfl⟩
  | false =>
    have hok := Store.refresh_of_canRefresh hdays hclock hrefresh s
    rw [← hos] at hok
    rw [run_refresh_of_eq_ok hok, hos]
    exact ⟨rfl, rfl⟩

/-- A dry run tells what a refresh does. It leaves the store alone and counts as many certificates
that expire and that come near their end; it counts as many more that recover as there are overdue
ones, of which there are none with a window of no or more days. With such a window the command
prints the counts in a dry run that it prints in the next run, and that nothing is to be done in any
run after that. -/
theorem dryRun_predicts (ctx : Context) (days : Int)
    (hdays : ctx.settings.expiringDays = .int days) (s : Store) :
    (∀ reference, let m := reference.getD ctx.clock
      ctx.CanRefresh m days → ∃ dry real, s.refresh ctx reference true = .ok dry ∧
        s.refresh ctx reference false = .ok real ∧ dry.store = s ∧
        dry.value.expired = real.value.expired ∧ dry.value.expiring = real.value.expiring ∧
        dry.value.valid = real.value.valid +
          Refresh.overdue m.instant (m.plusDays days).instant s.certificates ∧
        (0 ≤ days →
          Refresh.overdue m.instant (m.plusDays days).instant s.certificates = 0)) ∧
    (0 ≤ days → ctx.CanRefresh ctx.clock days → ∀ dryOptions options lastOptions : Command.Options,
      dryOptions.dryRun = true → options.dryRun = false →
      let dry := (refresh dryOptions).run ctx s
      let real := (refresh options).run ctx dry.store
      let last := (refresh lastOptions).run ctx real.store
      dry.store = s ∧ ∃ counts,
        dry.value = .printed (Command.shown dryOptions (Command.announced true counts)) ∧
        real.value = .printed (Command.shown options (Command.announced false counts)) ∧
        last.value = .printed (Command.shown lastOptions Command.nothing)) := by
  constructor
  · intro reference m hrefresh
    refine ⟨_, _, Store.dryRun_of_canRefresh hdays rfl hrefresh s,
      Store.refresh_of_canRefresh hdays rfl hrefresh s, rfl, ?_⟩
    rw [Refresh.preview_eq]
    exact ⟨rfl, rfl, rfl, fun hpos =>
      Refresh.overdue_eq_zero (Moment.instant_le_plusDays hpos) s.certificates⟩
  · intro hpos hrefresh dryOptions options lastOptions hdryOptions hoptions dry real last
    obtain ⟨hdryValue, hdryStore⟩ := run_refresh hdays hrefresh hpos dryOptions s
    obtain ⟨hrealValue, hrealStore⟩ := run_refresh hdays hrefresh hpos options dry.store
    obtain ⟨hlastValue, -⟩ := run_refresh hdays hrefresh hpos lastOptions real.store
    rw [hdryOptions] at hdryValue hdryStore
    rw [hoptions] at hrealValue hrealStore
    have hdry : dry.store = s := hdryStore
    have hreal : real.store = dry.store.settle _ _ := hrealStore
    have hcounts : (Refresh.run ctx.clock.instant (ctx.clock.plusDays days).instant
        real.store.certificates).1 = ⟨0, 0, 0⟩ := by
      rw [hreal]
      exact Refresh.counts_run_run _ _ dry.store.certificates
    rw [hcounts] at hlastValue
    refine ⟨hdry, _, hdryValue, ?_, hlastValue⟩
    rw [← hdry]
    exact hrealValue

theorem dryRun_predicts_bothWindows :
    let ctx (days : Int) : Context :=
      { clock := .ofUtc (utc 2026 1 15 4 30), settings := { expiringDays := .int days } }
    let s := Store.holdingUntil (utc 2026 2 1 0)
    let ended := (Store.holdingUntil (utc 2026 1 15 0)).settle (utc 2026 1 1 0) (utc 2026 2 1 0)
    (∃ dry real, ended.refresh (ctx (-1)) none true = .ok dry ∧
      ended.refresh (ctx (-1)) none false = .ok real ∧ dry.value.valid = real.value.valid + 1) ∧
    (Command.read ["--dry-run"]).toOption.map Command.Options.dryRun = some true ∧
    ∃ counts,
      let dry := (refresh { dryRun := true }).run (ctx 30) s
      dry.value = .printed (Command.shown { dryRun := true } (Command.announced true counts)) ∧
      ((refresh {}).run (ctx 30) dry.store).value =
        .printed (Command.shown {} (Command.announced false counts)) := by
  intro ctx s ended
  have hback : (ctx (-1)).clock.Reaches (-1) := (Moment.reaches_ofUtc_iff (by decide)).2 (by decide)
  have hahead : (ctx 30).clock.Reaches 30 := (Moment.reaches_ofUtc_iff (by decide)).2 (by decide)
  obtain ⟨hcounts, -⟩ := dryRun_predicts (ctx (-1)) (-1) rfl ended
  obtain ⟨-, hprints⟩ := dryRun_predicts (ctx 30) 30 rfl s
  obtain ⟨dry, real, hdry, hreal, -, -, -, hvalid, -⟩ := hcounts none ⟨rfl, by decide, hback⟩
  obtain ⟨-, counts, hdryPrint, hrealPrint, -⟩ :=
    hprints (by decide) ⟨rfl, by decide, hahead⟩ { dryRun := true } {} {} rfl rfl
  have hoverdue : Refresh.overdue (ctx (-1)).clock.instant ((ctx (-1)).clock.plusDays (-1)).instant
      ended.certificates = 1 := by
    decide +kernel
  exact ⟨⟨dry, real, hdry, hreal, hvalid.trans (congrArg _ hoverdue)⟩, by decide +kernel, counts,
    hdryPrint, hrealPrint⟩

/-- Where only the threshold can be stored, and not the clock an hour before the year 1 in UTC, or
where the settings do not say whether to debug, neither run tells anything. -/
theorem storableThreshold_not_predicted :
    let early : Context := { clock := ⟨0, some hour⟩ }
    let unset : Context := { clock := .ofUtc (utc 2026 1 15 4 30), settings := { debug := none } }
    let s := Store.holdingUntil (9 * day)
    early.clock.Reaches 30 ∧ unset.clock.Reaches 30 ∧
    s.refresh early none true = .error .dateOverflow ∧
    s.refresh unset none true = .error .unsettled ∧
    ((refresh { dryRun := true }).run early s).value = .failed .dateOverflow ∧
    ((refresh { dryRun := true }).run unset s).value = .failed .unsettled := by
  refine ⟨⟨by decide, by decide, by decide⟩, (Moment.reaches_ofUtc_iff (by decide)).2 (by decide),
    rfl, rfl, rfl, rfl⟩

end Step

end CertRegistry
