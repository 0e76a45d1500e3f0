import CertRegistry.Proofs.Time.Writing
import CertRegistry.Proofs.Time.Zone

/-!
# Local times that the zone skips

When the offset of the zone grows, the clock jumps ahead and skips some local times. Such a time is
still read, with the offset from before the jump, but the zone's clock tells its instant
differently. Every other local time is told as it was read.
-/

namespace CertRegistry

namespace Zone

/-- No instant has this local time in the zone. -/
def IsSkipped (w : Int) : Prop := ∀ t, t + offsetAt t ≠ w

/-- Two changes in order, also on the clocks that they lead to. -/
def Change.Before (c d : Change) : Prop :=
  c.start ≤ d.start ∧ c.start + c.offset ≤ d.start + d.offset

instance (c d : Change) : Decidable (c.Before d) := inferInstanceAs (Decidable (_ ∧ _))

lemma changes_pairwise : changes.Pairwise Change.Before := by
  decide

lemma changes_seconds : ∀ c ∈ changes, c.offset % 1000000 = 0 := by
  decide

lemma localOffsetFrom_le {w : Int} {c : Change} {cs : List Change}
    (hcs : ∀ d ∈ cs, c.Before d) (hw : c.start + c.offset ≤ w) :
    c.start ≤ w - localOffsetFrom w c.offset cs := by
  rcases localOffsetFrom_eq w c.offset cs with h | ⟨d, hd, hstart, h⟩
  · grind
  · have hbefore := (hcs d hd).1
    grind

/-- Read with its offset, a local time that is not skipped has that offset. The induction is on the
changes to come: either the time is past the first of them by both offsets, or by neither. -/
lemma offsetFrom_localOffsetFrom {w offset : Int} {cs : List Change}
    (hcs : cs.Pairwise Change.Before) {t : Instant} (ht : t + offsetFrom t offset cs = w) :
    offsetFrom (w - localOffsetFrom w offset cs) offset cs = localOffsetFrom w offset cs := by
  induction cs generalizing offset with
  | nil => rfl
  | cons c cs ih =>
    obtain ⟨hbefore, hcs⟩ := List.pairwise_cons.1 hcs
    simp only [offsetFrom] at ht
    unfold localOffsetFrom
    by_cases hpast : c.start + max offset c.offset ≤ w
    · have hstart := localOffsetFrom_le (w := w) hbefore (by grind)
      rw [if_pos hpast, offsetFrom, if_pos hstart]
      apply ih hcs
      split_ifs at ht with hcome
      · exact ht
      · grind
    · have hearly : ¬ c.start ≤ w - offset := by
        intro hlate
        split_ifs at ht with hcome
        · rcases offsetFrom_eq t c.offset cs with h | ⟨d, hd, hd', h⟩
          · grind
          · have hclock := (hbefore d hd).2
            grind
        · grind
      rw [if_neg hpast, offsetFrom, if_neg hearly]

/-- A local time is told with the offset it is read with, unless it is skipped. -/
theorem offsetAt_localOffset_iff {w : Int} :
    offsetAt (w - localOffset w) = localOffset w ↔ ¬ IsSkipped w := by
  constructor
  · intro h hskipped
    apply hskipped (w - localOffset w)
    rw [h, sub_add_cancel]
  · intro h
    simp only [IsSkipped, not_forall, not_not] at h
    obtain ⟨t, ht⟩ := h
    exact offsetFrom_localOffsetFrom changes_pairwise ht

/-! ### Offsets in a text -/

lemma natAbs_lt_of_bounds {offset : Int} (h : standard ≤ offset ∧ offset ≤ summer) :
    offset.natAbs < 86400000000 := by
  have hstandard : standard = 28800000000 := by decide
  have hsummer : summer = 32400000000 := by decide
  omega

/-- The zone has no offsets with fractions of a second. -/
lemma offsetAt_seconds (t : Instant) : offsetAt t % 1000000 = 0 := by
  rcases offsetFrom_eq t meanOffset changes with h | ⟨c, hc, -, h⟩
  · rw [offsetAt, h]
    decide
  · rw [offsetAt, h]
    exact changes_seconds c hc

lemma localOffset_seconds (w : Int) : localOffset w % 1000000 = 0 := by
  rcases localOffsetFrom_eq w meanOffset changes with h | ⟨c, hc, -, h⟩
  · rw [localOffset, h]
    decide
  · rw [localOffset, h]
    exact changes_seconds c hc

end Zone

namespace Moment

/-- The moment of an instant on the clock of the zone. -/
def onClock (t : Instant) : Moment := ⟨t + Zone.offsetAt t, some (Zone.offsetAt t)⟩

@[simp] lemma instant_onClock (t : Instant) : (onClock t).instant = t := by
  simp [onClock, instant, offset]

lemma ofInstant?_eq_some {t : Instant} (h : IsShown t) : ofInstant? t = some (onClock t) := by
  rw [isShown_iff] at h
  simp [ofInstant?, onClock, h]

lemma isTold_onClock {t : Instant} (h : IsShown t) : (onClock t).IsTold :=
  ⟨isShown_iff.1 h, _, rfl, Zone.natAbs_lt_of_bounds (Zone.offsetAt_bounds t),
    Zone.offsetAt_seconds t⟩

lemma isTold_ofLocal {w : Int} (hw : w < timeEnd) (h : inRange (ofLocal w).instant) :
    (ofLocal w).IsTold := by
  refine ⟨?_, _, rfl, Zone.natAbs_lt_of_bounds (Zone.localOffset_bounds w),
    Zone.localOffset_seconds w⟩
  have hpos : (0 : Int) ≤ Zone.standard := by decide
  have hoffset := (Zone.localOffset_bounds w).1
  rw [inRange_iff] at h ⊢
  simp only [ofLocal, instant, offset, Option.getD_some] at h ⊢
  omega

/-- A local time that is not skipped is what the clock tells at its instant. -/
lemma onClock_ofLocal_iff {w : Int} :
    onClock (ofLocal w).instant = ofLocal w ↔ ¬ Zone.IsSkipped w := by
  rw [← Zone.offsetAt_localOffset_iff]
  simp only [onClock, ofLocal, instant, offset, Option.getD_some, Moment.mk.injEq,
    Option.some.injEq]
  constructor
  · exact And.right
  · intro h
    exact ⟨by omega, h⟩

/-- A date that was taken from a text is told by its text. -/
lemma isTold_of_inZone? {m m' : Moment} (hm : m.localTime < timeEnd) (h : m.inZone? = some m')
    (hrange : inRange m'.instant) : m'.IsTold := by
  unfold inZone? at h
  split at h
  · obtain rfl := Option.some.inj h
    exact isTold_ofLocal hm hrange
  · split_ifs at h
    have hshown : IsShown m.instant := by simp [IsShown, h]
    rw [ofInstant?_eq_some hshown] at h
    obtain rfl := Option.some.inj h
    exact isTold_onClock hshown

lemma eq_onClock_of_ofInstant? {t : Instant} {m : Moment} (h : ofInstant? t = some m) :
    m = onClock m.instant := by
  have hshown : IsShown t := by simp [IsShown, h]
  rw [ofInstant?_eq_some hshown] at h
  obtain rfl := Option.some.inj h
  rw [instant_onClock]

lemma eq_of_inZone? {m m' : Moment} (h : m.inZone? = some m') :
    (∃ w, m' = ofLocal w) ∨ m' = onClock m'.instant := by
  unfold inZone? at h
  split at h
  · exact Or.inl ⟨_, (Option.some.inj h).symm⟩
  · split_ifs at h
    exact Or.inr (eq_onClock_of_ofInstant? h)

end Moment

end CertRegistry
