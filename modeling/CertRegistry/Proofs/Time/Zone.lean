import CertRegistry.Proofs.Time.Span
import CertRegistry.Time.Moment

/-!
# The bounds of the zone

The offset of the registry's zone always lies between its standard and its summer offset, and it is
the standard one since the last change. So a local time of the years 1 to 9999 that is an instant
of these years, too, can be shown again.
-/

namespace CertRegistry

namespace Zone

lemma mem_changes_offset {c : Change} (h : c ∈ changes) :
    standard ≤ c.offset ∧ c.offset ≤ summer := by
  revert c
  decide

/-- The offset is the one before the changes or that of a change that has come. -/
lemma offsetFrom_eq (t : Instant) (offset : Int) (cs : List Change) :
    offsetFrom t offset cs = offset ∨
      ∃ c ∈ cs, c.start ≤ t ∧ offsetFrom t offset cs = c.offset := by
  induction cs generalizing offset with
  | nil => exact Or.inl rfl
  | cons c cs ih =>
    unfold offsetFrom
    split_ifs with hstart
    · rcases ih c.offset with h | ⟨d, hd, h⟩
      · exact Or.inr ⟨c, List.mem_cons_self, hstart, h⟩
      · exact Or.inr ⟨d, List.mem_cons_of_mem _ hd, h⟩
    · exact Or.inl rfl

lemma localOffsetFrom_eq (w : Int) (offset : Int) (cs : List Change) :
    localOffsetFrom w offset cs = offset ∨
      ∃ c ∈ cs, c.start + c.offset ≤ w ∧ localOffsetFrom w offset cs = c.offset := by
  induction cs generalizing offset with
  | nil => exact Or.inl rfl
  | cons c cs ih =>
    unfold localOffsetFrom
    split_ifs with hstart
    · rcases ih c.offset with h | ⟨d, hd, h⟩
      · have hclock : c.start + c.offset ≤ w :=
          le_trans (add_le_add_right (le_max_right offset c.offset) c.start) hstart
        exact Or.inr ⟨c, List.mem_cons_self, hclock, h⟩
      · exact Or.inr ⟨d, List.mem_cons_of_mem _ hd, h⟩
    · exact Or.inl rfl

lemma offsetAt_bounds (t : Instant) : standard ≤ offsetAt t ∧ offsetAt t ≤ summer := by
  rcases offsetFrom_eq t meanOffset changes with h | ⟨c, hc, -, h⟩
  · rw [offsetAt, h]
    decide
  · rw [offsetAt, h]
    exact mem_changes_offset hc

lemma localOffset_bounds (w : Int) : standard ≤ localOffset w ∧ localOffset w ≤ summer := by
  rcases localOffsetFrom_eq w meanOffset changes with h | ⟨c, hc, -, h⟩
  · rw [localOffset, h]
    decide
  · rw [localOffset, h]
    exact mem_changes_offset hc

/-- Past all changes the offset is that of the last one. -/
lemma offsetFrom_of_forall {t : Instant} {offset : Int} {cs : List Change}
    (h : ∀ c ∈ cs, c.start ≤ t) :
    offsetFrom t offset cs = ((cs.map Change.offset).getLast?).getD offset := by
  induction cs generalizing offset with
  | nil => rfl
  | cons c cs ih =>
    rw [offsetFrom, if_pos (h c List.mem_cons_self),
      ih fun d hd => h d (List.mem_cons_of_mem _ hd), List.map_cons, List.getLast?_cons]
    rfl

/-- The last change was in 1991. -/
lemma offsetAt_of_le {t : Instant} (h : utc 1992 1 1 0 ≤ t) : offsetAt t = standard := by
  have hpast : ∀ c ∈ changes, c.start ≤ utc 1992 1 1 0 := by decide
  rw [offsetAt, offsetFrom_of_forall fun c hc => (hpast c hc).trans h]
  decide

/-- A local time below the end of the year 9999 stays below it when its instant is shown: where
that end is near, the zone has kept one offset for long, and elsewhere no change of the offset
leads that far. -/
lemma inRange_shown {w : Int} (hw : w < timeEnd) (h : inRange (w - localOffset w)) :
    inRange (w - localOffset w + offsetAt (w - localOffset w)) := by
  obtain ⟨hlow, hhigh⟩ := localOffset_bounds w
  generalize ht : w - localOffset w = t at h ⊢
  obtain ⟨hlow', hhigh'⟩ := offsetAt_bounds t
  have hpos : 0 ≤ standard := by decide
  rw [inRange_iff] at h ⊢
  rcases lt_or_ge t (utc 1992 1 1 0) with hearly | hlate
  · have hshown : t + offsetAt t < timeEnd := calc
      t + offsetAt t < utc 1992 1 1 0 + summer := add_lt_add_of_lt_of_le hearly hhigh'
      _ < timeEnd := by decide
    omega
  · rw [offsetAt_of_le hlate]
    omega

end Zone

namespace Moment

/-- Days ahead lead to a later instant on every clock: on one without an offset, the offsets that it
hangs in differ by less than a day. -/
lemma instant_le_plusDays {m : Moment} {days : Int} (hdays : 0 ≤ days) :
    m.instant ≤ (m.plusDays days).instant := by
  have hday : 0 < day := by decide
  cases hoffset : m.offset? with
  | some offset =>
    rw [instant_plusDays (by rw [hoffset]; rfl)]
    exact Int.le_add_of_nonneg_right (mul_nonneg hdays hday.le)
  | none =>
    rcases hdays.eq_or_lt with rfl | hpos
    · simp [plusDays]
    · obtain ⟨hlow, -⟩ := Zone.localOffset_bounds m.localTime
      obtain ⟨-, hhigh⟩ := Zone.localOffset_bounds (m.localTime + days * day)
      have hspan : day ≤ days * day := le_mul_of_one_le_left hday.le hpos
      have hsmall : Zone.summer - Zone.standard ≤ day := by decide
      simp only [instant, offset, plusDays, hoffset, Option.getD_none]
      linarith

/-- A moment that the registry can show: it does not lie past the year 9999 in the zone. -/
def IsShown (t : Instant) : Prop := (ofInstant? t).isSome

lemma isShown_iff {t : Instant} : IsShown t ↔ inRange (t + Zone.offsetAt t) := by
  simp only [IsShown, ofInstant?]
  split_ifs with h <;> simp [h]

/-- What is shown can be shown again. -/
lemma isShown_of_eq_some {t : Instant} {m : Moment} (h : ofInstant? t = some m) :
    IsShown m.instant := by
  have hshown : IsShown t := by simp [IsShown, h]
  rw [isShown_iff] at hshown
  obtain rfl : (⟨t + Zone.offsetAt t, some (Zone.offsetAt t)⟩ : Moment) = m := by
    simpa [ofInstant?, hshown] using h
  rw [isShown_iff]
  simpa [instant, offset] using hshown

lemma isShown_ofLocal {w : Int} (hw : w < timeEnd) (h : inRange (ofLocal w).instant) :
    IsShown (ofLocal w).instant :=
  isShown_iff.2 (Zone.inRange_shown hw h)

end Moment

end CertRegistry
