import CertRegistry.Proofs.Text.Numeral
import CertRegistry.Proofs.Time.Zone
import CertRegistry.Time.Iso

/-!
# What is read can be shown

Every date that is read is a day of the years 1 to 9999, and a time of day does not lead out of it.
So every moment that a text writes lies before the end of the year 9999 on its own clock.
-/

namespace CertRegistry

namespace Date

/-- The days of a year up to a day of one of its months. -/
lemma daysBeforeMonth_add_le {year month d : Nat} (hmonth : month ≤ 12)
    (hd : d ≤ monthLength year month) :
    daysBeforeMonth year month + d ≤ if isLeap year then 366 else 365 := by
  cases hleap : isLeap year <;> interval_cases month <;>
    simp [daysBeforeMonth, monthLength, hleap] at hd ⊢ <;> omega

/-- A date of the years 1 to 9999 has the number of one of their days. -/
lemma toNumber_lt {d : Date} (h : d.isValid) : d.toNumber < dayCount := by
  simp only [isValid, Bool.and_eq_true, decide_eq_true_eq] at h
  obtain ⟨⟨⟨⟨⟨hyear, hyear'⟩, -⟩, hmonth⟩, hday⟩, hlength⟩ := h
  have hrest := daysBeforeMonth_add_le hmonth hlength
  simp only [toNumber, daysBeforeYear, dayCount]
  cases hleap : isLeap d.year with
  | false =>
    simp only [hleap, Bool.false_eq_true, if_false] at hrest
    omega
  | true =>
    -- the last year is no leap year
    have hlast : d.year ≠ 9999 := by
      intro hyear
      rw [hyear] at hleap
      exact absurd hleap (by decide)
    simp only [hleap, if_true] at hrest
    omega

lemma ofWeek?_lt {year week weekday n : Nat} (h : ofWeek? year week weekday = some n) :
    n < dayCount := by
  simp only [ofWeek?] at h
  split_ifs at h with hweek hday
  obtain rfl := Option.some.inj h
  omega

end Date

/-! ### Readings -/

/-- Whatever comes of a reading has a property. -/
def Reads {α : Type} (o : Option α) (P : α → Prop) : Prop := ∀ a, o = some a → P a

namespace Reads

variable {α β : Type} {o : Option α} {f : α → Option β} {P : α → Prop} {Q : β → Prop}

lemma none : Reads Option.none P := nofun

lemma some {a : α} (h : P a) : Reads (Option.some a) P := by
  rintro _ ⟨⟩
  exact h

lemma bind (ho : Reads o P) (hf : ∀ a, P a → Reads (f a) Q) : Reads (o >>= f) Q := by
  intro b hb
  obtain ⟨a, ha, hb⟩ := Option.bind_eq_some_iff.1 hb
  exact hf a (ho a ha) b hb

/-- A reading that the rest does not depend on. -/
lemma bind_any (hf : ∀ a, Reads (f a) Q) : Reads (o >>= f) Q :=
  bind (P := fun _ => True) (fun _ _ => trivial) fun a _ => hf a

lemma ite {c : Prop} [Decidable c] {o' : Option α} (h : Reads o P) (h' : Reads o' P) :
    Reads (if c then o else o') P := by
  split_ifs
  · exact h
  · exact h'

end Reads

namespace Moment

lemma reads_dayNumber? (year month d : Nat) :
    Reads (dayNumber? year month d) fun n => n < Date.dayCount := by
  intro n h
  simp only [dayNumber?] at h
  split_ifs at h with hvalid
  obtain rfl := Option.some.inj h
  exact Date.toNumber_lt hvalid

/-- A time of day does not lead out of its day. -/
lemma reads_ofParts? {d u : Nat} (hd : d < Date.dayCount) (hu : u < 1000000) (h m s : Nat)
    (offset? : Option Int) :
    Reads (ofParts? d h m s u offset?) fun moment => moment.localTime < timeEnd := by
  intro moment hparts
  unfold ofParts? at hparts
  split_ifs at hparts with hclock
  obtain ⟨hhour, hminute, hsecond, -⟩ := hclock
  obtain rfl := Option.some.inj hparts
  have hlast : timeEnd = (Date.dayCount - 1) * day + day := by decide
  have hday : day = 86400000000 := by decide
  have hour_eq : hour = 3600000000 := by decide
  have minute_eq : minute = 60000000 := by decide
  have second_eq : second = 1000000 := by decide
  rw [hlast, hday, hour_eq, minute_eq, second_eq]
  show (d : Int) * 86400000000 + h * 3600000000 + m * 60000000 + s * 1000000 + u < _
  omega

/-- The digits of a fraction of a second, filled up to six, are microseconds below a second. -/
lemma microseconds_lt {n k : Nat} (hn : n < 10 ^ k) (hk : k ≤ 6) : n * 10 ^ (6 - k) < 1000000 := by
  calc n * 10 ^ (6 - k)
      < 10 ^ k * 10 ^ (6 - k) := Nat.mul_lt_mul_of_pos_right hn (by positivity)
    _ = 1000000 := by
      rw [← pow_add, Nat.add_sub_cancel' hk]
      rfl

/-! ### The compact form -/

namespace Compact

lemma reads_digits? (count : Nat) (t : List Nat) :
    Reads (digits? count t) fun p => p.1 < 10 ^ count := by
  intro p h
  simp only [digits?] at h
  split_ifs at h with hdigits
  obtain ⟨hlength, hall⟩ := hdigits
  obtain rfl := Option.some.inj h
  have hlt := Text.digitsValue_lt ((t.take count).map (· - 48)) ?_
  · rwa [List.length_map, hlength] at hlt
  · intro d hd
    obtain ⟨c, hc, rfl⟩ := List.mem_map.1 hd
    have hdigit := List.all_eq_true.1 hall c hc
    simp only [Text.isAsciiDigit, Bool.and_eq_true, decide_eq_true_eq] at hdigit
    omega

lemma reads_fraction? (length : Nat) (t : List Nat) :
    Reads (fraction? length t) fun p => p.1 < 1000000 := by
  refine (reads_digits? _ t).bind fun p hp => .some ?_
  exact microseconds_lt hp (min_le_right _ _)

/-- Either there is no fraction, or it was read as one. -/
lemma reads_clockFrom? (missing : Nat) :
    ∀ (fields : List Nat) (colons : Bool) (length : Nat) (t : List Nat),
      Reads (clockFrom? fields colons missing length t) fun c => c.microsecond < 1000000 := by
  induction missing with
  | zero => exact fun fields colons length t => (reads_fraction? length t).bind fun p hp => .some hp
  | succ missing ih =>
    intro fields colons length t
    refine .bind_any fun p => .ite (.some (Nat.zero_lt_succ _)) (.ite (ih _ _ _ _) (.ite ?_ ?_))
    · exact (reads_fraction? _ _).bind fun p hp => .some hp
    · exact .ite .none (ih _ _ _ _)

lemma reads_dayIn? (length : Nat) (t : List Nat) :
    Reads (dayIn? length t) fun p => p.1 < Date.dayCount := by
  refine .bind_any fun year => .ite ?_ ?_
  · refine .bind_any fun week => .ite (.ite .none (.bind_any fun weekday => ?_)) ?_
    · exact Reads.bind (fun _ => Date.ofWeek?_lt) fun n hn => .some hn
    · exact Reads.bind (fun _ => Date.ofWeek?_lt) fun n hn => .some hn
  · refine .bind_any fun month => .ite .none (.bind_any fun d => ?_)
    exact (reads_dayNumber? _ _ _).bind fun n hn => .some hn

lemma reads_date? (length : Nat) (t : List Nat) :
    Reads (date? length t) fun d => d < Date.dayCount :=
  (reads_dayIn? length t).bind fun _ hd => .ite (.some hd) .none

lemma reads_time? {d : Nat} (hd : d < Date.dayCount) (t : List Nat) :
    Reads (time? d t) fun m => m.localTime < timeEnd := by
  refine (reads_clockFrom? 3 _ _ _ t).bind fun c hc => ?_
  split
  · exact .ite (reads_ofParts? hd hc _ _ _ _) .none
  · refine .ite (.ite (reads_ofParts? hd hc _ _ _ _) .none) (.bind_any fun o => ?_)
    exact .ite (reads_ofParts? hd hc _ _ _ _) .none

lemma reads_read? (t : Text) : Reads (read? t) fun m => m.localTime < timeEnd := by
  refine .ite .none (.ite .none ?_)
  split
  · exact .none
  · next d hd =>
    have hd := reads_date? _ _ d hd
    split
    · exact reads_ofParts? hd (by decide) _ _ _ _
    · exact reads_time? hd _

end Compact

/-! ### The spaced form -/

namespace Spaced

lemma reads_digits? (least most : Nat) (t : Text) :
    Reads (digits? least most t) fun p => ∀ d ∈ p.1, d < 10 := by
  refine .ite (.some fun d hd => ?_) .none
  obtain ⟨c, -, hc⟩ := List.mem_filterMap.1 hd
  exact Text.digitValue?_lt hc

lemma seconds_microsecond_lt (t : Text) : (seconds t).2.1 < 1000000 := by
  unfold seconds
  split
  · exact Nat.zero_lt_succ _
  · split
    · exact Nat.zero_lt_succ _
    · next f r' hf =>
      have hdigits : ∀ d ∈ f, d < 10 :=
        (Reads.bind_any fun a => reads_digits? 1 12 a) (f, r') hf
      have hlt : Text.digitsValue (f.take 6) < 10 ^ (f.take 6).length :=
        Text.digitsValue_lt _ fun d hd => hdigits d (List.mem_of_mem_take hd)
      exact microseconds_lt hlt (List.length_take_le 6 f)

lemma reads_read? (t : Text) :
    Reads (read? t) fun m? => Reads m? fun m => m.localTime < timeEnd := by
  refine .bind_any fun year => .bind_any fun month => .bind_any fun d => .bind_any fun h => ?_
  refine .bind_any fun m => .ite (.some ?_) .none
  exact (reads_dayNumber? _ _ _).bind fun n hn =>
    reads_ofParts? hn (seconds_microsecond_lt _) _ _ _ _

end Spaced

/-- A moment that a text writes lies before the end of the year 9999 on its clock. -/
theorem reads_read? (t : Text) : Reads (read? t) fun m => m.localTime < timeEnd := by
  unfold read?
  split
  · next m hm => exact .some (Compact.reads_read? t m hm)
  · split
    · next m? hm => exact Spaced.reads_read? t m? hm
    · exact .ite (.some (by decide)) .none

end Moment

end CertRegistry
