import CertRegistry.Proofs.Text.Numeral
import CertRegistry.Proofs.Time.Calendar
import CertRegistry.Proofs.Time.Span
import CertRegistry.Time.Iso

/-!
# What is written is read back

The text of a moment is in the compact form, and reading it gives the moment again, to the
microsecond and with its offset. Each part of the text is read back on its own, whatever stands
behind it: the date, the time of day up to the sign of the offset, and the offset.
-/

namespace CertRegistry

namespace Moment.Compact

/-! ### A time of day -/

lemma digits?_padded {width n : Nat} (h : 0 < width) (hn : n < 10 ^ width) (rest : List Nat) :
    digits? width (Text.padded width n ++ rest) = some (n, rest) := by
  have hlength := Text.length_padded h hn
  have hdigits : (Text.padded width n).all Text.isAsciiDigit :=
    List.all_eq_true.2 fun c hc => Text.isAsciiDigit_of_mem_padded hc
  simp [digits?, List.take_left' hlength, List.drop_left' hlength, hlength, hdigits,
    Text.digitsValue_padded]

@[simp] lemma front_cons (c : Nat) (t : List Nat) : front (c :: t) = c := rfl
@[simp] lemma front_nil : front [] = 0 := rfl

/-- The parts of a time of day. -/
def clockOf (u : Nat) (complete : Bool) : Clock :=
  ⟨u / 1000000 / 3600, u / 1000000 / 60 % 60, u / 1000000 % 60, u % 1000000, complete⟩

variable {fields : List Nat} {colons : Bool} {missing length n : Nat}

/-- A field with a colon behind it. -/
lemma clockFrom?_colon (hn : n < 100) (hcolons : fields = [] ∨ colons) (hlength : 3 < length)
    (t : List Nat) :
    clockFrom? fields colons (missing + 1) length (Text.padded 2 n ++ 58 :: t) =
      clockFrom? (fields ++ [n]) true missing (length - 3) t := by
  have hdigits := digits?_padded Nat.two_pos hn (58 :: t)
  rcases hcolons with rfl | rfl <;>
    simp [clockFrom?, hdigits, hlength.not_ge]

/-- The field at the end. -/
lemma clockFrom?_last (hn : n < 100) (tail : List Nat) :
    clockFrom? fields colons (missing + 1) 2 (Text.padded 2 n ++ tail) =
      let all := fields ++ [n]
      some ⟨all.getD 0 0, all.getD 1 0, all.getD 2 0, 0, decide (front tail = 0)⟩ := by
  simp [clockFrom?, digits?_padded Nat.two_pos hn tail]

/-- The field at the end, with a fraction behind it. -/
lemma clockFrom?_fraction {f : Nat} (hn : n < 100) (hf : f < 1000000) (tail : List Nat) :
    clockFrom? fields true (missing + 1) 9 (Text.padded 2 n ++ 46 :: (Text.padded 6 f ++ tail)) =
      let all := fields ++ [n]
      some ⟨all.getD 0 0, all.getD 1 0, all.getD 2 0, f,
        decide (front (tail.dropWhile Text.isAsciiDigit) = 0)⟩ := by
  have hdigits := digits?_padded Nat.two_pos hn (46 :: (Text.padded 6 f ++ tail))
  have hfraction := digits?_padded (Nat.succ_pos 5) hf tail
  simp [clockFrom?, fraction?, hdigits, hfraction]

lemma clock?_clockText {u : Nat} (hu : u < 86400000000) (tail : List Nat) :
    ∃ complete, clock? (clockText u).length (clockText u ++ tail) = some (clockOf u complete) ∧
      (tail = [] → complete) := by
  have hhour : u / 1000000 / 3600 < 100 := by omega
  have hminute : u / 1000000 / 60 % 60 < 100 := by omega
  have hsecond : u / 1000000 % 60 < 100 := by omega
  have hcolon : Text.ofString ":" = [58] := rfl
  have hpoint : Text.ofString "." = [46] := rfl
  have htwo {n : Nat} (hn : n < 100) := Text.length_padded Nat.two_pos hn
  by_cases hrest : u % 1000000 = 0
  · refine ⟨decide (front tail = 0), ?_, by rintro rfl; rfl⟩
    have hlength : (clockText u).length = 8 := by
      simp [clockText, hrest, hcolon, htwo hhour, htwo hminute, htwo hsecond]
    rw [hlength]
    simp only [clockText, hrest, hcolon, if_true, List.append_nil, List.append_assoc,
      List.cons_append, List.nil_append]
    rw [clock?, clockFrom?_colon hhour (Or.inl rfl) (by decide),
      clockFrom?_colon hminute (Or.inr rfl) (by decide), clockFrom?_last hsecond]
    simp [clockOf, hrest]
  · have hfraction : u % 1000000 < 1000000 := by omega
    refine ⟨decide (front (tail.dropWhile Text.isAsciiDigit) = 0), ?_, by rintro rfl; rfl⟩
    have hlength : (clockText u).length = 15 := by
      have hsix := Text.length_padded (Nat.succ_pos 5) hfraction
      simp [clockText, hrest, hcolon, hpoint, htwo hhour, htwo hminute, htwo hsecond, hsix]
    rw [hlength]
    simp only [clockText, hrest, hcolon, hpoint, if_false, List.append_assoc,
      List.cons_append, List.nil_append]
    rw [clock?, clockFrom?_colon hhour (Or.inl rfl) (by decide),
      clockFrom?_colon hminute (Or.inr rfl) (by decide), clockFrom?_fraction hsecond hfraction]
    rfl

/-- Hours and minutes alone, where there are no seconds. -/
lemma take_clockText {u : Nat} (hu : u < 86400000000) (h : u % 60000000 = 0) :
    (clockText u).take 5 =
      Text.padded 2 (u / 1000000 / 3600) ++ 58 :: Text.padded 2 (u / 1000000 / 60 % 60) := by
  have hrest : u % 1000000 = 0 := by omega
  have hcolon : Text.ofString ":" = [58] := rfl
  have hlength := Text.length_padded Nat.two_pos (show u / 1000000 / 3600 < 10 ^ 2 by omega)
  have hlength' := Text.length_padded Nat.two_pos (show u / 1000000 / 60 % 60 < 10 ^ 2 by omega)
  simp [clockText, hrest, hcolon, List.take_append, hlength, hlength', List.take_of_length_le]

lemma mem_clockText {u c : Nat} (h : c ∈ clockText u) :
    Text.isAsciiDigit c ∨ c = 58 ∨ c = 46 := by
  have hpadded {width n : Nat} (h : c ∈ Text.padded width n) := Text.isAsciiDigit_of_mem_padded h
  have hcolon : Text.ofString ":" = [58] := rfl
  have hpoint : Text.ofString "." = [46] := rfl
  simp only [clockText, hcolon, hpoint, List.mem_append, List.mem_singleton] at h
  rcases h with ((((h | h) | h) | h) | h) | h
  · exact Or.inl (hpadded h)
  · exact Or.inr (Or.inl h)
  · exact Or.inl (hpadded h)
  · exact Or.inr (Or.inl h)
  · exact Or.inl (hpadded h)
  · split_ifs at h
    · exact absurd h List.not_mem_nil
    · rcases List.mem_cons.1 h with h | h
      · exact Or.inr (Or.inr h)
      · exact Or.inl (hpadded h)

/-! ### An offset -/

/-- What follows the sign of an offset. -/
def offsetBody (s : Nat) : Text := if s % 60000000 = 0 then (clockText s).take 5 else clockText s

lemma clock?_offsetBody {s : Nat} (hs : s < 86400000000) :
    clock? (offsetBody s).length (offsetBody s) = some (clockOf s true) := by
  unfold offsetBody
  split_ifs with h
  · have hhour : s / 1000000 / 3600 < 10 ^ 2 := by omega
    have hminute : s / 1000000 / 60 % 60 < 10 ^ 2 := by omega
    have hsecond : s / 1000000 % 60 = 0 := by omega
    have hrest : s % 1000000 = 0 := by omega
    have hlast : clockFrom? [s / 1000000 / 3600] true 2 2
        (Text.padded 2 (s / 1000000 / 60 % 60) ++ []) = _ := clockFrom?_last hminute []
    rw [List.append_nil] at hlast
    rw [take_clockText hs h, List.length_append, List.length_cons,
      Text.length_padded Nat.two_pos hhour, Text.length_padded Nat.two_pos hminute, clock?,
      clockFrom?_colon hhour (Or.inl rfl) (by decide)]
    simpa [clockOf, hsecond, hrest] using hlast
  · obtain ⟨complete, hclock, hcomplete⟩ := clock?_clockText hs []
    rw [List.append_nil, hcomplete rfl] at hclock
    exact hclock

/-- A time of day ends at the sign of the offset. -/
lemma takeWhile_clockText (u : Nat) {mark : Nat} (hmark : opensOffset mark) (t : List Nat) :
    (clockText u ++ mark :: t).takeWhile (!opensOffset ·) = clockText u := by
  rw [List.takeWhile_append_of_pos]
  · simp [hmark]
  · intro c hc
    rcases mem_clockText hc with h | rfl | rfl
    · simp only [Text.isAsciiDigit, Bool.and_eq_true, decide_eq_true_eq] at h
      simp only [opensOffset, Bool.not_eq_true', Bool.or_eq_false_iff, decide_eq_false_iff_not]
      omega
    · rfl
    · rfl

/-- The parts of a time of day make it up. -/
lemma ofParts?_clockOf {u : Nat} (hu : u < 86400000000) (d : Nat) (complete : Bool)
    {offset? : Option Int} (hoffset : ∀ o ∈ offset?, -day < o ∧ o < day) :
    let c := clockOf u complete
    ofParts? d c.hour c.minute c.second c.microsecond offset? = some ⟨d * day + u, offset?⟩ := by
  have hhour : u / 1000000 / 3600 < 24 := by omega
  have hminute : u / 1000000 / 60 % 60 < 60 := by omega
  have hsecond : u / 1000000 % 60 < 60 := by omega
  have hour_eq : hour = 3600000000 := by decide
  have minute_eq : minute = 60000000 := by decide
  have second_eq : second = 1000000 := by decide
  intro c
  rw [ofParts?, if_pos ⟨hhour, hminute, hsecond, hoffset⟩, hour_eq, minute_eq, second_eq]
  simp only [c, clockOf, Option.some.injEq, Moment.mk.injEq, and_true]
  push_cast
  omega

/-- An offset of whole seconds is made up by hours, minutes and seconds. -/
lemma clockOf_seconds {s : Nat} (h : s % 1000000 = 0) (complete : Bool) :
    let c := clockOf s complete
    (c.hour * hour + c.minute * minute + c.second * second : Int) = s ∧ c.microsecond = 0 := by
  have hour_eq : hour = 3600000000 := by decide
  have minute_eq : minute = 60000000 := by decide
  have second_eq : second = 1000000 := by decide
  simp only [clockOf, hour_eq, minute_eq, second_eq]
  push_cast
  omega

lemma time?_text {d u : Nat} {o : Int} (hu : u < 86400000000) (ho : o.natAbs < 86400000000)
    (hseconds : o % 1000000 = 0) :
    time? d (clockText u ++ offsetText o) = some ⟨d * day + u, some o⟩ := by
  -- the sign is a hyphen or a plus sign, and the rest is the same for both
  obtain ⟨mark, hmark, htext⟩ : ∃ mark, mark = (if o < 0 then 45 else 43) ∧
      offsetText o = mark :: offsetBody o.natAbs := by
    refine ⟨_, rfl, ?_⟩
    simp only [offsetText, offsetBody]
    split_ifs <;> rfl
  have hopens : opensOffset mark := by
    rw [hmark]
    split_ifs <;> rfl
  have hutc : mark ≠ 90 := by
    rw [hmark]
    split_ifs <;> decide
  have hsign : (if mark = 45 then -(o.natAbs : Int) else o.natAbs) = o := by
    rw [hmark]
    split_ifs <;> omega
  obtain ⟨complete, hclock, -⟩ := clock?_clockText hu (mark :: offsetBody o.natAbs)
  obtain ⟨hsize, hfraction⟩ := clockOf_seconds (s := o.natAbs) (by omega) true
  have hoffset : ∀ o' ∈ some o, -day < o' ∧ o' < day := by
    have hday : day = 86400000000 := by decide
    simp only [Option.mem_some, forall_eq']
    omega
  have hall : (clockOf o.natAbs true).complete = true := rfl
  have hsum : (if (o.natAbs : Int) = 0 then 0 else (o.natAbs : Int) + (0 : Nat)) = o.natAbs := by
    split_ifs <;> omega
  simp only [htext, time?, takeWhile_clockText u hopens, hclock, List.drop_left,
    Option.bind_eq_bind, Option.bind_some, if_neg hutc, clock?_offsetBody ho, hsize, hfraction,
    hsum, hsign, hall, if_true]
  exact ofParts?_clockOf hu d complete hoffset

/-! ### A date -/

lemma front_padded {width n : Nat} (hwidth : 0 < width) (hn : n < 10 ^ width) (t : List Nat) :
    Text.isAsciiDigit (front (Text.padded width n ++ t)) := by
  have hlength := Text.length_padded hwidth hn
  obtain ⟨c, cs, hc⟩ := List.exists_cons_of_length_pos (hlength ▸ hwidth)
  have hmem : c ∈ Text.padded width n := by simp [hc]
  have hdigit := Text.isAsciiDigit_of_mem_padded hmem
  simpa [hc] using hdigit

lemma text_append (d : Date) (t : List Nat) : d.text ++ t =
    Text.padded 4 d.year ++ 45 :: (Text.padded 2 d.month ++ 45 :: (Text.padded 2 d.day ++ t)) := by
  have hhyphen : Text.ofString "-" = [45] := rfl
  simp [Date.text, hhyphen]

variable {d : Date}

/-- The parts of a date of the years 1 to 9999 have four and two digits. -/
lemma digits_of_isValid (h : d.isValid) : d.year < 10 ^ 4 ∧ d.month < 10 ^ 2 ∧ d.day < 10 ^ 2 := by
  obtain ⟨-, hyear, -, hmonth, -, hday⟩ := Date.isValid_iff.1 h
  have hlong : Date.monthLength d.year d.month ≤ 31 := by
    unfold Date.monthLength
    split_ifs <;> decide
  omega

lemma length_date (h : d.isValid) : d.text.length = 10 := by
  obtain ⟨hyear, hmonth, hday⟩ := digits_of_isValid h
  have htext := text_append d []
  rw [List.append_nil] at htext
  simp [htext, Text.length_padded (Nat.succ_pos 3) hyear, Text.length_padded Nat.two_pos hmonth,
    Text.length_padded Nat.two_pos hday]

/-- A month begins with a digit, not with the letter for weeks. -/
lemma front_month_ne (h : d.isValid) (t : List Nat) : front (Text.padded 2 d.month ++ t) ≠ 87 := by
  intro heq
  have hdigit := front_padded Nat.two_pos (digits_of_isValid h).2.1 t
  rw [heq] at hdigit
  exact absurd hdigit (by decide)

lemma date?_text (h : d.isValid) (t : List Nat) : date? 10 (d.text ++ t) = some d.toNumber := by
  obtain ⟨hyear, hmonth, hday⟩ := digits_of_isValid h
  have hnumber : dayNumber? d.year d.month d.day = some d.toNumber := if_pos h
  have hall : 4 + (2 + (2 + t.length + 1) + 1) - t.length = 10 := by omega
  rw [text_append]
  simp [date?, dayIn?, digits?_padded (Nat.succ_pos 3) hyear, digits?_padded Nat.two_pos hmonth,
    digits?_padded Nat.two_pos hday, front_month_ne h, hnumber,
    Text.length_padded (Nat.succ_pos 3) hyear, Text.length_padded Nat.two_pos hmonth,
    Text.length_padded Nat.two_pos hday, hall]

/-- The separator stands behind the ten places of a date. -/
lemma separatorIndex_text (h : d.isValid) (t : List Nat) : separatorIndex (d.text ++ t) = 10 := by
  have hlength : (d.text ++ t).length ≠ 7 := by
    rw [List.length_append, length_date h]
    omega
  have hfour := Text.length_padded (Nat.succ_pos 3) (digits_of_isValid h).1
  have hhyphen : (d.text ++ t).getD 4 0 = 45 := by
    rw [text_append, List.getD_append_right _ _ _ _ hfour.le, hfour]
    rfl
  have hweek : (d.text ++ t).getD 5 0 ≠ 87 := by
    have hfront (r : List Nat) : r.getD 0 0 = front r := by cases r <;> rfl
    rw [text_append, List.getD_append_right _ _ _ _ (hfour.trans_le (by decide)), hfour,
      List.getD_cons_succ, hfront]
    exact front_month_ne h _
  simp only [separatorIndex, if_neg hlength, hhyphen, if_neg hweek, if_true]

/-! ### All together -/

/-- A text of small code points is its own encoding. -/
lemma encode_eq_self {t : Text} (h : ∀ c ∈ t, c < 128) : Text.Utf8.encode t = t := by
  induction t with
  | nil => rfl
  | cons c t ih =>
    have hc : Text.Utf8.encodePoint c = [c] := if_pos (h c List.mem_cons_self)
    have ht := ih fun d hd => h d (List.mem_cons_of_mem c hd)
    rw [Text.Utf8.encode, List.flatMap_cons, hc, List.singleton_append]
    exact congrArg _ ht

lemma not_isSurrogate {c : Nat} (h : c < 128) : Text.isSurrogate c = false := by
  simp only [Text.isSurrogate, Bool.and_eq_false_iff, decide_eq_false_iff_not]
  omega

lemma mendSeparator_eq_self {t : Text} (h : ∀ c ∈ t, c < 128) : mendSeparator t = t := by
  have hnone : [7, 8, 10].find? (fun i => Text.isSurrogate (t.getD i 0)) = none := by
    rw [List.find?_eq_none]
    intro i _
    have hsmall : t.getD i 0 < 128 := by
      rw [List.getD_eq_getElem?_getD]
      cases hi : t[i]? with
      | none => exact Nat.zero_lt_succ _
      | some c => exact h c (List.mem_of_getElem? hi)
    rw [not_isSurrogate hsmall]
    exact Bool.false_ne_true
  simp only [mendSeparator, hnone]

lemma read?_append (hd : d.isValid) {u : Nat} (hu : u < 86400000000) {o : Int}
    (ho : o.natAbs < 86400000000) (hseconds : o % 1000000 = 0) {t : Text}
    (ht : t = d.text ++ 84 :: (clockText u ++ offsetText o)) (hascii : ∀ c ∈ t, c < 128) :
    read? t = some ⟨d.toNumber * day + u, some o⟩ := by
  have hsurrogate : t.any Text.isSurrogate = false := by
    rw [List.any_eq_false]
    intro c hc
    rw [not_isSurrogate (hascii c hc)]
    exact Bool.false_ne_true
  have hlength := length_date hd
  have hlong : ¬ (d.text ++ 84 :: (clockText u ++ offsetText o)).length < 7 := by
    rw [List.length_append, hlength]
    omega
  have hrest : (d.text ++ 84 :: (clockText u ++ offsetText o)).drop (10 + pointLength 84) =
      clockText u ++ offsetText o := by
    rw [show pointLength 84 = 1 from rfl, ← List.drop_drop, List.drop_left' hlength]
    rfl
  simp only [read?, mendSeparator_eq_self hascii, hsurrogate, encode_eq_self hascii]
  rw [ht]
  simp only [separatorIndex_text hd, if_neg hlong, date?_text hd, List.drop_left' hlength, hrest,
    time?_text hu ho hseconds]
  rfl

end Moment.Compact

namespace Moment

/-- A moment that its text tells: it lies in the years 1 to 9999 on its clock, and its offset has no
fraction of a second and is below a day. -/
structure IsTold (m : Moment) : Prop where
  localTime : inRange m.localTime
  offset : ∃ o, m.offset? = some o ∧ o.natAbs < 86400000000 ∧ o % 1000000 = 0

/-- The text of a moment holds ASCII only. -/
lemma text_lt (m : Moment) : ∀ c ∈ m.text, c < 128 := by
  have hdigit {c : Nat} (h : Text.isAsciiDigit c) : c < 128 := by
    simp only [Text.isAsciiDigit, Bool.and_eq_true, decide_eq_true_eq] at h
    omega
  have hpadded (width n : Nat) : ∀ c ∈ Text.padded width n, c < 128 := fun c hc =>
    hdigit (Text.isAsciiDigit_of_mem_padded hc)
  have hclock (u : Nat) : ∀ c ∈ clockText u, c < 128 := by
    intro c hc
    rcases Compact.mem_clockText hc with h | rfl | rfl
    · exact hdigit h
    · decide
    · decide
  have hdate (d : Date) : ∀ c ∈ d.text, c < 128 := by
    have hhyphen : ∀ c ∈ Text.ofString "-", c < 128 := by decide
    simp only [Date.text, List.forall_mem_append]
    exact ⟨⟨⟨⟨hpadded _ _, hhyphen⟩, hpadded _ _⟩, hhyphen⟩, hpadded _ _⟩
  have hoffset (o : Int) : ∀ c ∈ offsetText o, c < 128 := by
    simp only [offsetText, List.forall_mem_append]
    constructor
    · split_ifs <;> decide
    · split_ifs
      · exact fun c hc => hclock _ c (List.mem_of_mem_take hc)
      · exact hclock _
  have hletter : ∀ c ∈ Text.ofString "T", c < 128 := by decide
  simp only [text, textWith, List.forall_mem_append]
  refine ⟨⟨⟨hdate _, hletter⟩, hclock _⟩, ?_⟩
  cases m.offset? with
  | none => exact List.forall_mem_nil _
  | some o => exact hoffset o

/-- The text of a moment is read back. -/
theorem read?_text {m : Moment} (h : m.IsTold) : read? m.text = some m := by
  obtain ⟨hrange, o, ho, hsmall, hseconds⟩ := h
  rw [inRange_iff] at hrange
  have hday : day = 86400000000 := by decide
  have hend : timeEnd = (Date.dayCount : Int) * 86400000000 := by decide
  rw [hend] at hrange
  obtain ⟨hvalid, hnumber⟩ := Date.ofNumber_spec
    (show (m.localTime / day).toNat < Date.dayCount by rw [hday]; omega)
  have hclock : (m.localTime % day).toNat < 86400000000 := by rw [hday]; omega
  have hlocal : ((m.localTime / day).toNat : Int) * day + (m.localTime % day).toNat
      = m.localTime := by rw [hday]; omega
  have htext : m.text = (Date.ofNumber (m.localTime / day).toNat).text ++
      84 :: (clockText (m.localTime % day).toNat ++ offsetText o) := by
    have hletter : Text.ofString "T" = [84] := rfl
    simp [text, textWith, ho, hletter]
  have hcompact : Compact.read? m.text = some m := by
    rw [Compact.read?_append hvalid hclock hsmall hseconds htext (text_lt m), hnumber, hlocal, ← ho]
  simp only [read?, hcompact]

end Moment

end CertRegistry
