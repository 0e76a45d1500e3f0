import CertRegistry.Http.Call
import CertRegistry.Page
import CertRegistry.Proofs.Number.Double
import CertRegistry.Proofs.Store.Operations

/-!
# Pages of a table

A page holds so many rows of a table as its size says, after those of the pages before it. The pages
of one size are a partition of the table: put together in order, up to the number of pages, they
give the table back, and the pages after that are empty. The number of pages is computed with
doubles, which is exact for tables and pages of reasonable sizes.
-/

namespace CertRegistry

/-! ### Numbers of settings -/

namespace Json

/-- A value is a number, of any form. -/
def HasValue (v : Json) (q : ℚ) : Prop := ∃ x, v.number? = some x ∧ x.IsFinite ∧ x.value = q

variable {v w : Json} {p q : ℚ}

lemma hasValue_int (n : ℤ) : (Json.int n).HasValue n := by
  refine ⟨_, rfl, trivial, ?_⟩
  by_cases hn : n < 0
  · simp [hn, abs_of_neg]
  · simp [hn, abs_of_nonneg (not_lt.1 hn)]

lemma HasValue.less (hv : v.HasValue p) (hw : w.HasValue q) :
    v.less w = .ok (decide (p < q)) := by
  obtain ⟨x, hv, hx, rfl⟩ := hv
  obtain ⟨y, hw, hy, rfl⟩ := hw
  have hless : x.less y = decide (x.value < y.value) := by
    rw [Bool.eq_iff_iff, Double.less_iff hx hy, decide_eq_true_eq]
  cases v with
  | null | text | list | object => exact absurd hv nofun
  | bool | int | float =>
    rw [Json.less, hv, hw]
    · exact congrArg Except.ok hless
    · exact nofun
    · exact nofun

/-- A number that is not negative stands for the greatest integer below it. -/
lemma HasValue.toInteger (h : v.HasValue q) (hq : 0 ≤ q) : v.toInteger = .ok ⌊q⌋ := by
  obtain ⟨x, hv, hx, rfl⟩ := h
  cases v with
  | null | text | list | object => exact absurd hv nofun
  | bool b =>
    obtain rfl := Option.some.inj hv
    cases b <;> simp [Json.toInteger]
  | int n =>
    obtain ⟨y, hy, -, hvalue⟩ := hasValue_int n
    obtain rfl := Option.some.inj (hv.symm.trans hy)
    rw [hvalue, Int.floor_intCast, Json.toInteger]
  | float y =>
    obtain rfl := Option.some.inj hv
    simp only [Json.toInteger, Double.truncate?_eq_floor hx hq]

end Json

variable {v w : Json} {d m p q : ℚ} {settings : Settings}

lemma smallerValue_hasValue (hv : v.HasValue p) (hw : w.HasValue q) :
    ∃ u, smallerValue v w = .ok u ∧ u.HasValue (min p q) := by
  simp only [smallerValue, hw.less hv]
  by_cases hlt : q < p
  · exact ⟨w, by simp [hlt], by rwa [min_eq_right hlt.le]⟩
  · exact ⟨v, by simp [hlt], by rwa [min_eq_left (not_lt.1 hlt)]⟩

/-- A query has no more fields than there may be, where that is a number, just if its parts are not
more. -/
lemma Input.checkFields_eq_ok_iff {count : ℕ} (hv : v.HasValue q) :
    checkFields (some v) count = .ok () ↔ (count : ℚ) ≤ q := by
  have hless := hv.less (Json.hasValue_int count)
  rw [Int.cast_natCast] at hless
  unfold checkFields
  split
  · next h => exact absurd h nofun
  · next h =>
    obtain ⟨x, hx, -⟩ := hv
    rw [Option.some.inj h] at hx
    exact absurd hx nofun
  · next limit _ h =>
    obtain rfl := Option.some.inj h
    rw [hless]
    by_cases hlt : q < count
    · simp [hlt, not_le.2 hlt]
    · simp [hlt, not_lt.1 hlt]

/-! ### The size of a page -/

/-- Settings with sizes of pages that are numbers, the largest one within reason. -/
structure Settings.HasPageSizes (settings : Settings) (d m : ℚ) : Prop where
  default : settings.defaultPageSize.HasValue d
  largest : settings.maxPageSize.HasValue m
  one_le_default : 1 ≤ d
  one_le_largest : 1 ≤ m
  largest_le : m ≤ 2 ^ 53

/-- Sizes that are integers are numbers. -/
lemma Settings.hasPageSizes_int {n k : ℤ} (hn : settings.defaultPageSize = .int n)
    (hk : settings.maxPageSize = .int k) (h1n : 1 ≤ n) (h1k : 1 ≤ k) (hk' : k ≤ 2 ^ 53) :
    settings.HasPageSizes n k where
  default := hn ▸ Json.hasValue_int n
  largest := hk ▸ Json.hasValue_int k
  one_le_default := by exact_mod_cast h1n
  one_le_largest := by exact_mod_cast h1k
  largest_le := by exact_mod_cast hk'

/-- The size of the pages where the default and the largest size are given: the one that is asked
for, unless there is none or it is below 1, and the largest one at most. -/
def pageSize (d m : ℚ) (size? : Option ℤ) : ℕ :=
  (min (if size?.getD 0 < 1 then ⌊d⌋ else size?.getD 0) ⌊m⌋).toNat

lemma one_le_pageSize (h : settings.HasPageSizes d m) (size? : Option ℤ) :
    1 ≤ pageSize d m size? := by
  have hd : 1 ≤ ⌊d⌋ := Int.le_floor.2 (by exact_mod_cast h.one_le_default)
  have hm : 1 ≤ ⌊m⌋ := Int.le_floor.2 (by exact_mod_cast h.one_le_largest)
  unfold pageSize
  split_ifs <;> omega

lemma pageSize_le (h : settings.HasPageSizes d m) (size? : Option ℤ) :
    (pageSize d m size? : ℚ) ≤ m := by
  have hfloor : 0 ≤ ⌊m⌋ := Int.floor_nonneg.2 (zero_le_one.trans h.one_le_largest)
  have hle : (pageSize d m size? : ℤ) ≤ ⌊m⌋ := by
    unfold pageSize
    omega
  exact (by exact_mod_cast Int.le_floor.1 hle)

/-- A parameter that asks for an integer stands for it, and a missing one for the default. -/
lemma parameterValue_getD {t? : Option Text} {n? : Option ℤ} {default : ℤ}
    (h : t?.map Integer.ofText = n?.map .ok) (hv : v.toInteger = .ok default) :
    parameterValue ((t?.map .text).getD v) = .ok (n?.getD default) := by
  cases t? with
  | none =>
    cases n? with
    | none => simp [parameterValue, hv]
    | some n => exact absurd h nofun
  | some t =>
    cases n? with
    | none => exact absurd h nofun
    | some n =>
      have h : Integer.ofText t = .ok n := Option.some.inj h
      simp [parameterValue, Json.toInteger, h]

/-- Whatever integers a query asks for, there is a page number and a number for the size, cut off to
the size of the pages. -/
lemma pageParams_eq_ok (h : settings.HasPageSizes d m) {page?' size?' : Option Text}
    {page? size? : Option ℤ} (hpage : page?'.map Integer.ofText = page?.map .ok)
    (hsize : size?'.map Integer.ofText = size?.map .ok) :
    ∃ u, pageParams settings (page?'.map .text) (size?'.map .text)
        = .ok (max (page?.getD 1) 1, u) ∧
      u.toInteger = .ok (pageSize d m size? : ℤ) := by
  obtain ⟨hd, hm, h1d, h1m, -⟩ := h
  have hfloor : 1 ≤ ⌊d⌋ := Int.le_floor.2 (by exact_mod_cast h1d)
  have hd0 := hd.toInteger (zero_le_one.trans h1d)
  have hone : (Json.int 1).toInteger = .ok 1 := rfl
  have hpage := parameterValue_getD hpage hone
  have hsize := parameterValue_getD hsize hd0
  -- a size below 1 is replaced by the default itself, a missing one by its integer part
  obtain ⟨q, hq, hq1, hqfloor⟩ : ∃ q : ℚ,
      (if size?.getD ⌊d⌋ < 1 then settings.defaultPageSize else .int (size?.getD ⌊d⌋)).HasValue q ∧
      1 ≤ q ∧ ⌊q⌋ = if size?.getD 0 < 1 then ⌊d⌋ else size?.getD 0 := by
    cases size? with
    | none =>
      refine ⟨⌊d⌋, ?_, by exact_mod_cast hfloor, by simp⟩
      simpa [not_lt.2 hfloor] using Json.hasValue_int ⌊d⌋
    | some n =>
      by_cases hn : n < 1
      · exact ⟨d, by simpa [hn] using hd, h1d, by simp [hn]⟩
      · exact ⟨n, by simpa [hn] using Json.hasValue_int n, by exact_mod_cast not_lt.1 hn,
          by simp [hn]⟩
  obtain ⟨u, hu, hvalue⟩ := smallerValue_hasValue hq hm
  refine ⟨u, ?_, ?_⟩
  · simp only [pageParams, bind_eq_ok_iff, pure_eq_ok_iff]
    exact ⟨_, hpage, _, hsize, _, hu, rfl⟩
  · have hmin : ⌊min q m⌋ = min ⌊q⌋ ⌊m⌋ := Int.floor_mono.map_min
    have hq0 : 0 ≤ ⌊q⌋ := Int.floor_nonneg.2 (zero_le_one.trans hq1)
    have hm0 : 0 ≤ ⌊m⌋ := Int.floor_nonneg.2 (zero_le_one.trans h1m)
    rw [hvalue.toInteger (le_min (zero_le_one.trans hq1) (zero_le_one.trans h1m)), hmin, pageSize,
      ← hqfloor, Int.toNat_of_nonneg (le_min hq0 hm0)]

/-! ### The rows of a page -/

variable {α : Type} {rows : List α} {k : ℕ} {page : ℤ}

/-- The rows of a page of a size. A page number below 1 counts as 1. -/
def pageRows (rows : List α) (page : ℤ) (k : ℕ) : List α :=
  (rows.drop ((page - 1).toNat * k)).take k

/-- The pages after those that the rows fill are empty. -/
lemma pageRows_eq_nil (hk : 0 < k) (h : ⌈(rows.length : ℚ) / k⌉ < page) :
    pageRows rows page k = [] := by
  have hk : (0 : ℚ) < k := Nat.cast_pos.2 hk
  have hpage : ⌈(rows.length : ℚ) / k⌉ ≤ ((page - 1).toNat : ℤ) := by omega
  have hlength : rows.length ≤ (page - 1).toNat * k := by
    have hle := (div_le_iff₀ hk).1 (Int.ceil_le.1 hpage)
    exact_mod_cast hle
  rw [pageRows, List.drop_eq_nil_of_le hlength, List.take_nil]

/-- The first pages together are the first rows. -/
lemma flatMap_pageRows (rows : List α) (k count : ℕ) :
    (List.range count).flatMap (fun i : ℕ => pageRows rows (i + 1) k) = rows.take (count * k) := by
  induction count with
  | zero => simp
  | succ count ih =>
    rw [List.range_succ, List.flatMap_append, ih, add_one_mul, List.take_add]
    simp [pageRows]

/-- All pages together are all rows. -/
lemma flatMap_pageRows_eq_self (hk : 0 < k) :
    (List.range ⌈(rows.length : ℚ) / k⌉₊).flatMap (fun i : ℕ => pageRows rows (i + 1) k) = rows := by
  have hk : (0 : ℚ) < k := Nat.cast_pos.2 hk
  rw [flatMap_pageRows, List.take_of_length_le]
  have hle := (div_le_iff₀ hk).1 (Nat.le_ceil ((rows.length : ℚ) / k))
  exact_mod_cast hle

/-- The number of pages is exact, as long as neither the table nor a page is too large. -/
lemma pageCount_eq (hrows : rows.length < 2 ^ 53) (hk : 0 < k) (hk' : k ≤ 2 ^ 53) :
    pageCount rows.length k = ⌈((max 1 rows.length : ℕ) : ℚ) / k⌉ := by
  have hsign : ¬ (k : ℤ) < 0 := by omega
  have hmax : max 1 rows.length < 2 ^ 53 := max_lt (by decide) hrows
  rw [pageCount, decide_eq_false hsign, Int.natAbs_natCast,
    Double.ceil?_ofRatio (lt_of_lt_of_le one_pos (le_max_left _ _)) hk hmax hk', Option.getD_some]

/-- A page that is listed holds its rows, whether it exists or not. -/
lemma pageOf_eq_ok (hrows : rows.length < 2 ^ 53) (hk : 0 < k) (hk' : k ≤ 2 ^ 53)
    (hpage : 1 ≤ page) : pageOf rows page k = .ok (pageRows rows page k) := by
  have hzero : (k : ℤ) ≠ 0 := by omega
  unfold pageOf
  rw [if_neg (not_lt.2 hpage), if_neg hzero, pageCount_eq hrows hk hk']
  split_ifs with hlast
  -- an empty table counts as one row, so there may be more pages than the rows fill
  · have hceil : ⌈(rows.length : ℚ) / k⌉ ≤ ⌈((max 1 rows.length : ℕ) : ℚ) / k⌉ := by
      apply Int.ceil_mono
      gcongr
      exact le_max_right _ _
    rw [pageRows_eq_nil hk (hceil.trans_lt hlast)]
  · have hstart : ((page - 1) * k).toNat = (page - 1).toNat * k := by
      rw [Int.toNat_mul (by omega) (by omega), Int.toNat_natCast]
    rw [hstart, Int.toNat_natCast]
    rfl

/-- A listing of a page gives its rows and the number of all rows. -/
lemma listPage_eq_ok {ctx : Context} (hdebug : ctx.settings.debug.isSome)
    (hrows : rows.length < 2 ^ 53) (hk : 0 < k) (hk' : k ≤ 2 ^ 53) (hpage : 1 ≤ page) {size : Json}
    (hsize : size.toInteger = .ok (k : ℤ)) :
    listPage ctx rows (.int page) size = .ok (pageRows rows page k, rows.length) := by
  have hplace : pagePlace (.int page) size = .ok (page, (k : ℤ)) := by
    rw [pagePlace, hsize]
    rfl
  simp only [listPage, bind_eq_ok_iff, pure_eq_ok_iff]
  exact ⟨_, hplace, (), Context.reach_of_isSome hdebug, _, pageOf_eq_ok hrows hk hk' hpage, rfl⟩

end CertRegistry
