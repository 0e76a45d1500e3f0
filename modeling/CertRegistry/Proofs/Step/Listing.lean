import CertRegistry.Proofs.Page
import CertRegistry.Proofs.Step.Answer
import CertRegistry.Proofs.Store.Refresh

/-!
# Listings

The administrators list the certificates and the requests page by page. A page shows the rows at its
place in the table, in the order of their ids, together with the number of all rows. So the pages of
one size, put together, are the whole table, and the pages after those are empty.
-/

namespace CertRegistry

open Moment (IsShown)

/-! ### What is listed -/

/-- What the administrators list. -/
inductive Listing
  | certificates
  | requests
deriving DecidableEq

namespace Listing

/-- The route of a listing. -/
def route : Listing → Route
  | certificates => .certificates
  | requests => .requests

/-- The ids of the rows that are listed. -/
def ids (s : Store) : Listing → List Int
  | certificates => s.certificates.rows.map Row.id
  | requests => s.requests.rows.map Row.id

/-- The rows that are listed, as they are shown. -/
def shown (s : Store) : Listing → List (Except Failure Json)
  | certificates =>
    s.certificates.rows.map fun row => (CertificateView.ofRow row).map CertificateView.toJson
  | requests => s.requests.rows.map fun row => (RequestView.ofRow row).map RequestView.toJson

/-- All dates of the rows that are listed can be shown. -/
def IsShown (s : Store) : Listing → Prop
  | certificates => ∀ row ∈ s.certificates.rows,
    (∀ t ∈ row.data.issued, Moment.IsShown t) ∧ Moment.IsShown row.data.expires ∧
      Moment.IsShown row.createdAt ∧ Moment.IsShown row.updatedAt
  | requests => ∀ row ∈ s.requests.rows,
    (∀ t ∈ row.data.approvedAt, Moment.IsShown t) ∧ (∀ t ∈ row.data.rejectedAt, Moment.IsShown t) ∧
      Moment.IsShown row.createdAt ∧ Moment.IsShown row.updatedAt

variable {s : Store} {l : Listing}

/-- A table is listed in the order of its ids. -/
lemma ids_pairwise (l : Listing) (s : Store) : (l.ids s).Pairwise (· < ·) := by
  cases l with
  | certificates => exact List.pairwise_map.2 s.certificates.sorted
  | requests => exact List.pairwise_map.2 s.requests.sorted

end Listing

/-- A call of the staff for a listing, by a query that asks for a page and a size by integers, or
for neither. -/
structure Call.Asks (c : Call) (l : Listing) (page? size? : Option ℤ) : Prop where
  caller : ∃ a, c.caller = .user a ∧ a.isStaff
  route : Route.resolve c.path = some l.route
  method : Method.ofText? c.method = some .get
  page : (Text.Query.get? (Text.Query.fields c.query) "page").map Integer.ofText = page?.map .ok
  size : (Text.Query.get? (Text.Query.fields c.query) "per_page").map Integer.ofText
    = size?.map .ok

/-! ### Answers to listings -/

namespace Endpoint

variable {ctx : Context} {c : Call} {s : Store} {l : Listing} {d m : ℚ} {page? size? : Option ℤ}

/-- Answers with the rows of a page, as they are viewed. -/
def list {α β : Type} (ctx : Context) (c : Call) (rows : List (Row α))
    (ofRow : Row α → Except Failure β) (toReply : List β → Nat → Reply) :
    Except Failure Reply := do
  let (page, perPage) ← queryPage ctx.settings c.query
  let (rows, total) ← listPage ctx rows (.int page) perPage
  let views ← rows.mapM ofRow
  return toReply views total

lemma listCertificates_eq (ctx : Context) (c : Call) (s : Store) :
    listCertificates ctx c s
      = list ctx c s.certificates.rows CertificateView.ofRow .certificatePage := rfl

lemma listRequests_eq (ctx : Context) (c : Call) (s : Store) :
    listRequests ctx c s = list ctx c s.requests.rows RequestView.ofRow .requestPage := rfl

/-- Where the query can be read and all rows can be viewed, the answer is the page that is asked
for. -/
lemma list_eq_ok {α β : Type} {rows : List (Row α)} {ofRow : Row α → Except Failure β}
    {toReply : List β → Nat → Reply} {views : List β} (hdebug : ctx.settings.debug.isSome)
    (hsizes : ctx.settings.HasPageSizes d m)
    (hviews : List.Forall₂ (fun row view => ofRow row = .ok view) rows views)
    (hrows : rows.length < 2 ^ 53) (hasks : c.Asks l page? size?)
    (hfields : Input.checkFields ctx.settings.maxFields (Text.Query.partCount c.query) = .ok ()) :
    list ctx c rows ofRow toReply
      = .ok (toReply (pageRows views (max (page?.getD 1) 1) (pageSize d m size?)) views.length) := by
  obtain ⟨u, hparams, hsize⟩ := pageParams_eq_ok hsizes hasks.page hasks.size
  have hquery : queryPage ctx.settings c.query = .ok (max (page?.getD 1) 1, u) := by
    simp only [queryPage, Input.readFields, bind_eq_ok_iff, pure_eq_ok_iff]
    exact ⟨_, ⟨(), hfields, rfl⟩, hparams⟩
  have hsize' : pageSize d m size? ≤ 2 ^ 53 := by
    have hle := (pageSize_le hsizes size?).trans hsizes.largest_le
    exact_mod_cast hle
  have hpage := listPage_eq_ok hdebug hrows (one_le_pageSize hsizes size?) hsize'
    (le_max_right (page?.getD 1) 1) hsize
  have hshown : List.Forall₂ (fun row view => ofRow row = .ok view)
      (pageRows rows (max (page?.getD 1) 1) (pageSize d m size?))
      (pageRows views (max (page?.getD 1) 1) (pageSize d m size?)) :=
    List.forall₂_take _ (List.forall₂_drop _ hviews)
  simp only [list, bind_eq_ok_iff, pure_eq_ok_iff]
  exact ⟨_, hquery, _, hpage, _, mapM_eq_ok_iff.2 hshown, by rw [hviews.length_eq]⟩

/-- A call that the staff may make is answered by what its route does. -/
lemma answer_of_asks (hasks : c.Asks l page? size?) {reply : Reply}
    (h : perform ctx c s l.route = unchanged s (.ok reply)) :
    ((Step.call c).run ctx s).value = .replied reply := by
  obtain ⟨a, ha, hstaff⟩ := hasks.caller
  have hdenial : denial? c l.route = none := by
    simp [denial?, ha, hstaff]
  have hallows : allows l.route c.method = true := by
    rw [allows_eq_true_iff]
    refine ⟨.get, ?_, hasks.method⟩
    cases l <;> exact List.mem_singleton_self _
  simp only [Step.run, answer, hasks.route, Option.map_some, answerRoute, hdenial, hallows, h]
  rfl

end Endpoint

namespace Listing

variable {ctx : Context} {s : Store} {l : Listing} {d m : ℚ}

/-- Every call for a listing is answered by a page of some items, and by their number. -/
def Answers (ctx : Context) (s : Store) (l : Listing) (d m : ℚ) (items : List Json) : Prop :=
  ∀ (c : Call) (page? size? : Option ℤ), c.Asks l page? size? →
    Input.checkFields ctx.settings.maxFields (Text.Query.partCount c.query) = .ok () →
    ∃ reply, ((Step.call c).run ctx s).value = .replied reply ∧ reply.status = 200 ∧
      reply.body? = some (Reply.pageBody
        (pageRows items (max (page?.getD 1) 1) (pageSize d m size?)) items.length)

lemma exists_answers {α β : Type} {rows : List (Row α)} {ofRow : Row α → Except Failure β}
    {toJson : β → Json} {toReply : List β → Nat → Reply}
    (hroute : ∀ c, Endpoint.perform ctx c s l.route
      = Endpoint.unchanged s (Endpoint.list ctx c rows ofRow toReply))
    (hreply : ∀ views total, (toReply views total).status = 200 ∧
      (toReply views total).body? = some (Reply.pageBody (views.map toJson) total))
    (hdebug : ctx.settings.debug.isSome) (hsizes : ctx.settings.HasPageSizes d m)
    (hviews : ∀ row ∈ rows, ∃ view, ofRow row = .ok view) (hrows : rows.length < 2 ^ 53) :
    ∃ items : List Json, rows.map (fun row => (ofRow row).map toJson) = items.map .ok ∧
      Answers ctx s l d m items := by
  obtain ⟨views, hviews⟩ := exists_forall₂ hviews
  refine ⟨views.map toJson, map_eq_map_ok toJson hviews, ?_⟩
  intro c page? size? hasks hfields
  obtain ⟨hstatus, hbody⟩ := hreply
    (pageRows views (max (page?.getD 1) 1) (pageSize d m size?)) views.length
  refine ⟨_, Endpoint.answer_of_asks hasks ?_, hstatus, ?_⟩
  · rw [hroute, Endpoint.list_eq_ok hdebug hsizes hviews hrows hasks hfields]
  · rw [hbody, List.length_map]
    simp only [pageRows, List.map_take, List.map_drop]

/-- The rows that are listed can be shown, and every call is answered by a page of them. -/
lemma exists_items (hdebug : ctx.settings.debug.isSome) (hsizes : ctx.settings.HasPageSizes d m)
    (hshown : l.IsShown s) (hrows : (l.ids s).length < 2 ^ 53) :
    ∃ items : List Json, l.shown s = items.map .ok ∧ Answers ctx s l d m items := by
  cases l with
  | certificates =>
    rw [ids, List.length_map] at hrows
    have hroute (c : Call) := congrArg (Endpoint.unchanged s) (Endpoint.listCertificates_eq ctx c s)
    refine exists_answers hroute (fun _ _ => ⟨rfl, rfl⟩) hdebug hsizes ?_ hrows
    intro row hrow
    obtain ⟨hissued, hexpires, hcreated, hupdated⟩ := hshown row hrow
    exact CertificateView.ofRow_eq_ok hissued hexpires hcreated hupdated
  | requests =>
    rw [ids, List.length_map] at hrows
    have hroute (c : Call) := congrArg (Endpoint.unchanged s) (Endpoint.listRequests_eq ctx c s)
    refine exists_answers hroute (fun _ _ => ⟨rfl, rfl⟩) hdebug hsizes ?_ hrows
    intro row hrow
    obtain ⟨happroved, hrejected, hcreated, hupdated⟩ := hshown row hrow
    exact RequestView.ofRow_eq_ok happroved hrejected hcreated hupdated

end Listing

namespace Step

/-- The pages of a listing are a partition of it. Every call of the staff is answered by the rows at
the place of its page in the order of the ids, and by the number of all rows. The pages of one size
together are all rows, and the pages after those are empty. -/
theorem listing_partitioned {ctx : Context} {s : Store} {d m : ℚ} (l : Listing)
    (hdebug : ctx.settings.debug.isSome) (hsizes : ctx.settings.HasPageSizes d m)
    (hshown : l.IsShown s) (hrows : (l.ids s).length < 2 ^ 53) :
    (l.ids s).Pairwise (· < ·) ∧
    ∃ items : List Json, l.shown s = items.map .ok ∧ l.Answers ctx s d m items ∧
      ∀ size?, 1 ≤ pageSize d m size? ∧ (pageSize d m size? : ℚ) ≤ m ∧
        (List.range ⌈(items.length : ℚ) / pageSize d m size?⌉₊).flatMap
          (fun i : ℕ => pageRows items (i + 1) (pageSize d m size?)) = items ∧
        ∀ page, ⌈(items.length : ℚ) / pageSize d m size?⌉ < page →
          pageRows items page (pageSize d m size?) = [] := by
  obtain ⟨items, hitems, hanswers⟩ := Listing.exists_items hdebug hsizes hshown hrows
  refine ⟨l.ids_pairwise s, items, hitems, hanswers, fun size? => ?_⟩
  have hsize := one_le_pageSize hsizes size?
  exact ⟨hsize, pageSize_le hsizes size?, flatMap_pageRows_eq_self hsize,
    fun page hpage => pageRows_eq_nil hsize hpage⟩

/-- The staff asks for the first two certificates. -/
def listCall : Call where
  caller := .user { id := 1, name := "root", isStaff := true }
  method := "GET"
  path := "/certificates/admin/certificates/"
  query := "page=1&per_page=2"

lemma listCall_asks : listCall.Asks .certificates (some 1) (some 2) where
  caller := ⟨_, rfl, rfl⟩
  route := by decide
  method := by decide
  page := by decide +kernel
  size := by decide +kernel

lemma hasPageSizes_standard {settings : Settings} (hdefault : settings.defaultPageSize = .int 20)
    (hlargest : settings.maxPageSize = .int 100) : settings.HasPageSizes 20 100 := by
  exact_mod_cast Settings.hasPageSizes_int hdefault hlargest (by decide) (by decide) (by decide)

lemma heldStore_isShown : Listing.certificates.IsShown heldStore := by
  intro row hrow
  obtain rfl := List.mem_singleton.1 hrow
  have hepoch : IsShown 0 := Moment.isShown_iff.2 (by decide)
  exact ⟨fun t ht => Option.some.inj ht ▸ hepoch, Moment.isShown_iff.2 (by decide), hepoch, hepoch⟩

/-- The staff asks for one of the pages of four certificates. -/
def pageCall (page : ℕ) : Call :=
  { listCall with query := "page=" ++ Text.ofNat page ++ "&per_page=4" }

lemma pageCall_asks : ∀ page ∈ [1, 2, 3, 4],
    (pageCall page).Asks .certificates (some page) (some 4) ∧
      Text.Query.partCount (pageCall page).query = 2 := by
  have hquery : ∀ page ∈ [1, 2, 3, 4],
      (Text.Query.get? (Text.Query.fields (pageCall page).query) "page").map Integer.ofText
        = some (.ok (page : ℤ)) ∧
      (Text.Query.get? (Text.Query.fields (pageCall page).query) "per_page").map Integer.ofText
        = some (.ok 4) ∧
      Text.Query.partCount (pageCall page).query = 2 := by decide +kernel
  intro page hpage
  obtain ⟨hnumber, hsize, hcount⟩ := hquery page hpage
  obtain ⟨hcaller, hroute, hmethod, -, -⟩ := listCall_asks
  exact ⟨⟨hcaller, hroute, hmethod, hnumber, hsize⟩, hcount⟩

lemma shelf_isShown : Listing.certificates.IsShown Store.shelf := by
  have hrows : ∀ row ∈ Store.shelf.certificates.rows, row.data.issued = some 0 ∧
      row.createdAt = 0 ∧ row.updatedAt = 0 ∧
        inRange (row.data.expires + Zone.offsetAt row.data.expires) := by decide +kernel
  have hepoch : IsShown 0 := Moment.isShown_iff.2 (by decide)
  intro row hrow
  obtain ⟨hissued, hcreated, hupdated, hexpires⟩ := hrows row hrow
  rw [hissued, hcreated, hupdated]
  exact ⟨fun t ht => Option.some.inj ht ▸ hepoch, Moment.isShown_iff.2 hexpires, hepoch, hepoch⟩

/-- Nine certificates, four on a page: three pages put together are all of them, and the fourth one
is empty. -/
theorem listing_partitioned_shelf :
    let ctx : Context := { clock := .ofUtc (utc 2026 1 15 4 30) }
    ctx.settings.HasPageSizes 20 100 ∧ Listing.certificates.IsShown Store.shelf ∧
    ∃ items : List Json, Listing.certificates.shown Store.shelf = items.map .ok ∧
      items.length = 9 ∧
      (∀ page ∈ [1, 2, 3, 4], ∃ reply,
        ((call (pageCall page)).run ctx Store.shelf).value = .replied reply ∧
          reply.status = 200 ∧ reply.body? = some (Reply.pageBody (pageRows items page 4) 9)) ∧
      pageRows items 1 4 ++ pageRows items 2 4 ++ pageRows items 3 4 = items ∧
      pageRows items 4 4 = [] := by
  intro ctx
  have hsizes : ctx.settings.HasPageSizes 20 100 := hasPageSizes_standard rfl rfl
  have hrows : (Listing.certificates.ids Store.shelf).length < 2 ^ 53 := by decide
  obtain ⟨-, items, hitems, hanswers, hpages⟩ :=
    listing_partitioned .certificates rfl hsizes shelf_isShown hrows
  have hlength : items.length = 9 := by
    rw [← List.length_map Except.ok, ← hitems]
    rfl
  have hsize : pageSize 20 100 (some 4) = 4 := by
    simp [pageSize]
  obtain ⟨-, -, hall, hempty⟩ := hpages (some 4)
  rw [hsize, hlength] at hall hempty
  have hceil : ⌈((9 : ℕ) : ℚ) / (4 : ℕ)⌉₊ = 3 := by
    norm_num [Nat.ceil_eq_iff]
  refine ⟨hsizes, shelf_isShown, items, hitems, hlength, fun page hpage => ?_, ?_, ?_⟩
  · obtain ⟨hasks, hcount⟩ := pageCall_asks page hpage
    have hfields : Input.checkFields ctx.settings.maxFields
        (Text.Query.partCount (pageCall page).query) = .ok () := by
      apply (Input.checkFields_eq_ok_iff (Json.hasValue_int 1000)).2
      rw [hcount]
      norm_num
    have hone : ∀ page : ℕ, page ∈ [1, 2, 3, 4] → (1 : ℤ) ≤ page := by decide
    obtain ⟨reply, hreply, hstatus, hbody⟩ := hanswers (pageCall page) _ _ hasks hfields
    refine ⟨reply, hreply, hstatus, ?_⟩
    rw [hbody, hsize, hlength, Option.getD_some, max_eq_left (hone page hpage)]
  · rw [hceil] at hall
    simpa [List.range_succ] using hall
  · exact hempty 4 (by norm_num [Int.ceil_lt_iff])

/-- A listing fails where nothing says whether to debug, where its query has more fields than there
may be, and where the default size is infinite. -/
theorem listing_refused :
    let clock : Moment := .ofUtc (utc 2026 1 15 4 30)
    let status? (c : Call) (settings : Settings) :=
      ((call c).run { clock, settings } heldStore).value.status?
    let undebugged : Settings := { debug := none }
    let narrow : Settings := { maxFields := some (.int 1) }
    let endless : Settings := { defaultPageSize := .float (.infinite false) }
    listCall.Asks .certificates (some 1) (some 2) ∧ Listing.certificates.IsShown heldStore ∧
    undebugged.HasPageSizes 20 100 ∧ status? listCall undebugged = some 500 ∧
    narrow.HasPageSizes 20 100 ∧ status? listCall narrow = some 500 ∧
    status? { listCall with query := [] } endless = some 500 := by
  intro clock status? undebugged narrow endless
  have hundebugged : status? listCall undebugged = some 500 := by decide +kernel
  have hnarrow : status? listCall narrow = some 500 := by decide +kernel
  have hendless : status? { listCall with query := [] } endless = some 500 := by decide +kernel
  exact ⟨listCall_asks, heldStore_isShown, hasPageSizes_standard rfl rfl, hundebugged,
    hasPageSizes_standard rfl rfl, hnarrow, hendless⟩

end Step

end CertRegistry
