import CertRegistry.Proofs.Input.Binding
import CertRegistry.Proofs.Step.Listing

/-!
# Records that are answered and listed

A call that records or changes something is answered with the record of the row, and whoever lists
the rows right afterwards is shown the same record. The dates are the only difference there can be:
the answer has them as they were submitted, the listing as the zone's clock tells them, and these
are different texts just for local times that the zone skips.
-/

namespace CertRegistry

open Moment (IsShown)

/-! ### Records -/

/-- What is shown of a row, a certificate or a request. -/
inductive Record
  | certificate (v : CertificateView)
  | request (v : RequestView)
deriving DecidableEq

namespace Record

/-- The listing that a record belongs to, and its id. -/
def place : Record → Listing × Int
  | certificate v => (.certificates, v.id)
  | request v => (.requests, v.id)

/-- A record shows a row of the store. -/
def Shows (s : Store) : Record → Prop
  | certificate v => ∃ row ∈ s.certificates.rows, CertificateView.ofRow row = .ok v
  | request v => ∃ row ∈ s.requests.rows, RequestView.ofRow row = .ok v

end Record

namespace Reply

/-- The record that an answer tells. -/
def record? : Reply → Option Record
  | certificate view => view.map .certificate
  | request view => some (.request view)
  | _ => none

/-- The records that an answer lists. -/
def records : Reply → List Record
  | certificatePage views _ => views.map .certificate
  | requestPage views _ => views.map .request
  | requests views => views.map .request
  | _ => []

end Reply

/-! ### Rows by their records -/

variable {ctx : Context} {c : Call} {s : Store} {r : Route}

lemma CertificateView.id_of_ofRow {row : Row Certificate} {v : CertificateView}
    (h : ofRow row = .ok v) : v.id = row.id := by
  simp only [ofRow, bind_eq_ok_iff, pure_eq_ok_iff] at h
  obtain ⟨issued, -, expires, -, createdAt, -, updatedAt, -, rfl⟩ := h
  rfl

lemma RequestView.ids_of_ofRow {row : Row CertificateRequest} {v : RequestView}
    (h : ofRow row = .ok v) : v.id = row.id ∧ v.userId = row.data.userId := by
  simp only [ofRow, bind_eq_ok_iff, pure_eq_ok_iff] at h
  obtain ⟨approvedAt, -, rejectedAt, -, createdAt, -, updatedAt, -, rfl⟩ := h
  exact ⟨rfl, rfl⟩

/-- There is one record at a place. -/
lemma Record.Shows.eq_of_place_eq {x y : Record} (hx : x.Shows s) (hy : y.Shows s)
    (h : x.place = y.place) : x = y := by
  cases x with
  | certificate v =>
    cases y with
    | certificate w =>
      obtain ⟨row, hrow, hv⟩ := hx
      obtain ⟨row', hrow', hw⟩ := hy
      have hid : row.id = row'.id := by
        rw [← CertificateView.id_of_ofRow hv, ← CertificateView.id_of_ofRow hw]
        exact (Prod.mk.inj h).2
      rw [Table.eq_of_id_eq hrow hrow' hid, hw] at hv
      rw [Except.ok.inj hv]
    | request w => exact absurd (Prod.mk.inj h).1 nofun
  | request v =>
    cases y with
    | certificate w => exact absurd (Prod.mk.inj h).1 nofun
    | request w =>
      obtain ⟨row, hrow, hv⟩ := hx
      obtain ⟨row', hrow', hw⟩ := hy
      have hid : row.id = row'.id := by
        rw [← (RequestView.ids_of_ofRow hv).1, ← (RequestView.ids_of_ofRow hw).1]
        exact (Prod.mk.inj h).2
      rw [Table.eq_of_id_eq hrow hrow' hid, hw] at hv
      rw [Except.ok.inj hv]

/-! ### Answers that list -/

/-- All rows that are listed are shown. -/
def Listing.IsViewed (s : Store) : Listing → Prop
  | certificates => ∀ row ∈ s.certificates.rows, ∃ v, CertificateView.ofRow row = .ok v
  | requests => ∀ row ∈ s.requests.rows, ∃ v, RequestView.ofRow row = .ok v

lemma Listing.IsShown.isViewed {l : Listing} (h : l.IsShown s) : l.IsViewed s := by
  cases l with
  | certificates =>
    intro row hrow
    obtain ⟨hissued, hexpires, hcreated, hupdated⟩ := h row hrow
    exact CertificateView.ofRow_eq_ok hissued hexpires hcreated hupdated
  | requests =>
    intro row hrow
    obtain ⟨happroved, hrejected, hcreated, hupdated⟩ := h row hrow
    exact RequestView.ofRow_eq_ok happroved hrejected hcreated hupdated

lemma mem_of_listPage {α : Type} {rows rows' : List α} {page perPage : Json} {n : Nat}
    (h : listPage ctx rows page perPage = .ok (rows', n)) : ∀ a ∈ rows', a ∈ rows := by
  simp only [listPage, bind_eq_ok_iff, pure_eq_ok_iff, Prod.mk.injEq] at h
  obtain ⟨place, -, -, -, rows', hpage, rfl, -⟩ := h
  intro a ha
  unfold pageOf at hpage
  split_ifs at hpage
  · obtain rfl := Except.ok.inj hpage
    exact absurd ha List.not_mem_nil
  · obtain rfl := Except.ok.inj hpage
    exact absurd ha List.not_mem_nil
  · obtain rfl := Except.ok.inj hpage
    exact List.mem_of_mem_drop (List.mem_of_mem_take ha)

/-- A view is among those of some rows if it is that of one of them. -/
lemma mem_views_iff {α β : Type} {f : α → Except Failure β} {rows : List α} {views : List β}
    (h : List.Forall₂ (fun row view => f row = .ok view) rows views) {v : β} :
    v ∈ views ↔ ∃ row ∈ rows, f row = .ok v := by
  have hmap : rows.map f = views.map Except.ok := by
    induction h with
    | nil => rfl
    | cons hrow _ ih => rw [List.map_cons, List.map_cons, hrow, ih]
  have hmem := List.mem_map_of_injective (l := views) (a := v)
    (fun _ _ heq => Except.ok.inj heq : Function.Injective (Except.ok (ε := Failure)))
  rw [← hmem, ← hmap, List.mem_map]

lemma Reply.status_of_mem_records {reply : Reply} {x : Record} (h : x ∈ reply.records) :
    reply.status = 200 := by
  cases reply with
  | certificatePage | requestPage | requests => rfl
  | _ => exact absurd h List.not_mem_nil

namespace Endpoint

/-- A success is the reply of what the route does, for a caller who may call it. -/
lemma answerRoute_of_status (h : (answerRoute ctx c r s).value.status = 200) :
    denial? c r = none ∧ allows r c.method ∧ ∃ d reply, perform ctx c s r = .ok d ∧
      d.value = .ok reply ∧ (answerRoute ctx c r s).value = reply ∧
      (answerRoute ctx c r s).store = d.store := by
  unfold answerRoute at h ⊢
  split at h
  · next reply log hdenial =>
    have hstatus := (denial?_eq_some hdenial).1
    simp only at h
    omega
  · next hdenial =>
    split_ifs at h with hallows
    · refine ⟨hdenial, hallows, ?_⟩
      rw [if_pos hallows]
      cases hperform : perform ctx c s r with
      | error f =>
        rw [hperform] at h
        exact absurd h (Reply.status_ofFailure_ne ctx f)
      | ok d =>
        rw [hperform] at h
        cases hvalue : d.value with
        | error f =>
          simp only [conclude, hvalue] at h
          exact absurd h (Reply.status_ofFailure_ne ctx f)
        | ok reply => exact ⟨d, reply, rfl, hvalue, by simp [conclude, hvalue]⟩
    · exact absurd h (by decide : (405 : Nat) ≠ 200)

/-- A page lists rows. -/
lemma exists_row_of_list {α β : Type} {rows : List (Row α)} {ofRow : Row α → Except Failure β}
    {toReply : List β → Nat → Reply} {reply : Reply}
    (h : list ctx c rows ofRow toReply = .ok reply) : ∃ views total, reply = toReply views total ∧
      ∀ v ∈ views, ∃ row ∈ rows, ofRow row = .ok v := by
  simp only [list, bind_eq_ok_iff, pure_eq_ok_iff, Prod.exists] at h
  obtain ⟨page, perPage, -, rows', total, hpage, views, hviews, rfl⟩ := h
  refine ⟨views, total, rfl, fun v hv => ?_⟩
  obtain ⟨row, hrow, hshown⟩ := (mem_views_iff (mapM_eq_ok_iff.1 hviews)).1 hv
  exact ⟨row, mem_of_listPage hpage row hrow, hshown⟩

/-- What is listed are rows of the store. -/
lemma shows_of_mem_records (hr : r = .certificates ∨ r = .requests ∨ r = .ownRequests)
    {x : Record} (hx : x ∈ (answerRoute ctx c r s).value.records) : x.Shows s := by
  obtain ⟨-, -, d, reply, hperform, hvalue, heq, -⟩ :=
    answerRoute_of_status (Reply.status_of_mem_records hx)
  rw [heq] at hx
  rcases hr with rfl | rfl | rfl
  · obtain rfl := Except.ok.inj hperform
    obtain ⟨views, total, rfl, hviews⟩ := exists_row_of_list hvalue
    obtain ⟨v, hv, rfl⟩ := List.mem_map.1 hx
    exact hviews v hv
  · obtain rfl := Except.ok.inj hperform
    obtain ⟨views, total, rfl, hviews⟩ := exists_row_of_list hvalue
    obtain ⟨v, hv, rfl⟩ := List.mem_map.1 hx
    exact hviews v hv
  · obtain rfl := Except.ok.inj hperform
    simp only [ownRequests, bind_eq_ok_iff, pure_eq_ok_iff] at hvalue
    obtain ⟨-, -, views, hviews, rfl⟩ := hvalue
    obtain ⟨v, hv, rfl⟩ := List.mem_map.1 hx
    obtain ⟨row, hrow, hshown⟩ := (mem_views_iff (mapM_eq_ok_iff.1 hviews)).1 hv
    refine ⟨row, ?_, hshown⟩
    exact List.mem_of_mem_filter ((List.mergeSort_perm _ _).mem_iff.1 hrow)

/-- A success after a body was read comes of the values that were taken from it. -/
lemma withBody_eq_ok {schema : Input.Schema} {next : Input.Values → Outcome}
    {d : Done (Except Failure Reply)} {reply : Reply} (h : withBody schema ctx c s next = .ok d)
    (hvalue : d.value = .ok reply) (hstatus : reply.status = 200) :
    ∃ members vs, Input.readBody ctx.settings c.declaredSize c.body = .ok members ∧
      schema.bind members = .ok (.ok vs) ∧ next vs = .ok d := by
  simp only [withBody, bind_eq_ok_iff] at h
  obtain ⟨members, hmembers, outcome, hbound, h⟩ := h
  cases outcome with
  | ok vs => exact ⟨members, vs, hmembers, hbound, h⟩
  | error es =>
    obtain rfl := Except.ok.inj h
    obtain rfl := Except.ok.inj hvalue
    exact absurd hstatus (by decide : (400 : Nat) ≠ 200)

end Endpoint

namespace Listing

variable {l : Listing} {d m : ℚ}

/-- A row that is shown stands on some page of every size. -/
lemma exists_page {α β : Type} {rows : List (Row α)} {ofRow : Row α → Except Failure β}
    (toReply : List β → Nat → Reply) (toRecord : β → Record)
    (hroute : ∀ c, Endpoint.perform ctx c s l.route
      = Endpoint.unchanged s (Endpoint.list ctx c rows ofRow toReply))
    (hreply : ∀ views total, (toReply views total).records = views.map toRecord)
    (hdebug : ctx.settings.debug.isSome) (hsizes : ctx.settings.HasPageSizes d m)
    (hviews : ∀ row ∈ rows, ∃ view, ofRow row = .ok view) (hrows : rows.length < 2 ^ 53)
    {row : Row α} {v : β} (hrow : row ∈ rows) (hv : ofRow row = .ok v) (size? : Option ℤ) :
    ∃ page : ℤ, ∀ c : Call, c.Asks l (some page) size? →
      Input.checkFields ctx.settings.maxFields (Text.Query.partCount c.query) = .ok () →
      ∃ reply, ((Step.call c).run ctx s).value = .replied reply ∧ toRecord v ∈ reply.records := by
  obtain ⟨views, hviews⟩ := exists_forall₂ hviews
  have hmem : v ∈ views := (mem_views_iff hviews).2 ⟨row, hrow, hv⟩
  have hpages : (List.range _).flatMap _ = views :=
    flatMap_pageRows_eq_self (one_le_pageSize hsizes size?)
  rw [← hpages, List.mem_flatMap] at hmem
  obtain ⟨i, -, hmem⟩ := hmem
  refine ⟨i + 1, fun c hasks hfields => ?_⟩
  have hpage : max ((some ((i : ℤ) + 1)).getD 1) 1 = (i : ℤ) + 1 := by simp
  have hlist : Endpoint.list ctx c rows ofRow toReply = .ok _ :=
    Endpoint.list_eq_ok hdebug hsizes hviews hrows hasks hfields
  rw [hpage] at hlist
  refine ⟨_, Endpoint.answer_of_asks hasks ((hroute c).trans (congrArg _ hlist)), ?_⟩
  rw [hreply]
  exact List.mem_map_of_mem hmem

/-- A record that is shown is listed on some page. -/
lemma exists_page_of_shows {x : Record} (hx : x.Shows s) (hdebug : ctx.settings.debug.isSome)
    (hsizes : ctx.settings.HasPageSizes d m) (hviewed : x.place.1.IsViewed s)
    (hrows : (x.place.1.ids s).length < 2 ^ 53) (size? : Option ℤ) :
    ∃ page : ℤ, ∀ c : Call, c.Asks x.place.1 (some page) size? →
      Input.checkFields ctx.settings.maxFields (Text.Query.partCount c.query) = .ok () →
      ∃ reply, ((Step.call c).run ctx s).value = .replied reply ∧ x ∈ reply.records := by
  cases x with
  | certificate v =>
    obtain ⟨row, hrow, hv⟩ := hx
    rw [Record.place, ids, List.length_map] at hrows
    exact exists_page .certificatePage .certificate (fun _ => rfl) (fun _ _ => rfl) hdebug hsizes
      hviewed hrows hrow hv size?
  | request v =>
    obtain ⟨row, hrow, hv⟩ := hx
    rw [Record.place, ids, List.length_map] at hrows
    exact exists_page .requestPage .request (fun _ => rfl) (fun _ _ => rfl) hdebug hsizes
      hviewed hrows hrow hv size?

end Listing

namespace Endpoint

/-- Every user is shown the own requests. -/
lemma mem_ownRequests {a : Account} {row : Row CertificateRequest} {v : RequestView}
    (hrow : row ∈ s.requests.rows) (hv : RequestView.ofRow row = .ok v)
    (hdebug : ctx.settings.debug.isSome) (hviewed : Listing.requests.IsViewed s)
    (hcaller : c.caller = .user a) (hid : a.id = row.data.userId)
    (hroute : Route.resolve c.path = some .ownRequests)
    (hmethod : Method.ofText? c.method = some .get) :
    ∃ reply, ((Step.call c).run ctx s).value = .replied reply ∧
      .request v ∈ reply.records := by
  have hmem (r : Row CertificateRequest) : r ∈ s.tenantRequests (.ofCaller c.caller) ↔
      r ∈ s.requests.rows ∧ (r.data.userId : Int) = a.id := by
    rw [Store.tenantRequests, (List.mergeSort_perm _ _).mem_iff, Store.requestsOf, List.mem_filter,
      hcaller, decide_eq_true_eq]
    exact and_congr_right fun _ => Option.some_inj
  have hviewed : ∀ r ∈ s.tenantRequests (.ofCaller c.caller),
      ∃ view, RequestView.ofRow r = .ok view := fun r hr => hviewed r ((hmem r).1 hr).1
  obtain ⟨views, hviews⟩ := exists_forall₂ hviewed
  have hanswer : ownRequests ctx c s = .ok (.requests views) := by
    simp only [ownRequests, bind_eq_ok_iff, pure_eq_ok_iff]
    exact ⟨(), Context.reachFor_of_isSome hdebug _ _, views, mapM_eq_ok_iff.2 hviews, rfl⟩
  have hdenial : denial? c .ownRequests = none := by
    simp [denial?, hcaller, Route.isForStaff]
  have hallows : allows .ownRequests c.method := by
    rw [allows_eq_true_iff]
    exact ⟨.get, List.mem_singleton_self _, hmethod⟩
  refine ⟨.requests views, ?_, ?_⟩
  · rw [Step.run_call hroute, answerRoute, hdenial]
    simp [hallows, perform, hanswer, unchanged, conclude]
  · have hown : row ∈ s.tenantRequests (.ofCaller c.caller) := (hmem row).2 ⟨hrow, hid.symm⟩
    exact List.mem_map_of_mem ((mem_views_iff hviews).2 ⟨row, hown, hv⟩)

end Endpoint

/-! ### Dates as they were submitted -/

/-- A call gives a date as a local time, without an offset. -/
def Call.GivesLocal (c : Call) (settings : Settings) (w : Int) : Prop :=
  ∃ members name t, Input.readBody settings c.declaredSize c.body = .ok members ∧
    Json.member? members name = some (.text t) ∧ Moment.read? t = some ⟨w, none⟩

/-- The text of a date and that which the zone's clock tells at its instant. They are the same but
for a local time that was given and that the zone skips. -/
inductive TellsDate (given : Int → Prop) : Text → Text → Prop
  | same (t : Text) : TellsDate given t t
  | skipped {w : Int} (hgiven : given w) (hskipped : Zone.IsSkipped w) :
    TellsDate given (Moment.ofLocal w).text (Moment.onClock (Moment.ofLocal w).instant).text

/-- A record is the one that is shown of a row, up to the texts of dates. -/
inductive Record.Tells (given : Int → Prop) : Record → Record → Prop
  | certificate {v : CertificateView} {issued : Option Text} {expires : Text}
    (hissued : Option.Rel (TellsDate given) issued v.issued)
    (hexpires : TellsDate given expires v.expires) :
    Tells given (.certificate { v with issued, expires }) (.certificate v)
  | request (v : RequestView) : Tells given (.request v) (.request v)

variable {given : Int → Prop}

lemma Record.Tells.place_eq {x y : Record} (h : x.Tells given y) : x.place = y.place := by
  cases h <;> rfl

lemma zoneText_eq_ok_iff {t : Instant} {text : Text} :
    zoneText t = .ok text ↔ IsShown t ∧ text = (Moment.onClock t).text := by
  constructor
  · intro h
    unfold zoneText at h
    split at h
    · next m hm =>
      have hshown : IsShown t := by simp [IsShown, hm]
      rw [Moment.ofInstant?_eq_some hshown] at hm
      rw [← Except.ok.inj h, Option.some.inj hm]
      exact ⟨hshown, rfl⟩
    · cases h
  · rintro ⟨hshown, rfl⟩
    rw [zoneText, Moment.ofInstant?_eq_some hshown]

namespace Input

variable {schema : Schema} {members : List (Text × Json)} {vs : Values} {name : Text} {m : Moment}

lemma Values.mem_of_moment? (h : vs.moment? name = some m) : (name, .moment m) ∈ vs := by
  unfold Values.moment? at h
  split at h
  · next m' hm =>
    obtain rfl := Option.some.inj h
    obtain ⟨front, back, rfl, -⟩ := List.lookup_eq_some_iff.1 hm
    simp
  · exact absurd h nofun

/-- The date of an accepted submission tells the same instant as the zone's clock. -/
lemma Values.tellsDate (hschema : schema ∈ schemas) {settings : Settings}
    (hmembers : readBody settings c.declaredSize c.body = .ok members)
    (hvs : schema.bind members = .ok (.ok vs)) (h : vs.moment? name = some m) :
    TellsDate (c.GivesLocal settings) m.text (Moment.onClock m.instant).text := by
  have hmem := Values.mem_of_moment? h
  have hsettled := Schema.settled_iff hschema hvs (name, .moment m) hmem
  by_cases hskipped : (Value.moment m).IsSkipped
  · obtain ⟨t, w, ht, hread, hw, heq⟩ := Schema.isSkipped_given hschema hvs hmem hskipped
    obtain rfl := Value.moment.inj heq
    exact .skipped ⟨members, name, t, hmembers, ht, hread⟩ hw
  · have hm : Moment.onClock m.instant = m := Value.moment.inj (hsettled.2 hskipped)
    rw [hm]
    exact .same _

end Input

/-- A certificate with its dates as submitted tells what is shown of its row. -/
lemma Record.tells_asSubmitted {vs : Input.Values} {row : Row Certificate} {v : CertificateView}
    (hview : CertificateView.ofRow row = .ok v)
    (hdate : ∀ name m, vs.moment? name = some m →
      TellsDate given m.text (Moment.onClock m.instant).text)
    (hissued : ∀ m, vs.moment? "issued_date" = some m → row.data.issued = some m.instant)
    (hexpires : ∀ m, vs.moment? "expiration_date" = some m → row.data.expires = m.instant) :
    Tells given (.certificate (Endpoint.asSubmitted vs v)) (.certificate v) := by
  simp only [CertificateView.ofRow, bind_eq_ok_iff, pure_eq_ok_iff] at hview
  obtain ⟨issued, hissued', expires, hexpires', createdAt, -, updatedAt, -, rfl⟩ := hview
  refine .certificate ?_ ?_
  · cases hm : vs.moment? "issued_date" with
    | none =>
      show Option.Rel (TellsDate given) issued issued
      cases issued with
      | none => exact .none
      | some text => exact .some (.same text)
    | some m =>
      rw [hissued m hm] at hissued'
      simp only [zoneText?, bind_eq_ok_iff, pure_eq_ok_iff] at hissued'
      obtain ⟨text, htext, rfl⟩ := hissued'
      rw [(zoneText_eq_ok_iff.1 htext).2]
      exact .some (hdate _ m hm)
  · cases hm : vs.moment? "expiration_date" with
    | none => exact .same _
    | some m =>
      rw [hexpires m hm] at hexpires'
      rw [(zoneText_eq_ok_iff.1 hexpires').2]
      exact hdate _ m hm

/-! ### Answers that tell a record -/

namespace Endpoint

open Input (schemas)

/-- A reply tells a record of the new store, and where all rows were shown before, they are shown
there. -/
def TellsRow (given : Int → Prop) (s s' : Store) (reply : Reply) : Prop :=
  ∃ record shown, reply.record? = some record ∧ record.Tells given shown ∧ shown.Shows s' ∧
    ∀ l : Listing, l.IsViewed s → l.IsViewed s'

variable {d : Done (Except Failure Reply)} {reply : Reply}

lemma create_tells (h : create ctx c s = .ok d) (hvalue : d.value = .ok reply)
    (hstatus : reply.status = 200) : TellsRow (c.GivesLocal ctx.settings) s d.store reply := by
  obtain ⟨members, vs, hmembers, hvs, h⟩ := withBody_eq_ok h hvalue hstatus
  simp only [bind_eq_ok_iff, pure_eq_ok_iff] at h
  obtain ⟨d', hd', rfl⟩ := h
  obtain ⟨-, -, -, cert, row, t, hcert, happ, rfl⟩ := Store.recordCertificate_eq_ok_iff.1 hd'
  simp only [map_eq_ok_iff] at hvalue
  obtain ⟨_, ⟨v, hv, rfl⟩, rfl⟩ := hvalue
  have hschema : Input.certificateSchema ∈ schemas := by simp [schemas]
  have hdata : row.data = cert := by rw [Table.append?_row happ]
  simp only [submittedCertificate, bind_eq_ok_iff, pure_eq_ok_iff] at hcert
  obtain ⟨ownerId, -, rfl⟩ := hcert
  refine ⟨_, _, rfl, Record.tells_asSubmitted hv
    (fun name m hm => Input.Values.tellsDate hschema hmembers hvs hm) (fun m hm => ?_)
    (fun m hm => ?_),
    ⟨row, (Table.mem_rows_append? happ).2 (Or.inr rfl), hv⟩, fun l hl => ?_⟩
  · rw [hdata]
    simp [hm]
  · rw [hdata]
    simp [hm]
  · cases l with
    | certificates =>
      intro row' hrow'
      rcases (Table.mem_rows_append? happ).1 hrow' with hold | rfl
      · exact hl row' hold
      · exact ⟨v, hv⟩
    | requests => exact hl

lemma update_tells {id : Nat} (h : update ctx c id s = .ok d) (hvalue : d.value = .ok reply)
    (hstatus : reply.status = 200) : TellsRow (c.GivesLocal ctx.settings) s d.store reply := by
  obtain ⟨members, vs, hmembers, hvs, h⟩ := withBody_eq_ok h hvalue hstatus
  simp only [bind_eq_ok_iff, pure_eq_ok_iff] at h
  obtain ⟨d', hd', rfl⟩ := h
  obtain ⟨-, row, hrow, -, -, rfl⟩ := Store.updateCertificate_eq_ok_iff.1 hd'
  obtain ⟨hmem, -⟩ := Table.get?_eq_some_iff.1 hrow
  simp only [map_eq_ok_iff] at hvalue
  obtain ⟨_, ⟨v, hv, rfl⟩, rfl⟩ := hvalue
  have hschema : Input.changeSchema ∈ schemas := by simp [schemas]
  refine ⟨_, _, rfl, Record.tells_asSubmitted hv
    (fun name m hm => Input.Values.tellsDate hschema hmembers hvs hm) (fun m hm => ?_)
    (fun m hm => ?_),
    ⟨_, (Table.mem_rows_change hmem).2 (Or.inr rfl), hv⟩, fun l hl => ?_⟩
  · -- no date of issue is submitted
    have hname : Text.ofString "issued_date" ∈ vs.map Prod.fst :=
      List.mem_map_of_mem (f := Prod.fst) (Input.Values.mem_of_moment? hm)
    rw [(Input.Schema.bind_eq_ok_iff.1 hvs).map_fst] at hname
    exact absurd hname (by decide)
  · simp [Row.change, hm]
  · cases l with
    | certificates =>
      intro row' hrow'
      rcases (Table.mem_rows_change hmem).1 hrow' with ⟨hold, -⟩ | rfl
      · exact hl row' hold
      · exact ⟨v, hv⟩
    | requests => exact hl

/-- Requests are told as they are listed. -/
lemma request_tells {r : CertificateRequest} {row : Row CertificateRequest}
    {t : Table CertificateRequest} {log : List LogRecord}
    (happ : s.requests.append? ctx.clock.instant r = some (row, t))
    (hd : d =
      { value := (RequestView.ofRow row).map .request, store := { s with requests := t }, log })
    (hvalue : d.value = .ok reply) : TellsRow given s d.store reply := by
  subst hd
  simp only [map_eq_ok_iff] at hvalue
  obtain ⟨v, hv, rfl⟩ := hvalue
  refine ⟨_, _, rfl, .request v, ⟨row, (Table.mem_rows_append? happ).2 (Or.inr rfl), hv⟩,
    fun l hl => ?_⟩
  cases l with
  | certificates => exact hl
  | requests =>
    intro row' hrow'
    rcases (Table.mem_rows_append? happ).1 hrow' with hold | rfl
    · exact hl row' hold
    · exact ⟨v, hv⟩

lemma createRequest_tells (h : createRequest ctx c s = .ok d) (hvalue : d.value = .ok reply)
    (hstatus : reply.status = 200) : TellsRow (c.GivesLocal ctx.settings) s d.store reply := by
  obtain ⟨members, vs, -, -, h⟩ := withBody_eq_ok h hvalue hstatus
  simp only [bind_eq_ok_iff, pure_eq_ok_iff] at h
  obtain ⟨d', hd', hd⟩ := h
  obtain ⟨-, -, -, r, row, t, -, happ, rfl⟩ := Store.createRequest_eq_ok_iff.1 hd'
  exact request_tells happ hd hvalue

lemma submit_tells (h : submit ctx c s = .ok d) (hvalue : d.value = .ok reply)
    (hstatus : reply.status = 200) : TellsRow (c.GivesLocal ctx.settings) s d.store reply := by
  obtain ⟨members, vs, -, -, h⟩ := withBody_eq_ok h hvalue hstatus
  simp only [bind_eq_ok_iff, pure_eq_ok_iff] at h
  obtain ⟨d', hd', hd⟩ := h
  obtain ⟨-, -, -, -, -, r, row, t, -, happ, rfl⟩ := Store.submitRequest_eq_ok_iff.1 hd'
  exact request_tells happ hd hvalue

/-- A call that was answered with a record left its row in the store. -/
lemma answerRoute_tells (hr : r = .newCertificate ∨ (∃ id, r = .updateCertificate id) ∨
      r = .newRequest ∨ r = .submit)
    (hstatus : (answerRoute ctx c r s).value.status = 200) :
    TellsRow (c.GivesLocal ctx.settings) s (answerRoute ctx c r s).store
      (answerRoute ctx c r s).value := by
  obtain ⟨-, -, d, reply, hperform, hvalue, hreply, hstore⟩ := answerRoute_of_status hstatus
  rw [hreply] at hstatus ⊢
  rw [hstore]
  rcases hr with rfl | ⟨id, rfl⟩ | rfl | rfl
  · exact create_tells hperform hvalue hstatus
  · exact update_tells hperform hvalue hstatus
  · exact createRequest_tells hperform hvalue hstatus
  · exact submit_tells hperform hvalue hstatus

/-- Who submits a request is the user that it names. -/
lemma userId_of_submit (hstatus : (answerRoute ctx c .submit s).value.status = 200)
    {v : RequestView} (hrecord : (answerRoute ctx c .submit s).value.record? = some (.request v)) :
    c.caller.id? = some (v.userId : Int) := by
  obtain ⟨-, -, d, reply, hperform, hvalue, hreply, -⟩ := answerRoute_of_status hstatus
  rw [hreply] at hstatus hrecord
  obtain ⟨members, vs, -, -, h⟩ := withBody_eq_ok hperform hvalue hstatus
  simp only [bind_eq_ok_iff, pure_eq_ok_iff] at h
  obtain ⟨d', hd', rfl⟩ := h
  obtain ⟨-, -, -, -, -, r, row, t, hr, happ, rfl⟩ := Store.submitRequest_eq_ok_iff.1 hd'
  obtain ⟨id, hid, -, rfl⟩ := Store.newRequest_eq_ok_iff.1 hr
  simp only [map_eq_ok_iff] at hvalue
  obtain ⟨w, hw, rfl⟩ := hvalue
  obtain rfl := Record.request.inj (Option.some.inj hrecord)
  rw [hid, (RequestView.ids_of_ofRow hw).2, Table.append?_row happ]

end Endpoint

namespace Step

/-- A call that is answered with the record of what it recorded or changed tells what is listed
right afterwards. Whatever listing has a record of the same id has that one, field by field, where
only a date that was submitted as a local time that the zone skips is told differently. There is a
page of every size that has it, where the rows can be listed, and the user whose request it is, who
is the caller if the request was submitted, has it among the own ones. -/
theorem record_listed {ctx : Context} {c : Call} {s : Store} {r : Route} {reply : Reply}
    (hr : r = .newCertificate ∨ (∃ id, r = .updateCertificate id) ∨ r = .newRequest ∨ r = .submit)
    (hroute : Route.resolve c.path = some r) (hshown : ∀ l : Listing, l.IsShown s)
    (hreply : ((call c).run ctx s).value = .replied reply) (hstatus : reply.status = 200) :
    let s' := ((call c).run ctx s).store
    ∃ record shown, reply.record? = some record ∧
      record.Tells (c.GivesLocal ctx.settings) shown ∧ record.place = shown.place ∧
      (∀ ctx' c' r' reply', r' = .certificates ∨ r' = .requests ∨ r' = .ownRequests →
        Route.resolve c'.path = some r' → ((call c').run ctx' s').value = .replied reply' →
        ∀ listed ∈ reply'.records, listed.place = record.place → listed = shown) ∧
      (∀ (ctx' : Context) (d m : ℚ) (size? : Option ℤ), ctx'.settings.debug.isSome →
        ctx'.settings.HasPageSizes d m → (record.place.1.ids s').length < 2 ^ 53 →
        ∃ page : ℤ, ∀ c' : Call, c'.Asks record.place.1 (some page) size? →
          Input.checkFields ctx'.settings.maxFields (Text.Query.partCount c'.query) = .ok () →
          ∃ reply', ((call c').run ctx' s').value = .replied reply' ∧ shown ∈ reply'.records) ∧
      (∀ v, shown = .request v → (r = .submit → c.caller.id? = some (v.userId : ℤ)) ∧
        ∀ (ctx' : Context) (c' : Call) (a : Account), ctx'.settings.debug.isSome →
          c'.caller = .user a → a.id = v.userId → Route.resolve c'.path = some .ownRequests →
          Method.ofText? c'.method = some .get →
          ∃ reply', ((call c').run ctx' s').value = .replied reply' ∧ shown ∈ reply'.records) := by
  intro s'
  have hs' : s' = (Endpoint.answerRoute ctx c r s).store := congrArg Done.store (run_call hroute)
  have hvalue : ((call c).run ctx s).value = .replied (Endpoint.answerRoute ctx c r s).value :=
    congrArg Done.value (run_call hroute)
  obtain rfl := StepResult.replied.inj (hvalue.symm.trans hreply)
  obtain ⟨record, shown, hrecord, htells, hshows, hviewed⟩ := Endpoint.answerRoute_tells hr hstatus
  rw [← hs'] at hshows hviewed
  have hviewed (l : Listing) : l.IsViewed s' := hviewed l (hshown l).isViewed
  refine ⟨record, shown, hrecord, htells, htells.place_eq, ?_, ?_, ?_⟩
  · intro ctx' c' r' reply' hr' hroute' hreply' listed hlisted hplace
    have hvalue' : ((call c').run ctx' s').value =
        .replied (Endpoint.answerRoute ctx' c' r' s').value :=
      congrArg Done.value (run_call hroute')
    obtain rfl := StepResult.replied.inj (hvalue'.symm.trans hreply')
    exact (Endpoint.shows_of_mem_records hr' hlisted).eq_of_place_eq hshows
      (hplace.trans htells.place_eq)
  · intro ctx' d m size? hdebug hsizes hrows
    rw [htells.place_eq] at hrows ⊢
    exact Listing.exists_page_of_shows hshows hdebug hsizes (hviewed _) hrows size?
  · rintro v rfl
    refine ⟨?_, fun ctx' c' a hdebug hcaller hid hroute' hmethod => ?_⟩
    · rintro rfl
      cases htells
      exact Endpoint.userId_of_submit hstatus hrecord
    · obtain ⟨row, hrow, hv⟩ := hshows
      rw [(RequestView.ids_of_ofRow hv).2] at hid
      exact Endpoint.mem_ownRequests hrow hv hdebug (hviewed .requests) hcaller hid hroute' hmethod

lemma heldStore_isShown_all (l : Listing) : l.IsShown heldStore := by
  cases l with
  | certificates => exact heldStore_isShown
  | requests => exact List.forall_mem_nil _

lemma replied_of_status? {result : StepResult} {status : Nat} (h : result.status? = some status) :
    ∃ reply, result = .replied reply ∧ reply.status = status := by
  cases result with
  | replied reply => exact ⟨reply, rfl, Option.some.inj h⟩
  | _ => exact absurd h nofun

theorem record_listed_changeCall :
    let ctx : Context := { clock := .ofUtc (utc 2026 1 15 4 30) }
    let d := (call changeCall).run ctx heldStore
    (∀ l : Listing, l.IsShown heldStore) ∧
    ∃ reply record shown, d.value = .replied reply ∧ reply.status = 200 ∧
      reply.record? = some record ∧ record.Tells (changeCall.GivesLocal ctx.settings) shown ∧
      ∀ reply', ((call listCall).run ctx d.store).value = .replied reply' →
        ∀ listed ∈ reply'.records, listed.place = record.place → listed = shown := by
  intro ctx d
  have hstatus : d.value.status? = some 200 := by decide +kernel
  obtain ⟨reply, hreply, hstatus⟩ := replied_of_status? hstatus
  obtain ⟨record, shown, hrecord, htells, -, hlisted, -⟩ :=
    record_listed (Or.inr (Or.inl ⟨1, rfl⟩)) (by decide) heldStore_isShown_all hreply hstatus
  exact ⟨heldStore_isShown_all, reply, record, shown, hreply, hstatus, hrecord, htells,
    fun reply' => hlisted ctx listCall .certificates reply' (Or.inl rfl) (by decide)⟩

/-- An administrator moves the end of a certificate to a local time of the hour that the summer of
1986 began by skipping. -/
def skippedCall : Call :=
  { changeCall with
    body := Text.Utf8.encode
      "\x7b\"name\": \"n\", \"expiration_date\": \"1986-05-04T02:30:00\"\x7d" }

/-- The end is told as it was submitted, and listed an hour later on another offset. -/
theorem skippedCall_told_differently :
    let ctx : Context := { clock := .ofUtc (utc 2026 1 15 4 30) }
    let d := (call skippedCall).run ctx heldStore
    let ends (result : StepResult) : List (Int × Text) := match result with
      | .replied (.certificate (some v)) => [(v.id, v.expires)]
      | .replied (.certificatePage views _) => views.map fun v => (v.id, v.expires)
      | _ => []
    d.value.status? = some 200 ∧
      ends d.value = [(1, Text.ofString "1986-05-04T02:30:00+08:00")] ∧
      ends ((call listCall).run ctx d.store).value =
        [(1, Text.ofString "1986-05-04T03:30:00+09:00")] := by
  decide +kernel

end Step

end CertRegistry
