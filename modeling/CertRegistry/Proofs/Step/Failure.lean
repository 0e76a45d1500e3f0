import CertRegistry.Proofs.Http.Failure
import CertRegistry.Proofs.Step.Record

/-!
# What a call that fails leaves behind

Where all dates can be shown, a call that fails leaves the store alone, whether it fails before it
does anything or afterwards, and all that it logs is the record of its failure. What a call did
could always be told, so that only a call that did nothing fails; and a call that lists rows fails
for its query or the storage, never for a date.
-/

namespace CertRegistry

open Moment (IsShown)

variable {ctx : Context} {c : Call} {s : Store} {r : Route} {f : Failure}

namespace Endpoint

/-! ### Calls that list -/

lemma views_failsWith {α β : Type} {rows : List α} {ofRow : α → Except Failure β}
    (hviews : ∀ row ∈ rows, ∃ v, ofRow row = .ok v) :
    FailsWith (· ≠ .zoneOverflow) (rows.mapM ofRow) := by
  refine .mapM fun row hrow => ?_
  obtain ⟨v, hv⟩ := hviews row hrow
  rw [hv]
  exact .ok v

lemma list_failsWith {α β : Type} {rows : List (Row α)} {ofRow : Row α → Except Failure β}
    {toReply : List β → Nat → Reply} (hviews : ∀ row ∈ rows, ∃ v, ofRow row = .ok v) :
    FailsWith (· ≠ .zoneOverflow) (list ctx c rows ofRow toReply) := by
  refine (queryPage_failsWith _ _).bind fun query => ?_
  refine (listPage_failsWith ctx rows _ _).bind_of_ok fun page hpage => ?_
  refine (views_failsWith fun row hrow => ?_).bind fun views => .ok _
  exact hviews row (mem_of_listPage hpage row hrow)

lemma ownCertificate_failsWith (hviews : Listing.certificates.IsViewed s) :
    FailsWith (· ≠ .zoneOverflow) (ownCertificate ctx c s) := by
  have hne (f : Failure) := f.ne_zoneOverflow_of_status
  refine ((ctx.reachFor_faults _ _).mono hne).bind fun _ => FailsWith.bind ?_ fun view? => .ok _
  cases hrow : s.tenantCertificate? (.ofCaller c.caller) with
  | none => exact .ok none
  | some row =>
    have hmem := List.mem_reverse.1 (List.mem_of_mem_head? hrow)
    obtain ⟨v, hv⟩ := hviews row (List.mem_filter.1 hmem).1
    refine FailsWith.bind ?_ fun v => .ok _
    rw [hv]
    exact .ok v

lemma ownRequests_failsWith (hviews : Listing.requests.IsViewed s) :
    FailsWith (· ≠ .zoneOverflow) (ownRequests ctx c s) := by
  have hne (f : Failure) := f.ne_zoneOverflow_of_status
  refine ((ctx.reachFor_faults _ _).mono hne).bind fun _ => ?_
  refine (views_failsWith fun row hrow => ?_).bind fun views => .ok _
  exact hviews row (List.mem_of_mem_filter ((List.mergeSort_perm _ _).mem_iff.1 hrow))

/-! ### Calls that fail late -/

/-- What fails afterwards: either nothing was logged, and no date is to blame, or a deed was. -/
def FailsLate (d : Done (Except Failure Reply)) : Prop :=
  ∀ f, d.value = .error f → (d.log = [] ∧ f ≠ .zoneOverflow) ∨ ∃ rec ∈ d.log, rec.isNews

lemma failsLate_of_log {d : Done (Except Failure Reply)} {text : Text} {log : List LogRecord}
    (h : d.log = .registry text :: log) : FailsLate d := by
  intro f _
  rw [h]
  exact Or.inr ⟨_, List.mem_cons_self, rfl⟩

lemma failsLate_of_ok {d : Done (Except Failure Reply)} {reply : Reply} (h : d.value = .ok reply) :
    FailsLate d := by
  intro f hf
  exact absurd (h.symm.trans hf) nofun

lemma failsLate_noted {α : Type} {d : Done α} {text : Text} (h : d.log = [.registry text])
    (reply : Reply) (note : Text) : FailsLate (noted d c reply note) := by
  obtain ⟨-, log, hlog, -⟩ := noted_store d c reply note
  apply failsLate_of_log
  rw [hlog, h, List.singleton_append]

/-- A route that writes has logged its deed before anything is said about it, and one that only
lists fails by no date. -/
lemma perform_failsLate (hshown : ∀ l : Listing, l.IsShown s) (r : Route) :
    SucceedsWith FailsLate (perform ctx c s r) := by
  have hrefused (error : Text) :
      FailsLate { value := .ok (.refused 400 error), store := s } := failsLate_of_ok rfl
  have hlisted {value : Except Failure Reply} (h : FailsWith (· ≠ .zoneOverflow) value) :
      SucceedsWith FailsLate (unchanged s value) := .ok fun f hf => Or.inl ⟨rfl, h f hf⟩
  have hviews (l : Listing) : l.IsViewed s := (hshown l).isViewed
  cases r with
  | certificates => exact hlisted (list_failsWith (hviews .certificates))
  | requests => exact hlisted (list_failsWith (hviews .requests))
  | ownCertificate => exact hlisted (ownCertificate_failsWith (hviews .certificates))
  | ownRequests => exact hlisted (ownRequests_failsWith (hviews .requests))
  | download => exact hlisted (.ok _)
  | newCertificate =>
    refine succeedsWith_withBody hrefused fun members vs _ => .bind fun d hd => .ok ?_
    obtain ⟨-, -, -, cert, row, t, -, -, rfl⟩ := Store.recordCertificate_eq_ok_iff.1 hd
    exact failsLate_of_log rfl
  | updateCertificate id =>
    refine succeedsWith_withBody hrefused fun members vs _ => .bind fun d hd => .ok ?_
    obtain ⟨-, row, -, -, -, rfl⟩ := Store.updateCertificate_eq_ok_iff.1 hd
    exact failsLate_of_log rfl
  | newRequest =>
    refine succeedsWith_withBody hrefused fun members vs _ => .bind fun d hd => .ok ?_
    obtain ⟨-, -, -, req, row, t, -, -, rfl⟩ := Store.createRequest_eq_ok_iff.1 hd
    exact failsLate_of_log rfl
  | submit =>
    refine succeedsWith_withBody hrefused fun members vs _ => .bind fun d hd => .ok ?_
    obtain ⟨-, -, -, -, -, req, row, t, -, -, rfl⟩ := Store.submitRequest_eq_ok_iff.1 hd
    exact failsLate_of_log rfl
  | rejectRequest id =>
    refine succeedsWith_withBody hrefused fun members vs _ => .bind fun d _ => .ok ?_
    exact failsLate_of_ok rfl
  | deleteCertificate id => exact .bind fun d _ => .ok (failsLate_of_ok rfl)
  | revokeCertificate id =>
    refine .bind fun d hd => .ok ?_
    obtain ⟨-, row, -, -, -, rfl⟩ := Store.revokeCertificate_eq_ok_iff.1 hd
    exact failsLate_noted rfl _ _
  | approveRequest id =>
    refine .bind fun d hd => .ok ?_
    obtain ⟨-, row, span, expires, cert, t, -, -, -, -, -, -, -, -, -, rfl⟩ :=
      Store.approveRequest_eq_ok_iff.1 hd
    exact failsLate_noted rfl _ _

/-- A served call that is not answered as a success did nothing, where all dates can be shown. -/
lemma Settled.eq_nil {d : Done Reply} {ds : List Deed} (h : Settled ctx c s r d ds)
    (hnow : IsShown ctx.clock.instant) (hshown : ∀ l : Listing, l.IsShown s) (hserved : c.IsServed)
    (hstatus : d.value.status ≠ 200) : ds = [] := by
  have hrows : ∀ row ∈ s.certificates.rows, row.ShowsIssue := by
    intro row hrow
    obtain ⟨hissued, -, hcreated, -⟩ := hshown .certificates row hrow
    exact ⟨hissued, hcreated⟩
  by_contra hds
  rcases h.reported hds with hsuccess | hunreported
  · exact hstatus hsuccess.status
  · exact not_unreported hnow hrows hserved hunreported

/-- Where all dates can be shown, a served call that fails changes nothing and logs nothing but its
failure, which is not about a date. -/
theorem answerRoute_of_fails (hnow : IsShown ctx.clock.instant)
    (hshown : ∀ l : Listing, l.IsShown s) (hserved : c.IsServed) (h : Fails ctx c s r f) :
    f ≠ .zoneOverflow ∧ answerRoute ctx c r s =
      { value := .ofFailure ctx f, store := s, log := [f.record r.action] } := by
  rcases h.answerRoute_eq with ⟨hperform, heq⟩ | ⟨d, hperform, hvalue, heq⟩
  · exact ⟨perform_failsWith r f hperform, heq⟩
  · obtain ⟨ds, hsettled, -⟩ := answerRoute_settled ctx c s r
    rw [heq] at hsettled ⊢
    obtain rfl := hsettled.eq_nil hnow hshown hserved (Reply.status_ofFailure_ne ctx f)
    have hquiet : (d.log ++ [f.record r.action]).countP LogRecord.isNews = 0 :=
      hsettled.effect.told.countP_isNews
    rcases perform_failsLate hshown r d hperform f hvalue with ⟨hlog, hf⟩ | ⟨rec, hrec, hnews⟩
    · have hstore : d.store = s := hsettled.effect.changes.eq_of_nil
      exact ⟨hf, by rw [hlog, hstore, List.nil_append]⟩
    · exact absurd hnews (List.countP_eq_zero.1 hquiet rec (List.mem_append_left _ hrec))

end Endpoint

end CertRegistry
