import CertRegistry.Proofs.Store.Deed
import CertRegistry.Proofs.Text.Numeral

/-!
# What the log tells of deeds

The registry logs every deed except those of a form, by a record that begins with what was done and
to which row. Other records are no news of the registry: they come from the endpoints, or they
warn. So a log tells how often a request was decided.
-/

namespace CertRegistry

namespace Deed

/-- Whether the registry logs a deed. -/
def isLogged : Deed → Bool
  | request byForm => !byForm
  | edit _ | touch _ => false
  | _ => true

/-- How the record of a decision begins. -/
def heading (id : Int) (verb : Text) : Text := "Request " ++ (Text.ofInt id ++ 32 :: verb)

/-- How the record of a deed begins. -/
def opening : Deed → Text
  | record => "Created certificate "
  | update id => "Updated certificate " ++ Text.ofInt id
  | delete id => "Deleted certificate " ++ Text.ofInt id
  | revoke id => "Revoked certificate " ++ Text.ofInt id
  | refresh => "Refreshed certificate statuses: "
  | request _ => "Created certificate request "
  | submit => "User "
  | approve id => heading id "approved by "
  | reject id => heading id "rejected by "
  | edit _ | touch _ => []

/-- Whether a deed is the decision on a request. -/
def decides (id : Int) : Deed → Bool
  | approve i | reject i => i = id
  | _ => false

end Deed

namespace LogRecord

/-- A record of the registry about something that was done. -/
def isNews (r : LogRecord) : Bool := r.source = .registry && r.level = .info

/-- A record tells of a deed. -/
def Tells (r : LogRecord) (d : Deed) : Prop := ∃ t, r = .registry t ∧ d.opening <+: t

/-- A record tells of a decision on a request. -/
def decides (id : Int) (r : LogRecord) : Bool :=
  r.isNews && ((Deed.approve id).opening.isPrefixOf r.text
    || (Deed.reject id).opening.isPrefixOf r.text)

lemma decides_registry_iff {id : Int} {t : Text} : (registry t).decides id ↔
    (Deed.approve id).opening <+: t ∨ (Deed.reject id).opening <+: t := by
  simp only [decides, isNews, registry, decide_true, Bool.and_self, Bool.true_and,
    Bool.or_eq_true, List.isPrefixOf_iff_prefix]

/-- The heading of a decision is in front of another one only if both name the same request. -/
lemma heading_prefix_iff {i j : Int} {v w rest : Text} :
    Deed.heading i v <+: Deed.heading j w ++ rest ↔ i = j ∧ v <+: w ++ rest := by
  simp only [Deed.heading, List.append_assoc, List.cons_append, List.prefix_append_right_inj]
  constructor
  · rintro ⟨t, ht⟩
    rw [List.append_assoc, List.cons_append, Text.ofInt_append_blank_inj] at ht
    exact ⟨ht.1, t, ht.2⟩
  · rintro ⟨rfl, t, ht⟩
    exact ⟨t, by rw [List.append_assoc, List.cons_append, ht]⟩

/-- The record of a decision names the request, and the record of anything else begins otherwise. -/
lemma Tells.decides_eq {r : LogRecord} {d : Deed} (h : r.Tells d) (hlogged : d.isLogged)
    (id : Int) : r.decides id = d.decides id := by
  obtain ⟨t, rfl, rest, rfl⟩ := h
  cases d with
  | approve i =>
    rw [Bool.eq_iff_iff, decides_registry_iff]
    simp only [Deed.opening, heading_prefix_iff, List.prefix_append, and_true, Deed.decides,
      decide_eq_true_eq]
    have hverb : ¬ Text.ofString "rejected by " <+: Text.ofString "approved by " ++ rest :=
      fun hp => absurd (List.cons_prefix_cons.1 hp).1 (by decide)
    simp only [hverb, and_false, or_false, eq_comm]
  | reject i =>
    rw [Bool.eq_iff_iff, decides_registry_iff]
    simp only [Deed.opening, heading_prefix_iff, List.prefix_append, and_true, Deed.decides,
      decide_eq_true_eq]
    have hverb : ¬ Text.ofString "approved by " <+: Text.ofString "rejected by " ++ rest :=
      fun hp => absurd (List.cons_prefix_cons.1 hp).1 (by decide)
    simp only [hverb, and_false, false_or, eq_comm]
  | edit i => simp [Deed.isLogged] at hlogged
  | touch i => simp [Deed.isLogged] at hlogged
  | _ => rfl

end LogRecord

/-- A log tells of the deeds that are logged, of each by one record and in their order, and of
nothing else. -/
def Told (log : List LogRecord) (ds : List Deed) : Prop :=
  List.Forall₂ LogRecord.Tells (log.filter LogRecord.isNews) (ds.filter Deed.isLogged)

namespace Told

variable {log log' : List LogRecord} {ds es : List Deed}

lemma append (h : Told log ds) (h' : Told log' es) : Told (log ++ log') (ds ++ es) := by
  unfold Told
  rw [List.filter_append, List.filter_append]
  exact List.rel_append h h'

lemma nil_of_forall (h : ∀ r ∈ log, r.isNews = false) : Told log [] := by
  unfold Told
  rw [List.filter_eq_nil_iff.2 fun r hr => by simp [h r hr]]
  exact .nil

/-- Records that are no news may be added. -/
lemma append_quiet (h : Told log ds) (hquiet : ∀ r ∈ log', r.isNews = false) :
    Told (log ++ log') ds := by
  simpa using h.append (nil_of_forall hquiet)

lemma single {d : Deed} {t : Text} (hlogged : d.isLogged) (h : d.opening <+: t) :
    Told [.registry t] [d] := by
  simp only [Told, List.filter_cons, hlogged, List.filter_nil, if_true]
  exact .cons ⟨t, rfl, h⟩ .nil

lemma unlogged {d : Deed} (hlogged : d.isLogged = false) : Told [] [d] := by
  simp only [Told, List.filter_cons, hlogged, List.filter_nil, Bool.false_eq_true, if_false]
  exact .nil

/-- There is a record of news for each deed that is logged, and there are no others. -/
lemma countP_isNews (h : Told log ds) :
    log.countP LogRecord.isNews = ds.countP Deed.isLogged := by
  rw [List.countP_eq_length_filter, List.countP_eq_length_filter]
  exact h.length_eq

/-- The log decides a request as often as the deeds do. -/
lemma countP_decides (h : Told log ds) (id : Int) :
    log.countP (LogRecord.decides id) = ds.countP (Deed.decides id) := by
  have hnews : log.countP (LogRecord.decides id)
      = (log.filter LogRecord.isNews).countP (LogRecord.decides id) := by
    rw [List.countP_filter]
    refine List.countP_congr fun r _ => ?_
    simp only [LogRecord.decides, Bool.and_eq_true]
    tauto
  have hlogged : ds.countP (Deed.decides id)
      = (ds.filter Deed.isLogged).countP (Deed.decides id) := by
    rw [List.countP_filter]
    refine List.countP_congr fun d _ => ?_
    cases d <;> simp [Deed.decides, Deed.isLogged]
  rw [hnews, hlogged]
  have hall : ∀ d ∈ ds.filter Deed.isLogged, d.isLogged := fun d hd => (List.mem_filter.1 hd).2
  unfold Told at h
  generalize log.filter LogRecord.isNews = news, ds.filter Deed.isLogged = logged at h hall ⊢
  induction h with
  | nil => rfl
  | cons hr _ ih =>
    rw [List.countP_cons, List.countP_cons, hr.decides_eq (hall _ List.mem_cons_self),
      ih fun d hd => hall d (List.mem_cons_of_mem _ hd)]

end Told

end CertRegistry
