import CertRegistry.Proofs.Store.Deed
import CertRegistry.Proofs.Store.Operations
import CertRegistry.Proofs.Time.Zone
import CertRegistry.View

/-!
# Rows that can be shown

A row is shown if none of its dates lies past the year 9999 in the zone, and there is no other
reason why one is not shown.
-/

namespace CertRegistry

open Moment (IsShown)

/-! ### What is shown -/

lemma zoneText_eq_ok {t : Instant} (h : IsShown t) : ∃ text, zoneText t = .ok text := by
  obtain ⟨m, hm⟩ := Option.isSome_iff_exists.1 h
  exact ⟨m.text, by simp [zoneText, hm]⟩

lemma zoneText?_eq_ok {t? : Option Instant} (h : ∀ t ∈ t?, IsShown t) :
    ∃ text?, zoneText? t? = .ok text? := by
  cases t? with
  | none => exact ⟨none, rfl⟩
  | some t =>
    obtain ⟨text, htext⟩ := zoneText_eq_ok (h t rfl)
    exact ⟨some text, by rw [zoneText?, htext]; rfl⟩

/-- A row is shown if all its dates can be. -/
lemma CertificateView.ofRow_eq_ok {r : Row Certificate} (hissued : ∀ t ∈ r.data.issued, IsShown t)
    (hexpires : IsShown r.data.expires) (hcreated : IsShown r.createdAt)
    (hupdated : IsShown r.updatedAt) : ∃ v, ofRow r = .ok v := by
  obtain ⟨issued, hissued⟩ := zoneText?_eq_ok hissued
  obtain ⟨expires, hexpires⟩ := zoneText_eq_ok hexpires
  obtain ⟨createdAt, hcreated⟩ := zoneText_eq_ok hcreated
  obtain ⟨updatedAt, hupdated⟩ := zoneText_eq_ok hupdated
  unfold ofRow
  rw [hissued, hexpires, hcreated, hupdated]
  exact ⟨_, rfl⟩

lemma RequestView.ofRow_eq_ok {r : Row CertificateRequest}
    (happroved : ∀ t ∈ r.data.approvedAt, IsShown t)
    (hrejected : ∀ t ∈ r.data.rejectedAt, IsShown t) (hcreated : IsShown r.createdAt)
    (hupdated : IsShown r.updatedAt) : ∃ v, ofRow r = .ok v := by
  obtain ⟨approvedAt, happroved⟩ := zoneText?_eq_ok happroved
  obtain ⟨rejectedAt, hrejected⟩ := zoneText?_eq_ok hrejected
  obtain ⟨createdAt, hcreated⟩ := zoneText_eq_ok hcreated
  obtain ⟨updatedAt, hupdated⟩ := zoneText_eq_ok hupdated
  unfold ofRow
  rw [happroved, hrejected, hcreated, hupdated]
  exact ⟨_, rfl⟩

/-- The view of a request that nobody has decided on has no other dates than those of its row. -/
lemma RequestView.ofRow_eq_ok_of_isNew {r : Row CertificateRequest} (hnew : r.data.IsNew)
    (hcreated : IsShown r.createdAt) (hupdated : IsShown r.updatedAt) : ∃ v, ofRow r = .ok v := by
  apply ofRow_eq_ok _ _ hcreated hupdated
  · simp [hnew.approvedAt]
  · simp [hnew.rejectedAt]

/-- The dates of the issue of a certificate, which no update changes, can be shown. -/
structure Row.ShowsIssue (r : Row Certificate) : Prop where
  issued : ∀ t ∈ r.data.issued, IsShown t
  createdAt : IsShown r.createdAt

/-! ### What is not -/

lemma zoneText_failsWith (t : Instant) : FailsWith (· = .zoneOverflow) (zoneText t) := by
  unfold zoneText
  split
  · exact .ok _
  · exact .error rfl

lemma zoneText?_failsWith (t? : Option Instant) : FailsWith (· = .zoneOverflow) (zoneText? t?) := by
  cases t? with
  | none => exact .ok none
  | some t => exact (zoneText_failsWith t).bind fun text => .ok _

/-- Where a certificate is not shown, it is because of the zone. -/
lemma CertificateView.ofRow_failsWith (r : Row Certificate) :
    FailsWith (· = .zoneOverflow) (ofRow r) :=
  (zoneText?_failsWith _).bind fun _ => (zoneText_failsWith _).bind fun _ =>
    (zoneText_failsWith _).bind fun _ => (zoneText_failsWith _).bind fun _ => .ok _

lemma RequestView.ofRow_failsWith (r : Row CertificateRequest) :
    FailsWith (· = .zoneOverflow) (ofRow r) :=
  (zoneText?_failsWith _).bind fun _ => (zoneText?_failsWith _).bind fun _ =>
    (zoneText_failsWith _).bind fun _ => (zoneText_failsWith _).bind fun _ => .ok _

end CertRegistry
