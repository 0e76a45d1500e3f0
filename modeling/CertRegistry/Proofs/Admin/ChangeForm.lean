import CertRegistry.Admin.ChangeForm
import CertRegistry.Proofs.Request.Submission

/-!
# What a form gives

The entries of a form that was read keep what the columns of a request declare, and they are stored
as they are.
-/

namespace CertRegistry

lemma CertificateKind.ofText_mem_declared {t : Text} (h : t ∈ kindNames) :
    CertificateKind.ofText t ∈ CertificateKind.declared := by
  revert t
  decide

namespace ChangeForm

/-- The entries that a form can give. -/
structure Entries.IsRead (e : Entries) : Prop where
  userName : e.userName.length ≤ 150
  userId : e.userId ≤ maxColumn
  kind : e.kind ∈ CertificateKind.declared

/-! ### Reading -/

lemma length_le_of_readUserName {v : Option Text} {t : Text} (h : readUserName v = .ok t) :
    t.length ≤ 150 := by
  unfold readUserName at h
  extract_lets u at h
  split_ifs at h with hempty hlong hzero hzero
  · exact absurd h nofun
  · exact absurd h nofun
  · exact absurd h nofun
  · obtain rfl := Except.ok.inj h
    exact not_lt.1 hlong

lemma le_of_readUserId {v : Option Text} {n : Nat} (h : readUserId v = .ok n) :
    n ≤ maxColumn := by
  unfold readUserId at h
  extract_lets u at h
  split_ifs at h
  split at h
  · exact absurd h nofun
  · split_ifs at h
    obtain rfl := Except.ok.inj h
    omega

lemma mem_declared_of_readKind {v : Option Text} {k : CertificateKind} (h : readKind v = .ok k) :
    k ∈ CertificateKind.declared := by
  unfold readKind at h
  extract_lets u at h
  split_ifs at h with hempty hkind
  obtain rfl := Except.ok.inj h
  exact CertificateKind.ofText_mem_declared hkind

lemma read_isRead {fields : List (Text × Text)} {e : Entries} (h : read fields = .ok e) :
    e.IsRead := by
  simp only [read] at h
  split at h
  · next hname hid hkind _ =>
    obtain rfl := Except.ok.inj h
    exact ⟨length_le_of_readUserName hname, le_of_readUserId hid, mem_declared_of_readKind hkind⟩
  · exact absurd h nofun

/-! ### Storing -/

/-- A text that may be missing is stored as it is. -/
lemma mapM_storedText_eq_ok {t? t?' : Option Text} (h : t?.mapM storedText = .ok t?') :
    t?' = t? := by
  cases t? with
  | none => exact pure_eq_ok_iff.1 h
  | some t =>
    have h : (storedText t >>= fun u => pure (some u)) = .ok t?' := h
    obtain ⟨u, hu, h⟩ := bind_eq_ok_iff.1 h
    rw [pure_eq_ok_iff.1 h, (storedText_eq_ok_iff.1 hu).2]

/-- Entries are stored as they are. -/
lemma Entries.stored_eq_ok {e e' : Entries} (h : e.stored = .ok e') : e' = e := by
  simp only [Entries.stored, bind_eq_ok_iff, storedText_eq_ok_iff, pure_eq_ok_iff] at h
  obtain ⟨userName, ⟨-, rfl⟩, reason?, hreason, rfl⟩ := h
  rw [mapM_storedText_eq_ok hreason]

end ChangeForm

end CertRegistry
