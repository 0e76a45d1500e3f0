import CertRegistry.Proofs.Store.Operations

/-!
# Stores that agree for a user

Two stores agree for a user if that user's certificates and requests are the same in both and the
next request gets the same id. A submission of the user then comes to the same in both: it fails
alike, or the same request is made. In either store it leaves alone what belongs to others.
-/

namespace CertRegistry

/-! ### Operations that come to the same -/

/-- Two operations fail alike, or their results are related. -/
inductive Alike {α β : Type} (R : α → β → Prop) : Except Failure α → Except Failure β → Prop
  | error (f : Failure) : Alike R (.error f) (.error f)
  | ok {a : α} {b : β} (h : R a b) : Alike R (.ok a) (.ok b)

namespace Alike

variable {α β γ δ : Type} {R : α → β → Prop} {Q : γ → δ → Prop}

lemma bind {x : Except Failure α} {y : Except Failure β} {f : α → Except Failure γ}
    {g : β → Except Failure δ} (h : Alike R x y) (hnext : ∀ a b, R a b → Alike Q (f a) (g b)) :
    Alike Q (x >>= f) (y >>= g) := by
  cases h with
  | error e => exact .error e
  | ok h => exact hnext _ _ h

lemma bind_self {x : Except Failure α} {f : α → Except Failure γ} {g : α → Except Failure δ}
    (hnext : ∀ a, x = .ok a → Alike Q (f a) (g a)) : Alike Q (x >>= f) (x >>= g) := by
  cases x with
  | error e => exact .error e
  | ok a => exact hnext a rfl

lemma map_right {P : α → γ → Prop} {x : Except Failure α} {y : Except Failure β} {f : β → γ}
    (h : Alike R x y) (hf : ∀ a b, R a b → P a (f b)) : Alike P x (y.map f) := by
  cases h with
  | error e => exact .error e
  | ok h => exact .ok (hf _ _ h)

end Alike

namespace Store

/-! ### What belongs to a user, and what to others -/

/-- Two stores hold the same for a user, and the next request gets the same id in both. -/
structure AgreeFor (u : Int) (s t : Store) : Prop where
  certificates : s.certificatesOf (.ofInt u) = t.certificatesOf (.ofInt u)
  requests : s.requestsOf (.ofInt u) = t.requestsOf (.ofInt u)
  lastId : s.requests.lastId = t.requests.lastId

/-- The certificates of others than a user. -/
def certificatesOfOthers (s : Store) (u : Int) : List (Row Certificate) :=
  s.certificates.rows.filter fun r => (r.data.ownerId : Int) ≠ u

/-- The requests of others than a user. -/
def requestsOfOthers (s : Store) (u : Int) : List (Row CertificateRequest) :=
  s.requests.rows.filter fun r => (r.data.userId : Int) ≠ u

/-- From one store to another, nothing is made, changed or deleted of what belongs to others than a
user. -/
structure SparesOthers (u : Int) (s t : Store) : Prop where
  certificates : t.certificatesOfOthers u = s.certificatesOfOthers u
  requests : t.requestsOfOthers u = s.requestsOfOthers u

/-- Two stores agree for a user after something was done to both, which spared all others. -/
structure Isolated (u : Int) (s t s' t' : Store) : Prop where
  agree : AgreeFor u s' t'
  left : SparesOthers u s s'
  right : SparesOthers u t t'

end Store

/-- Something that was done to two stores gave the same result, and the stores agree for a user. -/
structure Done.SameFor {α : Type} (u : Int) (s t : Store) (d d' : Done α) : Prop where
  value : d.value = d'.value
  isolated : Store.Isolated u s t d.store d'.store

namespace Store

variable {u : Int} {s t s' t' s'' t'' : Store} {ctx : Context}

@[simp] lemma SparesOthers.refl (u : Int) (s : Store) : SparesOthers u s s := ⟨rfl, rfl⟩

lemma SparesOthers.trans (h : SparesOthers u s s') (h' : SparesOthers u s' s'') :
    SparesOthers u s s'' :=
  ⟨h'.certificates.trans h.certificates, h'.requests.trans h.requests⟩

lemma AgreeFor.isolated (h : AgreeFor u s t) : Isolated u s t s t := ⟨h, .refl u s, .refl u t⟩

lemma Isolated.trans (h : Isolated u s t s' t') (h' : Isolated u s' t' s'' t'') :
    Isolated u s t s'' t'' :=
  ⟨h'.agree, h.left.trans h'.left, h.right.trans h'.right⟩

/-! ### Requests of the user -/

section Append

variable {now : Instant} {r : CertificateRequest} {row : Row CertificateRequest}
  {v : Table CertificateRequest}

lemma requestsOf_append (happ : s.requests.append? now r = some (row, v)) (k : Key) :
    ({ s with requests := v } : Store).requestsOf k =
      s.requestsOf k ++ [row].filter fun r => some (r.data.userId : Int) = k.id? := by
  simp only [requestsOf, Table.append?_rows happ, List.filter_append]

/-- A new request of the user is none of the others. -/
lemma sparesOthers_append (happ : s.requests.append? now r = some (row, v))
    (hr : (r.userId : Int) = u) : SparesOthers u s { s with requests := v } := by
  refine ⟨rfl, ?_⟩
  simp [requestsOfOthers, Table.append?_rows happ, Table.append?_row happ, hr]

end Append

lemma addRequest_alike (h : AgreeFor u s t) {r : Except Failure CertificateRequest}
    (hr : ∀ r', r = .ok r' → (r'.userId : Int) = u) :
    Alike (fun p q => p.1 = q.1 ∧ Isolated u s t p.2 q.2) (s.addRequest ctx r)
      (t.addRequest ctx r) := by
  refine .bind_self fun _ _ => .bind_self fun _ _ => .bind_self fun now _ =>
    .bind_self fun r' hr' => ?_
  rcases Table.append?_congr h.lastId now r' with ⟨hs, ht⟩ | ⟨row, v, w, hs, ht⟩
  · rw [hs, ht]
    exact .error _
  · rw [hs, ht]
    refine .ok ⟨rfl, ⟨h.certificates, ?_, ?_⟩, ?_, ?_⟩
    · rw [requestsOf_append hs, requestsOf_append ht, h.requests]
    · show v.lastId = w.lastId
      rw [Table.append?_lastId hs, Table.append?_lastId ht, h.lastId]
    · exact sparesOthers_append hs (hr r' hr')
    · exact sparesOthers_append ht (hr r' hr')

/-- What a user may ask for depends on what that user holds. -/
lemma AgreeFor.checkTenant_eq (h : AgreeFor u s t) :
    s.checkTenant (.ofInt u) = t.checkTenant (.ofInt u) := by
  unfold checkTenant holdsActive pendingRequest?
  rw [h.certificates, h.requests]

lemma submitRequest_alike {a : Account} (h : AgreeFor a.id s t) (kind : Text) (k : CertificateKind)
    (reason : Text) :
    Alike (Done.SameFor a.id s t)
      (s.submitRequest ctx (.user a) kind (newRequest a.name (some a.id) k reason))
      (t.submitRequest ctx (.user a) kind (newRequest a.name (some a.id) k reason)) := by
  have hr : ∀ r, newRequest a.name (some a.id) k reason = .ok r → (r.userId : Int) = a.id := by
    intro r hr
    obtain ⟨id, hid, -, rfl⟩ := newRequest_eq_ok_iff.1 hr
    exact (Option.some.inj hid).symm
  have hcheck : s.checkTenant (.ofCaller (.user a)) = t.checkTenant (.ofCaller (.user a)) :=
    h.checkTenant_eq
  unfold submitRequest
  rw [hcheck]
  refine .bind_self fun _ _ => .bind_self fun _ _ => (addRequest_alike h hr).bind ?_
  rintro ⟨row, s'⟩ ⟨row', t'⟩ ⟨hrow, hisolated⟩
  exact .ok ⟨hrow, hisolated⟩

end Store

end CertRegistry
