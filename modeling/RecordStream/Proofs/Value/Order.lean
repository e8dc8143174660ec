import RecordStream.Proofs.Sorting.Powersort
import RecordStream.Value.Order

/-!
Which keys can be put in order. Sorting compares no two keys of different sorts without a fault, so
it succeeds on keys of one sort only. Among texts and bytes it succeeds exactly there.
-/

namespace RecordStream.Value

variable {a b : Value} {keys : List Value}

def orderKind (v : Value) : Kind := if v.isNumber then .float else v.kind

theorem orderKind_eq_of_less? {answer : Bool} (h : less? a b = some answer) :
    a.orderKind = b.orderKind := by
  unfold less? at h
  split at h
  · rfl
  · rfl
  · rfl
  · split_ifs at h with hnumbers
    rw [Bool.and_eq_true] at hnumbers
    rw [orderKind, orderKind, if_pos hnumbers.1, if_pos hnumbers.2]

theorem sortKeys_yields (keys : List Value) :
    Yields (sortKeys keys) (fun sorted => sorted.Perm keys ∧ Sorting.OneKind orderKind keys)
      (fun fault => ∃ a ∈ keys, ∃ b ∈ keys, less? a b = none ∧ fault = (a.kind, b.kind)) := by
  unfold sortKeys
  apply (Sorting.sort_yields _ keys).mono (fun _ => id)
  · rintro fault ⟨a, ha, b, hb, h⟩
    dsimp only at h
    split at h
    · cases h
    · next hless =>
      cases h
      exact ⟨a, ha, b, hb, hless, rfl⟩
  · intro a b answer h
    dsimp only at h
    split at h
    · next hless => exact orderKind_eq_of_less? hless
    · cases h

def IsKey (v : Value) : Prop := v.kind = .text ∨ v.kind = .bytes

def Mixed (keys : List Value) : Prop :=
  (∃ a ∈ keys, a.kind = .text) ∧ ∃ b ∈ keys, b.kind = .bytes

theorem IsKey.exists_eq {v : Value} (h : v.IsKey) : (∃ t, v = .text t) ∨ ∃ b, v = .bytes b := by
  cases v with
  | text t => exact .inl ⟨t, rfl⟩
  | bytes b => exact .inr ⟨b, rfl⟩
  | _ => rcases h with h | h <;> cases h

theorem kind_ne_of_less?_eq_none (ha : a.IsKey) (hb : b.IsKey) (h : less? a b = none) :
    a.kind ≠ b.kind := by
  rcases ha.exists_eq with ⟨s, rfl⟩ | ⟨s, rfl⟩ <;> rcases hb.exists_eq with ⟨t, rfl⟩ | ⟨t, rfl⟩
  · cases h
  · nofun
  · nofun
  · cases h

theorem orderKind_of_isKey (h : a.IsKey) : a.orderKind = a.kind := by
  rcases h.exists_eq with ⟨t, rfl⟩ | ⟨b, rfl⟩ <;> rfl

theorem mixed_of_kind_ne (hkeys : ∀ key ∈ keys, key.IsKey) (ha : a ∈ keys) (hb : b ∈ keys)
    (h : a.kind ≠ b.kind) : Mixed keys := by
  rcases hkeys a ha with hta | hba
  · exact ⟨⟨a, ha, hta⟩, b, hb, (hkeys b hb).resolve_left fun htb => h (hta.trans htb.symm)⟩
  · exact ⟨⟨b, hb, (hkeys b hb).resolve_right fun hbb => h (hba.trans hbb.symm)⟩, a, ha, hba⟩

theorem not_mixed_of_oneKind (hkeys : ∀ key ∈ keys, key.IsKey)
    (h : Sorting.OneKind orderKind keys) : ¬Mixed keys := by
  rintro ⟨⟨a, ha, hta⟩, b, hb, hbb⟩
  have hkind := h a ha b hb
  rw [orderKind_of_isKey (hkeys a ha), orderKind_of_isKey (hkeys b hb), hta, hbb] at hkind
  cases hkind

theorem sortKeys_of_isKey (hkeys : ∀ key ∈ keys, key.IsKey) :
    Yields (sortKeys keys) (fun sorted => sorted.Perm keys ∧ ¬Mixed keys) (fun _ => Mixed keys) := by
  apply (sortKeys_yields keys).mono
  · rintro sorted ⟨hperm, hkind⟩
    exact ⟨hperm, not_mixed_of_oneKind hkeys hkind⟩
  · rintro fault ⟨a, ha, b, hb, hless, -⟩
    exact mixed_of_kind_ne hkeys ha hb (kind_ne_of_less?_eq_none (hkeys a ha) (hkeys b hb) hless)

end RecordStream.Value
