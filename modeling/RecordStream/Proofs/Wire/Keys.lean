import RecordStream.Proofs.Value.Order
import RecordStream.Proofs.Wire.Rebuild

/-!
The keys of the maps that are read. MessagePack breaks at a key that is neither text nor bytes, and
JSON has texts only, so no other key is in a map that comes out of bytes.
-/

namespace RecordStream

namespace Value

variable {entries : List (Value × Value)} {key v : Value}

def Keyed (v : Value) : Prop :=
  ∀ entries, v = .map entries → ∀ key ∈ entries.map (·.1), key.IsKey

theorem keyed_of_kind (h : v.kind ≠ .map) : v.Keyed := by
  rintro entries rfl
  exact absurd rfl h

theorem keyed_nil : Keyed (.map []) := by
  rintro entries ⟨⟩ key hkey
  cases hkey

theorem keys_insert_subset (entries : List (Value × Value)) (key v : Value) :
    (insert entries key v).map (·.1) ⊆ key :: entries.map (·.1) := by
  induction entries with
  | nil => exact List.Subset.refl _
  | cons e rest ih =>
    rw [insert]
    split
    · exact List.subset_cons_self _ _
    · intro k hk
      rcases List.mem_cons.1 hk with rfl | hk
      · exact .tail _ (.head _)
      · rcases List.mem_cons.1 (ih hk) with rfl | hk
        · exact .head _
        · exact .tail _ (.tail _ hk)

theorem Keyed.insert (h : Keyed (.map entries)) (hkey : key.IsKey) (v : Value) :
    Keyed (.map (insert entries key v)) := by
  rintro _ ⟨⟩ k hk
  rcases List.mem_cons.1 (keys_insert_subset entries key v hk) with rfl | hk
  · exact hkey
  · exact h entries rfl k hk

end Value

open Value (Keyed keyed_of_kind keyed_nil)

namespace MessagePack

def Container.Keyed : Container → Prop
  | .list .. => True
  | .map _ done _ => Value.Keyed (.map done)

def Partial.Keyed (s : Partial) : Prop := ∀ c ∈ s.containers, c.Keyed

section

variable {outer : List Container} (houter : ∀ c ∈ outer, c.Keyed) (n : Nat)

include houter

theorem keyed_deliver {v : Value} (hv : v.Keyed) :
    (deliver outer v).Meets (fun s _ => s.Keyed) (fun v _ => v.Keyed) n := by
  induction outer generalizing v with
  | nil => exact hv
  | cons c outer ih =>
    obtain ⟨hc, hrest⟩ := List.forall_mem_cons.1 houter
    match c with
    | .list missing done =>
      unfold deliver
      split
      · exact ih hrest (keyed_of_kind (by simp [Value.kind]))
      · exact List.forall_mem_cons.2 ⟨trivial, hrest⟩
    | .map missing done none => exact List.forall_mem_cons.2 ⟨hc, hrest⟩
    | .map missing done (some key) =>
      have hput (hkey : key.IsKey) :
          (if missing ≤ 1 then deliver outer (.map (Value.insert done key v))
            else .more ⟨.map (missing - 1) (Value.insert done key v) none :: outer, .head⟩).Meets
              (fun s _ => s.Keyed) (fun v _ => v.Keyed) n := by
        have hmap : Value.Keyed (.map (Value.insert done key v)) := Value.Keyed.insert hc hkey v
        split
        · exact ih hrest hmap
        · exact List.forall_mem_cons.2 ⟨hmap, hrest⟩
      unfold deliver
      split
      · next hkind => exact hput (.inl hkind)
      · next hkind => exact hput (.inr hkind)
      · trivial

theorem Moves.keyed {p : Step} (h : Moves outer p) :
    p.Meets (fun s _ => s.Keyed) (fun v _ => v.Keyed) n := by
  cases h with
  | stays token => exact houter
  | opensList count => exact List.forall_mem_cons.2 ⟨trivial, houter⟩
  | opensMap count => exact List.forall_mem_cons.2 ⟨keyed_nil, houter⟩
  | brings bare =>
    apply keyed_deliver houter
    rintro entries rfl
    rw [bare entries rfl]
    exact keyed_nil [] rfl
  | breaks fault => trivial

end

theorem keyed_whole {frame : Bytes} {v : Value} (h : framing.Whole frame v) : v.Keyed := by
  apply h.meets (I := fun s _ => Partial.Keyed s) (O := fun v _ => v.Keyed)
  · intro s n b hs
    exact (moves_step s b).keyed hs (n + 1)
  · exact List.forall_mem_nil _

end MessagePack

namespace Json

variable {fuel : Nat} {t rest : Text} {v : Value}

theorem kind_number (h : number t = .ok (v, rest)) : v.kind = .int ∨ v.kind = .float := by
  unfold number at h
  split at h
  split at h
  split at h
  · cases h
  dsimp only at h
  split at h
  · split at h
    · cases h
      exact .inl rfl
    · cases h
  · cases h
    exact .inr rfl

theorem kind_scalar (h : scalar t = .ok (v, rest)) : v.kind ≠ .map := by
  have hwords : ∀ w ∈ words, w.2.kind ≠ .map := by decide
  rcases word_or_number_of_scalar h with ⟨w, hw, rfl⟩ | h
  · exact hwords w hw
  · rcases kind_number h with hkind | hkind <;> simp [hkind]

theorem kind_items {done : List Value} (h : items fuel done t = .ok (v, rest)) : v.kind ≠ .map := by
  induction fuel generalizing done t with
  | zero =>
    unfold items at h
    cases h
  | succ fuel ih =>
    unfold items at h
    split at h
    · cases h
    split at h
    · cases h
    split at h
    · cases h
      simp [Value.kind]
    split at h
    · exact ih h
    · cases h

theorem keyed_members {done : List (Value × Value)} (hdone : Keyed (.map done))
    (h : members fuel done t = .ok (v, rest)) : v.Keyed := by
  induction fuel generalizing done t with
  | zero =>
    unfold members at h
    cases h
  | succ fuel ih =>
    cases t with
    | nil =>
      unfold members at h
      cases h
    | cons c left =>
      unfold members at h
      split at h
      · split at h
        · cases h
        next name left _ =>
        split at h
        · cases h
        split at h
        · split at h
          · cases h
          next member _ _ =>
          have hmore := hdone.insert (.inl rfl : (Value.text name).IsKey) member
          dsimp only at h
          split at h
          · cases h
          split at h
          · cases h
            exact hmore
          split at h
          · exact ih hmore h
          · cases h
        · cases h
      · cases h

theorem keyed_value (h : value fuel t = .ok (v, rest)) : v.Keyed := by
  cases fuel with
  | zero =>
    unfold value at h
    cases h
  | succ fuel =>
    cases t with
    | nil =>
      unfold value at h
      cases h
    | cons c left =>
      unfold value at h
      split at h
      · split at h
        · cases h
          exact keyed_of_kind (by simp [Value.kind])
        · cases h
      split at h
      · split at h
        · exact keyed_members keyed_nil h
        · split at h
          · cases h
            exact keyed_nil
          · exact keyed_members keyed_nil h
      split at h
      · split at h
        · exact keyed_of_kind (kind_items h)
        · split at h
          · cases h
            exact keyed_of_kind (by simp [Value.kind])
          · exact keyed_of_kind (kind_items h)
      · exact keyed_of_kind (kind_scalar h)

theorem keyed_read (h : read t = .ok v) : v.Keyed := by
  unfold read at h
  dsimp only at h
  split at h
  · cases h
  next hvalue =>
  split at h
  · cases h
    exact keyed_value hvalue
  · cases h

theorem keyed_whole {line : Bytes} (h : framing.Whole line v) : v.Keyed := by
  obtain ⟨t, hread⟩ := exists_read_of_whole h
  exact keyed_read hread

end Json

theorem Encoding.keyed_of_decodeAll {e : Encoding} {data : Bytes} {objects : List Value}
    (h : e.decodeAll data = .ok objects) {v : Value} (hv : v ∈ objects) : v.Keyed := by
  obtain ⟨frames, hframes, -⟩ := exists_frames_of_decodeAll h
  obtain ⟨frame, hwhole, -⟩ := exists_whole_of_mem hframes hv
  cases e with
  | msgpack => exact MessagePack.keyed_whole hwhole
  | json => exact Json.keyed_whole hwhole

end RecordStream
