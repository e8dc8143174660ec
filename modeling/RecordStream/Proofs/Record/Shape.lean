import Mathlib.Data.List.Nodup
import Mathlib.Data.List.Perm.Subperm
import RecordStream.Proofs.Value.Every
import RecordStream.Record.Shape

/-!
What a record is made of, and that a record is found in the maps of its four fields, in whatever
order they are, and in no other value.
-/

namespace RecordStream

def Given.Plain (source : Given Text) : Prop :=
  ∀ t, source = .value t → t.hasSurrogate = false

theorem Given.plain_value_iff {t : Text} :
    Given.Plain (.value t) ↔ t.hasSurrogate = false := by
  simp [Given.Plain]

namespace Record

/-- The source is a text and no blank. -/
def Named (r : Record) : Prop := ∃ s, r.source = .value s

def texts (r : Record) : List Text :=
  match r.source with
  | .value s => [s, r.child, r.message]
  | .blank => [r.child, r.message]

def Plain (r : Record) : Prop := ∀ t ∈ r.texts, t.hasSurrogate = false

theorem mem_texts_iff {r : Record} {t : Text} :
    t ∈ r.texts ↔ r.source = .value t ∨ t = r.child ∨ t = r.message := by
  unfold texts
  cases r.source with
  | value s => simp [eq_comm]
  | blank => simp

theorem keys_toValue (r : Record) :
    ∃ entries, r.toValue = .map entries ∧ entries.map (·.1) = fieldNames.map Value.text :=
  ⟨_, rfl, rfl⟩

theorem hasKey_toValue (r : Record) : r.toValue.hasKey "message" = true := rfl

theorem ofValue_toValue {r : Record} (h : r.Named) : ofValue r.toValue = .ok r := by
  obtain ⟨s, hs⟩ := h
  obtain ⟨id, source, child, message⟩ := r
  subst hs
  rfl

end Record

namespace Value

theorem eq_of_sameKey {key : Value} {t : Text} (h : key.sameKey (.text t)) : key = .text t := by
  cases key with
  | text s => exact congrArg Value.text (by simpa [sameKey] using h)
  | float x => simp [sameKey, units?] at h
  | _ => cases h

theorem mem_of_get? {entries : List (Value × Value)} {key : Text} {v : Value}
    (h : get? entries key = some v) : (.text key, v) ∈ entries := by
  obtain ⟨⟨k, v'⟩, hfind, rfl⟩ := Option.map_eq_some_iff.1 h
  have hkey : k.sameKey (.text key) := by
    simpa using List.find?_some hfind
  rw [← eq_of_sameKey hkey]
  exact List.mem_of_find?_eq_some hfind

end Value

namespace Record

theorem perm_of_get? {entries : List (Value × Value)} {id source parent message : Value}
    (hlength : entries.length = fieldNames.length) (hid : Value.get? entries "id" = some id)
    (hsource : Value.get? entries "source" = some source)
    (hparent : Value.get? entries "parent" = some parent)
    (hmessage : Value.get? entries "message" = some message) :
    entries.Perm [(.text "id", id), (.text "source", source), (.text "parent", parent),
      (.text "message", message)] := by
  have hmem : [(Value.text "id", id), (.text "source", source), (.text "parent", parent),
      (.text "message", message)] ⊆ entries := by
    intro e he
    simp only [List.mem_cons, List.not_mem_nil, or_false] at he
    rcases he with rfl | rfl | rfl | rfl
    · exact Value.mem_of_get? hid
    · exact Value.mem_of_get? hsource
    · exact Value.mem_of_get? hparent
    · exact Value.mem_of_get? hmessage
  have hnames : (fieldNames.map Value.text).Nodup :=
    List.Nodup.map (fun _ _ => Value.text.inj) (by decide)
  have hnodup : [(Value.text "id", id), (.text "source", source), (.text "parent", parent),
      (.text "message", message)].Nodup := List.Nodup.of_map Prod.fst hnames
  exact ((List.subperm_of_subset hnodup hmem).perm_of_length_le (Nat.le_of_eq hlength)).symm

theorem shape_of_ofValue {v : Value} {r : Record} (h : ofValue v = .ok r) : Shape r v := by
  unfold ofValue at h
  split at h
  · next entries =>
    split_ifs at h with hfields
    split at h
    · next id source parent message hid hsource hparent hmessage =>
      have hperm := perm_of_get? hfields.1 hid hsource hparent hmessage
      split at h
      · split at h
        · split at h
          · split_ifs at h with hkey
            split at h
            · cases h
              rw [Value.eq_of_sameKey hkey] at hperm
              exact .intro rfl hperm
            · cases h
          · cases h
        · cases h
      · cases h
    · cases h
  · cases h

namespace Shape

variable {v : Value} {r : Record} (h : Shape r v)

include h

theorem named : r.Named := by
  cases h with
  | @intro source _ named => exact ⟨source, named⟩

theorem exists_perm : ∃ entries fields, v = .map entries ∧ r.toValue = .map fields ∧
    entries.Perm fields := by
  cases h with
  | @intro source entries named fields =>
    refine ⟨entries, _, rfl, rfl, ?_⟩
    rwa [named]

theorem every {P : Value → Prop} (hv : v.Every P) :
    P (.int r.id) ∧ ∀ t ∈ r.texts, P (.text t) := by
  cases h with
  | @intro source entries named fields =>
    have hvalue {key value : Value} (he : (key, value) ∈ entries) : value.Every P :=
      (hv.entries _ he).2
    simp only [fields.mem_iff, List.mem_cons, List.not_mem_nil, or_false] at hvalue
    have hid := (hvalue (.inl rfl)).here
    have hsource := (hvalue (.inr (.inl rfl))).here
    have hparent := (hvalue (.inr (.inr (.inl rfl)))).entries
    have hchild := (hparent _ (List.mem_singleton_self _)).2.here
    have hmessage := (hvalue (.inr (.inr (.inr rfl)))).here
    refine ⟨hid, ?_⟩
    simp only [texts, named, List.forall_mem_cons, List.not_mem_nil, false_implies, implies_true,
      and_true]
    exact ⟨hsource, hchild, hmessage⟩

end Shape

end Record

end RecordStream
