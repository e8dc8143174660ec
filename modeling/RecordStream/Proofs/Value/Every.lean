import RecordStream.Value.Basic

/-!
Properties that hold of a value and of everything in it. A map keeps such a property when an entry
is put into it, whether the key is new or not.
-/

namespace RecordStream.Value

variable {P : Value → Prop}

/-- The property holds of the value, of its items, and of its keys and values. -/
inductive Every (P : Value → Prop) : Value → Prop
  | intro {v : Value} (here : P v) (items : ∀ items, v = .list items → ∀ item ∈ items, Every P item)
    (keys : ∀ entries, v = .map entries → ∀ e ∈ entries, Every P e.1)
    (values : ∀ entries, v = .map entries → ∀ e ∈ entries, Every P e.2) : Every P v

def EveryEntry (P : Value → Prop) (entries : List (Value × Value)) : Prop :=
  ∀ e ∈ entries, Every P e.1 ∧ Every P e.2

theorem Every.here {v : Value} (h : Every P v) : P v := by
  cases h with
  | intro here => exact here

theorem Every.entries {entries : List (Value × Value)} (h : Every P (.map entries)) :
    EveryEntry P entries := by
  cases h with
  | intro here items keys values =>
    intro e he
    exact ⟨keys entries rfl e he, values entries rfl e he⟩

theorem Every.plain {v : Value} (here : P v) (hlist : v.kind ≠ .list) (hmap : v.kind ≠ .map) :
    Every P v := by
  apply Every.intro here
  · rintro items rfl
    exact absurd rfl hlist
  · rintro entries rfl
    exact absurd rfl hmap
  · rintro entries rfl
    exact absurd rfl hmap

theorem Every.list {items : List Value} (here : P (.list items)) (h : ∀ v ∈ items, Every P v) :
    Every P (.list items) := by
  apply Every.intro here
  · rintro items' ⟨⟩
    exact h
  · rintro entries ⟨⟩
  · rintro entries ⟨⟩

theorem Every.map {entries : List (Value × Value)} (here : P (.map entries))
    (h : EveryEntry P entries) : Every P (.map entries) := by
  apply Every.intro here
  · rintro items ⟨⟩
  · rintro entries' ⟨⟩ e he
    exact (h e he).1
  · rintro entries' ⟨⟩ e he
    exact (h e he).2

theorem everyEntry_nil : EveryEntry P [] := by
  intro e he
  cases he

theorem EveryEntry.insert {entries : List (Value × Value)} {key value : Value}
    (h : EveryEntry P entries) (hkey : Every P key) (hvalue : Every P value) :
    EveryEntry P (insert entries key value) := by
  induction entries with
  | nil => exact List.forall_mem_singleton.2 ⟨hkey, hvalue⟩
  | cons e rest ih =>
    obtain ⟨he, hrest⟩ := List.forall_mem_cons.1 h
    rw [Value.insert]
    split
    · exact List.forall_mem_cons.2 ⟨⟨he.1, hvalue⟩, hrest⟩
    · exact List.forall_mem_cons.2 ⟨he, ih hrest⟩

end RecordStream.Value
