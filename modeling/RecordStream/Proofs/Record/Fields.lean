import RecordStream.Proofs.Record.Shape

/-!
The reader of records as a judge of four fields. A map with exactly the keys of a record is judged by
what stands under them, in whatever order they come; all other maps are refused for their keys. So
a record is made of exactly the values that describe one, and says all that they say.
-/

namespace RecordStream

namespace Value

variable {entries : List (Value × Value)} {key : Text} {k v : Value}

theorem get?_cons : get? ((k, v) :: entries) key =
    if k.sameKey (.text key) then some v else get? entries key := by
  unfold get?
  rw [List.find?_cons]
  split <;> simp [*]

theorem get?_of_mem (hnodup : (entries.map (·.1)).Nodup) (h : (.text key, v) ∈ entries) :
    get? entries key = some v := by
  induction entries with
  | nil => cases h
  | cons e rest ih =>
    obtain ⟨k, v'⟩ := e
    obtain ⟨hhead, hrest⟩ := List.nodup_cons.1 hnodup
    rw [get?_cons]
    rcases List.mem_cons.1 h with h | h
    · cases h
      rw [if_pos (by simp [sameKey])]
    · rw [if_neg, ih hrest h]
      intro hsame
      apply hhead
      rw [eq_of_sameKey hsame]
      exact List.mem_map.2 ⟨_, h, rfl⟩

end Value

namespace Record

def Fields (entries : List (Value × Value)) (id source parent message : Value) : Prop :=
  entries.Perm [(.text "id", id), (.text "source", source), (.text "parent", parent),
    (.text "message", message)]

def HasFields (entries : List (Value × Value)) : Prop :=
  (entries.map (·.1)).Perm (fieldNames.map Value.text)

section

variable {entries : List (Value × Value)} {id source parent message : Value}

theorem Fields.hasFields (h : Fields entries id source parent message) : HasFields entries :=
  h.map Prod.fst

theorem HasFields.nodup (h : HasFields entries) : (entries.map (·.1)).Nodup := by
  rw [h.nodup_iff]
  exact List.Nodup.map (fun _ _ => Value.text.inj) (by decide)

theorem Fields.get? (h : Fields entries id source parent message) :
    Value.get? entries "id" = some id ∧ Value.get? entries "source" = some source ∧
      Value.get? entries "parent" = some parent ∧ Value.get? entries "message" = some message := by
  have hget {name : Text} {v : Value} (hmem : (.text name, v) ∈ entries) :=
    Value.get?_of_mem h.hasFields.nodup hmem
  refine ⟨hget ?_, hget ?_, hget ?_, hget ?_⟩ <;> simp [h.mem_iff]

theorem HasFields.exists_mem (h : HasFields entries) (name : Text) (hname : name ∈ fieldNames) :
    ∃ v, (.text name, v) ∈ entries := by
  have hkey : Value.text name ∈ entries.map (·.1) := by
    rw [h.mem_iff]
    exact List.mem_map_of_mem hname
  obtain ⟨⟨k, v⟩, he, rfl⟩ := List.mem_map.1 hkey
  exact ⟨v, he⟩

theorem HasFields.length (h : HasFields entries) : entries.length = fieldNames.length := by
  simpa using h.length_eq

theorem HasFields.fields_of_mem (h : HasFields entries) (hid : (.text "id", id) ∈ entries)
    (hsource : (.text "source", source) ∈ entries) (hparent : (.text "parent", parent) ∈ entries)
    (hmessage : (.text "message", message) ∈ entries) :
    Fields entries id source parent message :=
  perm_of_get? h.length (Value.get?_of_mem h.nodup hid) (Value.get?_of_mem h.nodup hsource)
    (Value.get?_of_mem h.nodup hparent) (Value.get?_of_mem h.nodup hmessage)

theorem HasFields.exists_fields (h : HasFields entries) :
    ∃ id source parent message, Fields entries id source parent message := by
  obtain ⟨id, hid⟩ := h.exists_mem "id" (by decide)
  obtain ⟨source, hsource⟩ := h.exists_mem "source" (by decide)
  obtain ⟨parent, hparent⟩ := h.exists_mem "parent" (by decide)
  obtain ⟨message, hmessage⟩ := h.exists_mem "message" (by decide)
  exact ⟨id, source, parent, message, h.fields_of_mem hid hsource hparent hmessage⟩

end

def ofFields (id source parent message : Value) : Except ShapeFault Record :=
  match id with
  | .int id =>
    match source, message with
    | .text source, .text message =>
      match parent with
      | .map [(key, child)] =>
        if key.sameKey (.text "child") then
          match child with
          | .text child => .ok { id, source := .value source, child, message }
          | _ => .error .child
        else .error (showing parent (.parent parent))
      | _ => .error (showing parent (.parent parent))
    | _, _ => .error .texts
  | _ => .error (showing id (.id id))

section

variable {entries : List (Value × Value)} {id source parent message : Value} {r : Record}

theorem ofValue_of_fields (h : Fields entries id source parent message) :
    ofValue (.map entries) = ofFields id source parent message := by
  obtain ⟨hid, hsource, hparent, hmessage⟩ := h.get?
  have hfound : fieldNames.all fun n => (Value.get? entries n).isSome := by
    simp [fieldNames, hid, hsource, hparent, hmessage]
  rw [ofValue, if_pos ⟨h.hasFields.length, hfound⟩, hid, hsource, hparent, hmessage]
  rfl

theorem ofValue_of_not_hasFields (h : ¬HasFields entries) :
    ofValue (.map entries) = .error (keysFault (entries.map (·.1))) := by
  rw [ofValue, if_neg]
  rintro ⟨hlength, hfound⟩
  simp only [fieldNames, List.all_cons, List.all_nil, Bool.and_true, Bool.and_eq_true,
    Option.isSome_iff_exists] at hfound
  obtain ⟨⟨id, hid⟩, ⟨source, hsource⟩, ⟨parent, hparent⟩, message, hmessage⟩ := hfound
  have hfields : Fields entries id source parent message :=
    perm_of_get? hlength hid hsource hparent hmessage
  exact h hfields.hasFields

end

theorem ofValue_of_shape {v : Value} {r : Record} (h : Shape r v) : ofValue v = .ok r := by
  cases h with
  | @intro source entries named fields =>
    obtain ⟨id, _, child, message⟩ := r
    cases named
    exact ofValue_of_fields fields

/-- A map with the four fields of a record and no others, each of the right kind. -/
def IsRecordMap (v : Value) : Prop :=
  ∃ entries, v = .map entries ∧
    (entries.map (·.1)).Perm [.text "id", .text "source", .text "parent", .text "message"] ∧
    (∃ n, (.text "id", .int n) ∈ entries) ∧ (∃ s, (.text "source", .text s) ∈ entries) ∧
    (∃ m, (.text "message", .text m) ∈ entries) ∧
    ∃ c, (.text "parent", .map [(.text "child", .text c)]) ∈ entries

theorem isRecordMap_iff {v : Value} : IsRecordMap v ↔ ∃ r, Shape r v := by
  constructor
  · rintro ⟨entries, rfl, hkeys, ⟨n, hid⟩, ⟨s, hsource⟩, ⟨m, hmessage⟩, c, hparent⟩
    have hfields : HasFields entries := hkeys
    exact ⟨{ id := n, source := .value s, child := c, message := m },
      .intro rfl (hfields.fields_of_mem hid hsource hparent hmessage)⟩
  · rintro ⟨r, @⟨source, entries, named, fields⟩⟩
    have hfields : HasFields entries := Fields.hasFields fields
    refine ⟨entries, rfl, hfields, ⟨r.id, ?_⟩, ⟨source, ?_⟩, ⟨r.message, ?_⟩, r.child, ?_⟩ <;>
      simp [fields.mem_iff]

/-- A record is made exactly of the maps with its four fields, whatever their order. Its own map has
the same entries, in the order in which they are sent, and out of that map it is made again. -/
theorem ofValue_accepts :
    (∀ v, (∃ r, ofValue v = .ok r) ↔ IsRecordMap v) ∧
    (∀ v r, ofValue v = .ok r → ∃ entries fields, v = .map entries ∧ r.toValue = .map fields ∧
      entries.Perm fields ∧
      fields.map (·.1) = [.text "id", .text "source", .text "parent", .text "message"]) ∧
    ∀ id source child message,
      let r : Record := { id, source := .value source, child, message }
      ofValue r.toValue = .ok r := by
  refine ⟨?_, ?_, ?_⟩
  · intro v
    rw [isRecordMap_iff]
    exact exists_congr fun r => ⟨shape_of_ofValue, ofValue_of_shape⟩
  · intro v r h
    obtain ⟨entries, fields, hv, hr, hperm⟩ := (shape_of_ofValue h).exists_perm
    obtain ⟨fields', hr', hnames⟩ := r.keys_toValue
    cases hr.symm.trans hr'
    exact ⟨entries, fields, hv, hr, hperm, hnames⟩
  · intro id source child message
    exact ofValue_toValue ⟨source, rfl⟩

def backwards : List (Value × Value) :=
  [(.text "message", .text "m"), (.text "parent", .map [(.text "child", .text "c")]),
    (.text "source", .text "s"), (.text "id", .int 7)]

theorem ofValue_accepts_backwards :
    ∃ r fields, ofValue (.map backwards) = .ok r ∧ r.toValue = .map fields ∧
      backwards.Perm fields ∧
      fields.map (·.1) = [.text "id", .text "source", .text "parent", .text "message"] := by
  have hrecord : IsRecordMap (.map backwards) := by
    have hkeys : (backwards.map (·.1)).Perm (fieldNames.map Value.text) :=
      (fieldNames.map Value.text).reverse_perm
    refine ⟨backwards, rfl, hkeys, ⟨7, ?_⟩, ⟨"s", ?_⟩, ⟨"m", ?_⟩, "c", ?_⟩ <;>
      simp [backwards]
  obtain ⟨r, hr⟩ := (ofValue_accepts.1 _).2 hrecord
  obtain ⟨entries, fields, hentries, hfields, hperm, hnames⟩ := ofValue_accepts.2.1 _ r hr
  cases hentries
  exact ⟨r, fields, hr, hfields, hperm, hnames⟩

end Record

end RecordStream
