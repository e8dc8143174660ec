import RecordStream.Proofs.MessagePack.Spelling
import RecordStream.Proofs.Record.Shape

/-!
Records are read back from their MessagePack frames. A map of spelled values is spelled, and a
record is a map of maps and spelled values.
-/

namespace RecordStream.MessagePack

open Framing

structure Entry where
  name : Text
  bytes : Bytes
  value : Value

namespace Entry

def pair (e : Entry) : Value × Value := (.text e.name, e.value)

def written (e : Entry) : Bytes := textBytes e.name ++ e.bytes

def Spelled (depth : Nat) (e : Entry) : Prop := Writable e.name ∧ Spells depth e.bytes e.value

theorem Spelled.intro {depth : Nat} {name : Text} {bytes : Bytes} {v : Value} (hname : Writable name)
    (h : Spells depth bytes v) : Spelled depth ⟨name, bytes, v⟩ :=
  ⟨hname, h⟩

end Entry

def mapBytes (entries : List Entry) : Bytes :=
  mapHead entries.length :: entries.flatMap Entry.written

theorem course_entry {depth : Nat} {e : Entry} (h : e.Spelled depth) {outer : List Container}
    (houter : outer.length + depth < maxDepth) (missing : Nat) (done : List (Value × Value)) :
    framing.course (before (.map missing done none :: outer)) e.written =
      some (deliver (.map missing done (some (.text e.name)) :: outer) e.value) := by
  obtain ⟨hname, hvalue⟩ := h
  have hkey := text_spells hname (.map missing done none :: outer) (by
    rw [List.length_cons]
    omega)
  rw [Entry.written, course_append _ hkey]
  exact hvalue _ (by
    rw [List.length_cons]
    omega)

theorem course_entries {depth : Nat} {entries : List Entry} (h : ∀ e ∈ entries, e.Spelled depth)
    (hne : entries ≠ []) {outer : List Container} (houter : outer.length + depth < maxDepth)
    (done : List (Value × Value)) :
    framing.course (before (.map entries.length done none :: outer))
        (entries.flatMap Entry.written) =
      some (deliver outer (.map ((entries.map Entry.pair).foldl
        (fun entries (key, value) => Value.insert entries key value) done))) := by
  induction entries generalizing done with
  | nil => contradiction
  | cons e rest ih =>
    have hentry := course_entry (h e (by simp)) houter (rest.length + 1) done
    rw [List.flatMap_cons, List.length_cons]
    by_cases hrest : rest = []
    · subst hrest
      rw [List.flatMap_nil, List.append_nil]
      exact hentry
    · have hlength := List.length_pos_iff.2 hrest
      have hmore : deliver (.map (rest.length + 1) done (some (.text e.name)) :: outer) e.value =
          .more (before
            (.map rest.length (Value.insert done (.text e.name) e.value) none :: outer)) :=
        if_neg (by omega)
      rw [hmore] at hentry
      rw [course_append _ hentry, ih (fun e he => h e (List.mem_cons_of_mem _ he)) hrest]
      rfl

theorem map_spells {depth : Nat} {entries : List Entry} (h : ∀ e ∈ entries, e.Spelled depth)
    (hne : entries ≠ []) (hlength : entries.length < 16) :
    Spells (depth + 1) (mapBytes entries) (.map (Value.ofPairs (entries.map Entry.pair))) := by
  intro outer houter
  have hpos := List.length_pos_iff.2 hne
  have hb := Utf8.toNat_ofNat (show 0x80 + entries.length < 256 by omega)
  have hhead : framing.step (before outer) (mapHead entries.length) =
      .more (before (.map entries.length [] none :: outer)) := by
    change onHead outer (UInt8.ofNat (0x80 + entries.length)) = _
    simp only [onHead, hb]
    rw [if_neg (by omega), if_pos (by omega), Nat.add_sub_cancel_left, openMap,
      if_neg (by omega), if_neg (by simp only [maxEntries]; omega), if_neg (by omega)]
    rfl
  rw [mapBytes, course_cons _ hhead]
  exact course_entries h hne (by omega) []

theorem blank_spells : Spells 1 [listHead 0] (.list []) := by
  intro outer houter
  have hopen : openList outer 0 = deliver outer (.list []) := by
    rw [openList, if_neg (by omega), if_neg (by decide), if_pos rfl]
  rw [course_singleton, ← hopen]
  rfl

/-! Records. -/

def entries (r : Record) (id source child message : Bytes) : List Entry :=
  [⟨"id", id, .int r.id⟩, ⟨"source", source, r.source.toValue .text⟩,
    ⟨"parent", mapBytes [⟨"child", child, .text r.child⟩], .map [(.text "child", .text r.child)]⟩,
    ⟨"message", message, .text r.message⟩]

theorem frame_eq_ok_iff {r : Record} {bytes : Bytes} :
    frame r = .ok bytes ↔ ∃ id source child message,
      integer r.id = .ok id ∧ givenText r.source = .ok source ∧ text r.child = .ok child ∧
        text r.message = .ok message ∧ mapBytes (entries r id source child message) = bytes := by
  unfold frame
  cases integer r.id with
  | error fault => simp [bind, Except.bind]
  | ok id =>
    cases givenText r.source with
    | error fault => simp [bind, Except.bind]
    | ok source =>
      cases text r.child with
      | error fault => simp [bind, Except.bind]
      | ok child =>
        cases text r.message with
        | error fault => simp [bind, Except.bind]
        | ok message =>
          simp [bind, Except.bind, pure, Except.pure, mapBytes, entries, Entry.written, textBytes]

theorem text_eq_error {t : Text} {fault : EncodeFault} (h : text t = .error fault) :
    (t.hasSurrogate = true ∧ ∃ u, fault = .surrogate u) ∨
      t.hasSurrogate = false ∧ 2 ^ 32 ≤ (Utf8.bytes t).length ∧ fault = .textSize := by
  unfold text at h
  cases hencode : Utf8.encode t with
  | ok bytes =>
    obtain ⟨hplain, rfl⟩ := Utf8.encode_eq_ok_iff.1 hencode
    rw [hencode] at h
    dsimp only at h
    split_ifs at h with hroom
    cases h
    exact .inr ⟨hplain, by omega, rfl⟩
  | error u =>
    rw [hencode] at h
    cases h
    exact .inl ⟨Utf8.hasSurrogate_of_encode_eq_error hencode, u, rfl⟩

theorem givenText_eq_error {r : Record} {fault : EncodeFault}
    (h : givenText r.source = .error fault) : ∃ t ∈ r.texts, text t = .error fault := by
  cases hsource : r.source with
  | value s =>
    rw [hsource] at h
    exact ⟨s, Record.mem_texts_iff.2 (.inl hsource), h⟩
  | blank =>
    rw [hsource] at h
    cases h

theorem frame_eq_error {r : Record} {fault : EncodeFault} (h : frame r = .error fault) :
    integer r.id = .error fault ∨ ∃ t ∈ r.texts, text t = .error fault := by
  unfold frame at h
  cases hid : integer r.id with
  | error fault' =>
    rw [hid] at h
    exact .inl h
  | ok id =>
    right
    cases hsource : givenText r.source with
    | error fault' =>
      rw [hid, hsource] at h
      cases h
      exact givenText_eq_error hsource
    | ok source =>
      cases hchild : text r.child with
      | error fault' =>
        rw [hid, hsource, hchild] at h
        cases h
        exact ⟨_, Record.mem_texts_iff.2 (.inr (.inl rfl)), hchild⟩
      | ok child =>
        cases hmessage : text r.message with
        | error fault' =>
          rw [hid, hsource, hchild, hmessage] at h
          cases h
          exact ⟨_, Record.mem_texts_iff.2 (.inr (.inr rfl)), hmessage⟩
        | ok message =>
          rw [hid, hsource, hchild, hmessage] at h
          cases h

theorem text_isOk_iff {t : Text} : (∃ bytes, text t = .ok bytes) ↔ Writable t := by
  simp [text_eq_ok_iff]

theorem frame_isOk_iff {r : Record} :
    (∃ bytes, frame r = .ok bytes) ↔
      (∀ t ∈ r.texts, Writable t) ∧ -2 ^ 63 ≤ r.id ∧ r.id ≤ 2 ^ 64 - 1 := by
  have hparts : (∃ bytes, frame r = .ok bytes) ↔
      (∃ bytes, integer r.id = .ok bytes) ∧ (∃ bytes, givenText r.source = .ok bytes) ∧
        (∃ bytes, text r.child = .ok bytes) ∧ ∃ bytes, text r.message = .ok bytes := by
    constructor
    · rintro ⟨_, h⟩
      obtain ⟨id, source, child, message, hid, hsource, hchild, hmessage, -⟩ :=
        frame_eq_ok_iff.1 h
      exact ⟨⟨id, hid⟩, ⟨source, hsource⟩, ⟨child, hchild⟩, ⟨message, hmessage⟩⟩
    · rintro ⟨⟨id, hid⟩, ⟨source, hsource⟩, ⟨child, hchild⟩, ⟨message, hmessage⟩⟩
      exact ⟨_, frame_eq_ok_iff.2 ⟨id, source, child, message, hid, hsource, hchild, hmessage, rfl⟩⟩
  have hsource : (∃ bytes, givenText r.source = .ok bytes) ∧ Writable r.child ∧
      Writable r.message ↔ ∀ t ∈ r.texts, Writable t := by
    unfold Record.texts
    cases r.source with
    | value s => simp [givenText, text_isOk_iff]
    | blank => simp [givenText]
  rw [hparts, integer_isOk_iff, text_isOk_iff, text_isOk_iff, hsource, and_comm]

theorem text_spells_of_ok {t : Text} {bytes : Bytes} (h : text t = .ok bytes) :
    Spells 0 bytes (.text t) := by
  obtain ⟨hwritable, rfl⟩ := text_eq_ok_iff.1 h
  exact text_spells hwritable

theorem givenText_spells {source : Given Text} {bytes : Bytes} (h : givenText source = .ok bytes) :
    Spells 1 bytes (source.toValue .text) := by
  cases source with
  | value s => exact (text_spells_of_ok h).mono (by decide)
  | blank =>
    cases h
    exact blank_spells

theorem frame_whole {r : Record} {bytes : Bytes} (h : frame r = .ok bytes) :
    framing.Whole bytes r.toValue := by
  obtain ⟨id, source, child, message, hid, hsource, hchild, hmessage, rfl⟩ := frame_eq_ok_iff.1 h
  have hid := integer_spells hid
  have hsource := givenText_spells hsource
  have hchild := text_spells_of_ok hchild
  have hmessage := text_spells_of_ok hmessage
  have hparent : Spells 1 (mapBytes [⟨"child", child, .text r.child⟩])
      (.map [(.text "child", .text r.child)]) := by
    refine map_spells (fun e he => ?_) (by simp) (by simp)
    rw [List.mem_singleton.1 he]
    exact .intro (by decide) hchild
  have hentries : ∀ e ∈ entries r id source child message, e.Spelled 1 := by
    simp only [entries, List.forall_mem_cons, List.not_mem_nil, false_implies, implies_true,
      and_true]
    exact ⟨.intro (by decide) (hid.mono (by decide)), .intro (by decide) hsource,
      .intro (by decide) hparent, .intro (by decide) (hmessage.mono (by decide))⟩
  exact (map_spells hentries (by simp [entries]) (by simp [entries])).whole (by decide)

end RecordStream.MessagePack
