import RecordStream.Proofs.MessagePack.Frame

/-!
How many bytes a value takes up. The writer takes the least for every record, and few if the texts
of the record are short.
-/

namespace RecordStream.MessagePack

mutual

/-- No spelling of the value has fewer bytes. The heads of its parts count, but only numbers, texts
and maps have their contents counted. -/
def leastSize : Value → Nat
  | .int n => if n < 0 then (negative n.natAbs).length else (natural n.natAbs).length
  | .text t => (textBytes t).length
  | .map entries => leastSizeEntries entries + 1
  | _ => 1

def leastSizeEntries : List (Value × Value) → Nat
  | [] => 0
  | (k, v) :: rest => leastSize k + leastSize v + leastSizeEntries rest

end

theorem leastSizeEntries_perm {entries entries' : List (Value × Value)}
    (h : entries.Perm entries') : leastSizeEntries entries = leastSizeEntries entries' := by
  induction h with
  | nil => rfl
  | cons e _ ih => simp only [leastSizeEntries, ih]
  | swap e e' rest =>
    simp only [leastSizeEntries]
    omega
  | trans _ _ ih ih' => exact ih.trans ih'

theorem leastSize_of_shape {r : Record} {v : Value} (h : Record.Shape r v) :
    leastSize v = leastSize r.toValue := by
  obtain ⟨entries, fields, rfl, hfields, hperm⟩ := h.exists_perm
  rw [hfields, leastSize, leastSize, leastSizeEntries_perm hperm]

theorem length_integer {n : Int} {bytes : Bytes} (h : integer n = .ok bytes) :
    bytes.length = leastSize (.int n) := by
  unfold integer at h
  split_ifs at h with hneg hlow hhigh <;> cases h <;> simp [leastSize, hneg]

theorem length_text {t : Text} {bytes : Bytes} (h : text t = .ok bytes) :
    bytes.length = leastSize (.text t) := by
  obtain ⟨-, rfl⟩ := text_eq_ok_iff.1 h
  rw [leastSize]

theorem length_givenText {source : Given Text} {bytes : Bytes} (h : givenText source = .ok bytes) :
    bytes.length = leastSize (source.toValue .text) := by
  cases source with
  | value s => exact length_text h
  | blank =>
    cases h
    simp [Given.toValue, leastSize]

theorem length_mapBytes {entries : List Entry} (h : ∀ e ∈ entries, e.bytes.length = leastSize e.value) :
    (mapBytes entries).length = leastSize (.map (entries.map Entry.pair)) := by
  have hentries : (entries.flatMap Entry.written).length =
      leastSizeEntries (entries.map Entry.pair) := by
    induction entries with
    | nil => rfl
    | cons e rest ih =>
      obtain ⟨he, hrest⟩ := List.forall_mem_cons.1 h
      rw [List.flatMap_cons, List.length_append, ih hrest, Entry.written, List.length_append, he,
        List.map_cons, Entry.pair, leastSizeEntries, leastSize]
  rw [mapBytes, List.length_cons, hentries, leastSize]

theorem length_frame {r : Record} {bytes : Bytes} (h : frame r = .ok bytes) :
    bytes.length = leastSize r.toValue := by
  obtain ⟨id, source, child, message, hid, hsource, hchild, hmessage, rfl⟩ := frame_eq_ok_iff.1 h
  have hparent : (mapBytes [⟨"child", child, .text r.child⟩]).length =
      leastSize (.map [(.text "child", .text r.child)]) :=
    length_mapBytes fun e he => List.mem_singleton.1 he ▸ length_text hchild
  apply length_mapBytes
  simp only [entries, List.forall_mem_cons, List.not_mem_nil, false_implies, implies_true, and_true]
  exact ⟨length_integer hid, length_givenText hsource, hparent, length_text hmessage⟩

theorem length_textHead_le (length : Nat) : (textHead length).length ≤ 5 := by
  unfold textHead
  split_ifs <;> simp

theorem leastSize_text_le (t : Text) : leastSize (.text t) ≤ 4 * t.length + 5 := by
  have hhead := length_textHead_le (Utf8.bytes t).length
  have hbytes := Utf8.length_bytes_le t
  rw [leastSize, textBytes, List.length_append]
  omega

theorem length_bytes_le_leastSize (t : Text) : (Utf8.bytes t).length ≤ leastSize (.text t) := by
  rw [leastSize, textBytes, List.length_append]
  omega

theorem leastSize_toValue (r : Record) :
    leastSize r.toValue = leastSize (.int r.id) + leastSize (r.source.toValue .text)
      + leastSize (.text r.child) + leastSize (.text r.message) + 33 := by
  have hnames : leastSize (.text "id") = 3 ∧ leastSize (.text "source") = 7 ∧
      leastSize (.text "parent") = 7 ∧ leastSize (.text "child") = 6 ∧
      leastSize (.text "message") = 8 := by decide
  obtain ⟨hid, hsource, hparent, hchild, hmessage⟩ := hnames
  have houter (entries : List (Value × Value)) :
      leastSize (.map entries) = leastSizeEntries entries + 1 := by rw [leastSize]
  rw [Record.toValue, houter]
  simp only [leastSizeEntries, houter, hid, hsource, hparent, hchild, hmessage]
  omega

theorem length_bytes_le_of_mem_texts {r : Record} {t : Text} (ht : t ∈ r.texts) :
    (Utf8.bytes t).length ≤ leastSize r.toValue := by
  have hlength := length_bytes_le_leastSize t
  rw [leastSize_toValue]
  obtain hsource | rfl | rfl := Record.mem_texts_iff.1 ht
  · rw [hsource, Given.toValue]
    omega
  · omega
  · omega

end RecordStream.MessagePack
