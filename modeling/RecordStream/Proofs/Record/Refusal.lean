import RecordStream.Proofs.Record.Fields
import RecordStream.Proofs.Wire.Keys

/-!
How a value that is no record is refused. A refusal calls the value bad, unless its message cannot
be made: the message lists the keys in order, which texts and bytes do not have together, and it
shows a value, which must not be nested too deep. Each of these two happens on exactly the values
that its own condition describes, so on all others the refusal is the one that was meant.
-/

namespace RecordStream

namespace Value

variable {items : List Value}

theorem depth_of_isKey {key : Value} (h : key.IsKey) : key.depth = 0 := by
  rcases h.exists_eq with ⟨t, rfl⟩ | ⟨b, rfl⟩ <;> rfl

theorem fits_of_isKey {key : Value} (h : key.IsKey) : key.fits = true := by
  rcases h.exists_eq with ⟨t, rfl⟩ | ⟨b, rfl⟩ <;> rfl

theorem depthItems_le_one (h : ∀ item ∈ items, item.IsKey) : depthItems items ≤ 1 := by
  induction items with
  | nil => exact Nat.zero_le 1
  | cons item rest ih =>
    obtain ⟨hitem, hrest⟩ := List.forall_mem_cons.1 h
    rw [depthItems, depth_of_isKey hitem]
    exact Nat.max_le.2 ⟨Nat.le_refl 1, ih hrest⟩

theorem fitsItems_of_isKey (h : ∀ item ∈ items, item.IsKey) : fitsItems items = true := by
  induction items with
  | nil => rfl
  | cons item rest ih =>
    obtain ⟨hitem, hrest⟩ := List.forall_mem_cons.1 h
    rw [fitsItems, fits_of_isKey hitem, ih hrest]
    rfl

theorem showFault?_keys (h : ∀ item ∈ items, item.IsKey) : showFault? (.list items) = none := by
  have hdepth : (Value.list items).tooDeep = false := by
    have hone := depthItems_le_one h
    rw [tooDeep, decide_eq_false_iff_not, depth]
    simp only [maxShownDepth]
    omega
  have hfits : (Value.list items).fits = true := fitsItems_of_isKey h
  simp [showFault?, hdepth, hfits]

end Value

namespace Record

theorem failure_showing {fault : ShapeFault} (h : fault.failure = .value) (given : Value) :
    (showing given fault).failure = if given.tooDeep then .depth else .value := by
  unfold showing Value.showFault?
  split_ifs
  · rfl
  · exact h
  · rfl

theorem failure_keysFault {keys : List Value} (hkeys : ∀ key ∈ keys, key.IsKey) :
    ((keysFault keys).failure = .value ∧ ¬Value.Mixed keys) ∨
      ((keysFault keys).failure = .order ∧ Value.Mixed keys) := by
  have hsorted := Value.sortKeys_of_isKey hkeys
  unfold keysFault
  cases h : Value.sortKeys keys with
  | error fault =>
    rw [h] at hsorted
    exact .inr ⟨rfl, hsorted⟩
  | ok sorted =>
    rw [h] at hsorted
    obtain ⟨hperm, hmixed⟩ := hsorted
    have hshown : Value.showFault? (.list sorted) = none :=
      Value.showFault?_keys fun key hkey => hkeys key (hperm.subset hkey)
    dsimp only
    rw [showing, hshown]
    exact .inl ⟨rfl, hmixed⟩

/-- Of four values under the names of the fields, the one that the message shows: an id that is no
integer or, if the others are right, a parent that is not a map with a child alone. -/
inductive Shown : Value → Value → Value → Value → Value → Prop
  | id {id source parent message : Value} (wrong : ∀ n, id ≠ .int n) :
    Shown id source parent message id
  | parent {n : Int} {s m : Text} {parent : Value}
    (wrong : ∀ child, parent ≠ .map [(.text "child", child)]) :
    Shown (.int n) (.text s) parent (.text m) parent

inductive Shows : Value → Value → Prop
  | intro {entries : List (Value × Value)} {id source parent message given : Value}
    (fields : Fields entries id source parent message)
    (shown : Shown id source parent message given) : Shows (.map entries) given

def MixesKeys (v : Value) : Prop :=
  ∃ entries, v = .map entries ∧ Value.Mixed (entries.map (·.1))

section

variable {entries : List (Value × Value)} {id source parent message given : Value}

theorem shows_iff (h : Fields entries id source parent message) :
    Shows (.map entries) given ↔ Shown id source parent message given := by
  constructor
  · intro hshows
    cases hshows with
    | intro fields shown =>
      obtain ⟨hid, hsource, hparent, hmessage⟩ := h.get?
      obtain ⟨hid', hsource', hparent', hmessage'⟩ := fields.get?
      cases hid.symm.trans hid'
      cases hsource.symm.trans hsource'
      cases hparent.symm.trans hparent'
      cases hmessage.symm.trans hmessage'
      exact shown
  · exact .intro h

theorem HasFields.not_mixesKeys (h : HasFields entries) : ¬MixesKeys (.map entries) := by
  rintro ⟨_, ⟨⟩, -, key, hkey, hbytes⟩
  obtain ⟨name, -, rfl⟩ := List.mem_map.1 (h.mem_iff.1 hkey)
  cases hbytes

end

/-- The reading gives a record, or refuses its value as bad; unless a value that the message is to
show is nested too deep, which is then the failure. -/
def Judged (shows : Value → Prop) (x : Except ShapeFault Record) : Prop :=
  Yields x (fun _ => ∀ v, ¬shows v) fun fault =>
    (fault.failure = .value ∧ ∀ v, shows v → ¬v.tooDeep) ∨
      (fault.failure = .depth ∧ ∃ v, shows v ∧ v.tooDeep)

theorem judged_silent {shows : Value → Prop} {fault : ShapeFault} (hfault : fault.failure = .value)
    (h : ∀ v, ¬shows v) : Judged shows (.error fault) :=
  .inl ⟨hfault, fun v hv => absurd hv (h v)⟩

theorem judged_showing {shows : Value → Prop} {fault : ShapeFault} (hfault : fault.failure = .value)
    {given : Value} (hgiven : shows given) (honly : ∀ v, shows v → v = given) :
    Judged shows (.error (showing given fault)) := by
  have hfailure := failure_showing hfault given
  split_ifs at hfailure with hdepth
  · exact .inr ⟨hfailure, given, hgiven, hdepth⟩
  · refine .inl ⟨hfailure, fun v hv => ?_⟩
    rwa [honly v hv]

theorem judged_ofFields (id source parent message : Value) :
    Judged (Shown id source parent message) (ofFields id source parent message) := by
  have hparent {n : Int} {s m : Text} (wrong : ∀ child, parent ≠ .map [(.text "child", child)]) :
      Judged (Shown (.int n) (.text s) parent (.text m))
        (.error (showing parent (.parent parent))) := by
    apply judged_showing rfl (.parent wrong)
    intro v hv
    cases hv with
    | id wrong => exact absurd rfl (wrong n)
    | parent => rfl
  unfold ofFields
  split
  · next n =>
    split
    · next s m =>
      have hright {child : Value} (given : Value) :
          ¬Shown (.int n) (.text s) (.map [(.text "child", child)]) (.text m) given := by
        intro hshown
        cases hshown with
        | id wrong => exact wrong n rfl
        | parent wrong => exact wrong child rfl
      split
      · next key child =>
        split_ifs with hkey
        · cases Value.eq_of_sameKey hkey
          split
          · exact hright
          · exact judged_silent rfl hright
        · apply hparent
          rintro child ⟨⟩
          exact hkey (by decide)
      · next hmap =>
        apply hparent
        rintro child rfl
        exact hmap _ child rfl
    · next htexts =>
      apply judged_silent rfl
      intro given hshown
      cases hshown with
      | id wrong => exact wrong n rfl
      | @parent _ s m => exact htexts s m rfl rfl
  · next hid =>
    apply judged_showing rfl (.id hid)
    intro v hv
    cases hv with
    | id => rfl
    | parent => exact absurd rfl (hid _)

def Fails (v : Value) (failure : Failure) : Prop :=
  ∃ fault, ofValue v = .error fault ∧ fault.failure = failure

theorem judged_ofValue {v : Value} (hkeyed : v.Keyed) :
    (MixesKeys v ∧ Fails v .order ∧ ∀ given, ¬Shows v given) ∨
      (¬MixesKeys v ∧ Judged (Shows v) (ofValue v)) := by
  cases v with
  | map entries =>
    by_cases hfields : HasFields entries
    · obtain ⟨id, source, parent, message, h⟩ := hfields.exists_fields
      have hshows : Shows (.map entries) = Shown id source parent message := by
        funext given
        exact propext (shows_iff h)
      refine .inr ⟨hfields.not_mixesKeys, ?_⟩
      rw [hshows, ofValue_of_fields h]
      exact judged_ofFields id source parent message
    · have hsilent (given : Value) : ¬Shows (.map entries) given := by
        intro hshows
        cases hshows with
        | intro fields => exact hfields fields.hasFields
      have herror := ofValue_of_not_hasFields hfields
      rcases failure_keysFault (hkeyed entries rfl) with ⟨hfault, hmixed⟩ | ⟨hfault, hmixed⟩
      · right
        constructor
        · rintro ⟨_, ⟨⟩, h⟩
          exact hmixed h
        · rw [herror]
          exact judged_silent hfault hsilent
      · exact .inl ⟨⟨entries, rfl, hmixed⟩, ⟨_, herror, hfault⟩, hsilent⟩
  | _ =>
    right
    constructor
    · rintro ⟨_, ⟨⟩, -⟩
    · exact judged_silent rfl nofun

/-- An object that was read makes a record or is refused as bad, except in two cases: its keys are
texts and bytes mixed, or the message about it is to show a value that is nested too deep. Then the
failure is one of order or of depth. -/
theorem ofValue_refuses (e : Encoding) {data : Bytes} {objects : List Value}
    (hdecoded : e.decodeAll data = .ok objects) {v : Value} (hv : v ∈ objects) :
    ((∃ r, ofValue v = .ok r) ∨ Fails v .value ↔
      ¬MixesKeys v ∧ ∀ given, Shows v given → ¬given.tooDeep) ∧
    (Fails v .order ↔ MixesKeys v) ∧
    (Fails v .depth ↔ ∃ given, Shows v given ∧ given.tooDeep) := by
  rcases judged_ofValue (Encoding.keyed_of_decodeAll hdecoded hv) with
    ⟨hmixes, ⟨fault, hfault, hfailure⟩, hsilent⟩ | ⟨hmixes, hjudged⟩
  · simp [Fails, hfault, hfailure, hmixes, hsilent]
  · cases h : ofValue v with
    | ok r =>
      rw [h] at hjudged
      have hsilent : ∀ given, ¬Shows v given := hjudged
      simp [Fails, h, hmixes, hsilent]
    | error fault =>
      rw [h] at hjudged
      rcases hjudged with ⟨hfailure, hshown⟩ | ⟨hfailure, given, hgiven, hdepth⟩
      · simpa [Fails, h, hfailure, hmixes] using hshown
      · simpa [Fails, h, hfailure, hmixes] using ⟨given, hgiven, hdepth⟩

theorem ofValue_refuses_text_key :
    ∃ v, Encoding.decodeAll .msgpack [0x81, 0xA1, 0x61, 0x01] = .ok [v] ∧
      ((∃ r, ofValue v = .ok r) ∨ Fails v .value) := by
  have hdecoded : Encoding.decodeAll .msgpack [0x81, 0xA1, 0x61, 0x01] =
      .ok [.map [(.text "a", .int 1)]] := rfl
  refine ⟨_, hdecoded, (ofValue_refuses .msgpack hdecoded List.mem_cons_self).1.2 ⟨?_, ?_⟩⟩
  · rintro ⟨_, ⟨⟩, -, key, hkey, hbytes⟩
    rw [List.mem_singleton.1 hkey] at hbytes
    cases hbytes
  · intro given hshows
    cases hshows with
    | intro fields => cases fields.hasFields.length

/-- A map with a text and a byte string as keys is read, and is neither a record nor refused as bad. -/
theorem ofValue_fails_order :
    ∃ v, Encoding.decodeAll .msgpack [0x82, 0xA1, 0x61, 0x01, 0xC4, 0x01, 0x62, 0x02] = .ok [v] ∧
      ¬((∃ r, ofValue v = .ok r) ∨ Fails v .value) := by
  refine ⟨.map [(.text "a", .int 1), (.bytes [0x62], .int 2)], rfl, ?_⟩
  rintro (⟨r, h⟩ | ⟨fault, h, hfailure⟩)
  · cases h
  · cases h
    cases hfailure

end Record

end RecordStream
