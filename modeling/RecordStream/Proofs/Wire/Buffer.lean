import Mathlib.Data.List.DropRight
import RecordStream.Proofs.Wire.Packing

/-!
A codec used over and over. What stands in its buffer follows from the history alone: the frames of
the records that were encoded since the buffer was last cleared. Packing returns all of that, so it
gives the frame of its record alone only if nothing stands in the buffer.
-/

namespace RecordStream

theorem MessagePack.frame_ne_nil {r : Record} {bytes : Bytes} (h : frame r = .ok bytes) :
    bytes ≠ [] := by
  obtain ⟨id, source, child, message, -, -, -, -, rfl⟩ := frame_eq_ok_iff.1 h
  exact List.cons_ne_nil _ _

theorem Json.frame_ne_nil {r : Record} {bytes : Bytes} (h : frame r = .ok bytes) :
    bytes ≠ [] := by
  obtain ⟨-, -, rfl⟩ := frame_eq_ok_iff.1 h
  exact List.append_ne_nil_of_right_ne_nil _ (List.cons_ne_nil _ _)

theorem Encoding.frame_ne_nil {e : Encoding} {r : Record} {bytes : Bytes}
    (h : e.frame r = .ok bytes) : bytes ≠ [] := by
  cases e with
  | msgpack => exact MessagePack.frame_ne_nil h
  | json => exact Json.frame_ne_nil h

namespace Codec

def alone (e : Encoding) (r : Record) : Except EncodeFault Bytes := (pack { encoding := e } r).1

theorem alone_eq (e : Encoding) (r : Record) : alone e r = e.frame r := by
  rw [alone, pack_new]

inductive Use
  | reset
  | encode (r : Record)
  | pack (r : Record)

inductive Event
  | reset
  | encoded (r : Record) (result : Except EncodeFault Bytes)
  | packed (r : Record) (result : Except EncodeFault Bytes)

def use (c : Codec) : Use → Event × Codec
  | .reset => (.reset, c.reset)
  | .encode r => (.encoded r (c.encode r).1, (c.encode r).2)
  | .pack r => (.packed r (c.pack r).1, (c.pack r).2)

def perform (c : Codec) : List Use → List Event × Codec
  | [] => ([], c)
  | u :: rest =>
    let (event, c) := c.use u
    let (events, c) := c.perform rest
    (event :: events, c)

namespace Event

/-- Is the buffer empty afterwards? A record that could not be packed clears it as well; one that
could not be encoded does in MessagePack only. -/
def clears (e : Encoding) : Event → Bool
  | .reset => true
  | .encoded _ (.ok _) => false
  | .encoded _ (.error _) => e = .msgpack
  | .packed _ _ => true

def entered? : Event → Option Record
  | .encoded r (.ok _) => some r
  | _ => none

end Event

/-- The records encoded since the buffer was last cleared, in order. -/
def standing (e : Encoding) (events : List Event) : List Record :=
  (events.rtakeWhile fun event => !event.clears e).filterMap Event.entered?

section

variable {e : Encoding} {events : List Event} {event : Event} {r : Record}

theorem standing_of_clears (h : event.clears e) : standing e (events ++ [event]) = [] := by
  rw [standing, List.rtakeWhile_concat_neg _ _ _ (by simp [h])]
  rfl

theorem standing_of_not_clears (h : event.clears e = false) :
    standing e (events ++ [event]) = standing e events ++ event.entered?.toList := by
  rw [standing, List.rtakeWhile_concat_pos _ _ _ (by simp [h]), List.filterMap_append, standing]
  rfl

end

/-! One use of a codec whatever stands in its buffer. -/

section

variable (c : Codec) {r : Record} {frame : Bytes} {fault : EncodeFault}

theorem encode_ok (h : alone c.encoding r = .ok frame) :
    c.encode r = (.ok (c.buffer ++ frame), { c with buffer := c.buffer ++ frame }) := by
  rw [alone_eq] at h
  rw [encode, h]

theorem encode_error (h : alone c.encoding r = .error fault) :
    c.encode r = (.error fault, if c.encoding = .msgpack then c.reset else c) := by
  rw [alone_eq] at h
  rw [encode, h]

theorem pack_ok (h : alone c.encoding r = .ok frame) :
    c.pack r = (.ok (c.buffer ++ frame), c.reset) := by
  rw [pack, encode_ok c h]
  rfl

theorem pack_error (h : alone c.encoding r = .error fault) :
    c.pack r = (.error fault, c.reset) := by
  rw [pack, encode_error c h]
  dsimp only
  split <;> rfl

end

structure Holds (e : Encoding) (events : List Event) (c : Codec) : Prop where
  encoding : c.encoding = e
  frames : ∃ frames, List.Forall₂ (fun r frame => alone e r = .ok frame) (standing e events) frames ∧
    c.buffer = frames.flatten

theorem holds_new (e : Encoding) : Holds e [] { encoding := e } := ⟨rfl, [], .nil, rfl⟩

section

variable {e : Encoding} {events : List Event} {event : Event} {c : Codec}

theorem Holds.cleared (h : Holds e events c) (hclears : event.clears e) :
    Holds e (events ++ [event]) c.reset := by
  refine ⟨h.encoding, [], ?_, rfl⟩
  rw [standing_of_clears hclears]
  exact .nil

theorem Holds.use (h : Holds e events c) (u : Use) :
    Holds e (events ++ [(c.use u).1]) (c.use u).2 := by
  obtain ⟨rfl, frames, hframes, hbuffer⟩ := id h
  cases u with
  | reset => exact h.cleared rfl
  | pack r =>
    cases halone : alone c.encoding r with
    | ok frame =>
      rw [Codec.use, pack_ok c halone]
      exact h.cleared rfl
    | error fault =>
      rw [Codec.use, pack_error c halone]
      exact h.cleared rfl
  | encode r =>
    cases halone : alone c.encoding r with
    | ok frame =>
      rw [Codec.use, encode_ok c halone]
      refine ⟨rfl, frames ++ [frame], ?_, ?_⟩
      · rw [standing_of_not_clears rfl]
        exact List.rel_append hframes (.cons halone .nil)
      · rw [hbuffer, List.flatten_append, List.flatten_singleton]
    | error fault =>
      rw [Codec.use, encode_error c halone]
      split_ifs with hencoding
      · exact h.cleared (by simp [Event.clears, hencoding])
      · refine ⟨rfl, frames, ?_, hbuffer⟩
        rw [standing_of_not_clears (by simp [Event.clears, hencoding])]
        simpa [Event.entered?] using hframes

theorem Holds.perform (h : Holds e events c) (uses : List Use) :
    Holds e (events ++ (c.perform uses).1) (c.perform uses).2 := by
  induction uses generalizing events c with
  | nil => simpa [Codec.perform] using h
  | cons u rest ih =>
    have hrest := ih (h.use u)
    rwa [List.append_assoc] at hrest

end

theorem holds_perform (e : Encoding) (uses : List Use) :
    Holds e (perform { encoding := e } uses).1 (perform { encoding := e } uses).2 := by
  simpa using (holds_new e).perform uses

/-- After any history the buffer is made of the frames of the records that stand in it, each as a
new codec packs it. The next record is encoded or packed exactly if a new codec packs it, and its
frame comes behind that buffer. If it cannot be, MessagePack clears the buffer and JSON leaves it as
it was; packing clears it in any case. -/
theorem perform_buffer (e : Encoding) (uses : List Use) :
    let (events, c) := perform { encoding := e } uses
    ∃ frames, List.Forall₂ (fun r frame => alone e r = .ok frame) (standing e events) frames ∧
      c.buffer = frames.flatten ∧ c.reset.buffer = [] ∧
      ∀ r, match alone e r with
        | .ok frame =>
          c.encode r = (.ok (frames.flatten ++ frame), { c with buffer := frames.flatten ++ frame }) ∧
            c.pack r = (.ok (frames.flatten ++ frame), { c with buffer := [] })
        | .error fault =>
          c.encode r = (.error fault,
              match e with
              | .msgpack => { c with buffer := [] }
              | .json => c) ∧
            c.pack r = (.error fault, { c with buffer := [] }) := by
  have hholds := holds_perform e uses
  generalize perform { encoding := e } uses = done at hholds
  obtain ⟨events, c⟩ := done
  obtain ⟨rfl, frames, hframes, hbuffer⟩ := hholds
  refine ⟨frames, hframes, hbuffer, rfl, ?_⟩
  intro r
  rw [← hbuffer]
  cases halone : alone c.encoding r with
  | ok frame => exact ⟨encode_ok c halone, pack_ok c halone⟩
  | error fault =>
    refine ⟨?_, pack_error c halone⟩
    rw [encode_error c halone]
    obtain ⟨encoding, buffer⟩ := c
    cases encoding <;> rfl

theorem Holds.buffer_eq_nil_iff {e : Encoding} {events : List Event} {c : Codec}
    (h : Holds e events c) : c.buffer = [] ↔ standing e events = [] := by
  obtain ⟨-, frames, hframes, hbuffer⟩ := h
  rw [hbuffer]
  generalize standing e events = rs at hframes
  cases hframes with
  | nil => exact iff_of_true rfl rfl
  | cons hframe _ =>
    rw [alone_eq] at hframe
    simp [Encoding.frame_ne_nil hframe]

/-- A record is packed as by a new codec exactly if no record stands in the buffer; whatever stands
there comes in front. -/
theorem pack_reused (e : Encoding) (uses : List Use) {r : Record} {frame : Bytes}
    (h : alone e r = .ok frame) :
    let (events, c) := perform { encoding := e } uses
    ((c.pack r).1 = alone e r ↔ standing e events = []) ∧
      ∃ frames, List.Forall₂ (fun r frame => alone e r = .ok frame) (standing e events) frames ∧
        (c.pack r).1 = .ok (frames.flatten ++ frame) := by
  have hholds := holds_perform e uses
  generalize perform { encoding := e } uses = done at hholds
  obtain ⟨events, c⟩ := done
  have hnil := hholds.buffer_eq_nil_iff
  obtain ⟨rfl, frames, hframes, hbuffer⟩ := hholds
  dsimp only
  rw [h, pack_ok c h]
  constructor
  · rw [Except.ok.injEq, List.append_left_eq_self]
    exact hnil
  · exact ⟨frames, hframes, by rw [hbuffer]⟩

theorem pack_reused_cleared :
    let first : Record := { message := "a" }
    let surrogate : Record := { message := [⟨0xD800, by decide⟩] }
    (((perform { encoding := .msgpack } [.encode first, .encode surrogate]).2).pack first).1 =
      alone .msgpack first := by
  intro first surrogate
  obtain ⟨frame, hframe⟩ : ∃ frame, alone .msgpack first = .ok frame := ⟨_, rfl⟩
  exact (pack_reused .msgpack [.encode first, .encode surrogate] hframe).1.2 rfl

/-- What was encoded before and not reset comes back with the record that is packed. -/
theorem pack_depends_on_history :
    ¬∀ (e : Encoding) (uses : List Use) (r : Record), (∃ frame, alone e r = .ok frame) →
      ((perform { encoding := e } uses).2.pack r).1 = alone e r := by
  intro h
  have htwice := h .msgpack [.encode { message := "" }] { message := "" } ⟨_, rfl⟩
  revert htwice
  decide

end Codec

end RecordStream
