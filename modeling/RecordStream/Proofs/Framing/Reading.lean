import Mathlib.Data.List.Forall2
import RecordStream.Proofs.Framing.Course

/-!
Equations of readings. A reading of some or all objects is described byte by byte, without the
bound on the objects that the definition carries. Reading a few objects, feeding more bytes and
reading on gives what one reading of all the bytes gives.
-/

namespace RecordStream.Decoder

variable {f : Framing}

def Taken.after (objects : List Value) (t : Taken f) : Taken f :=
  { t with objects := objects ++ t.objects }

@[simp] theorem Taken.after_objects (objects : List Value) (t : Taken f) :
    (t.after objects).objects = objects ++ t.objects := rfl

@[simp] theorem Taken.after_fault (objects : List Value) (t : Taken f) :
    (t.after objects).fault = t.fault := rfl

@[simp] theorem Taken.after_decoder (objects : List Value) (t : Taken f) :
    (t.after objects).decoder = t.decoder := rfl

@[simp] theorem Taken.after_nil (t : Taken f) : t.after [] = t := rfl

@[simp] theorem Taken.after_after (front back : List Value) (t : Taken f) :
    (t.after back).after front = t.after (front ++ back) := by
  simp [Taken.after]

private theorem scan_found (limit : Nat) (s : f.State) (unfinished consumed : Nat)
    (found : List Value) (bytes : Bytes) :
    scan limit s unfinished consumed found bytes =
      (scan limit s unfinished consumed [] bytes).after found.reverse := by
  induction bytes generalizing limit s unfinished consumed found with
  | nil => simp [scan, Taken.after]
  | cons b rest ih =>
    cases limit with
    | zero => simp [scan, Taken.after]
    | succ limit =>
      unfold scan
      cases f.step s b with
      | more next => exact ih ..
      | object v =>
        dsimp only
        rw [ih limit _ _ _ (v :: found), ih limit _ _ _ [v]]
        simp
      | blank => exact ih ..
      | refused fault => simp [Taken.after]
      | broken fault => simp [Taken.after]

private theorem scan_limit (limit limit' : Nat) (s : f.State) (unfinished consumed : Nat)
    (found : List Value) (bytes : Bytes) (h : bytes.length ≤ limit) (h' : bytes.length ≤ limit') :
    scan limit s unfinished consumed found bytes =
      scan limit' s unfinished consumed found bytes := by
  induction bytes generalizing limit limit' s unfinished consumed found with
  | nil => simp [scan]
  | cons b rest ih =>
    rw [List.length_cons] at h h'
    obtain ⟨limit, rfl⟩ := Nat.exists_eq_succ_of_ne_zero (n := limit) (by omega)
    obtain ⟨limit', rfl⟩ := Nat.exists_eq_succ_of_ne_zero (n := limit') (by omega)
    unfold scan
    cases f.step s b with
    | more next => exact ih _ _ _ _ _ _ (by omega) (by omega)
    | object v => exact ih _ _ _ _ _ _ (by omega) (by omega)
    | blank => exact ih _ _ _ _ _ _ (by omega) (by omega)
    | refused fault => rfl
    | broken fault => rfl

/-! Taking some objects, byte by byte. -/

@[simp] theorem take_zero (d : Decoder f) : d.take 0 = ⟨[], none, d⟩ := by
  obtain ⟨s, unfinished, consumed, unread⟩ := d
  cases unread <;> rfl

@[simp] theorem take_nil (limit : Nat) (s : f.State) (unfinished consumed : Nat) :
    take limit ⟨s, unfinished, consumed, []⟩ = ⟨[], none, ⟨s, unfinished, consumed, []⟩⟩ := by
  cases limit <;> rfl

theorem take_cons (limit : Nat) (s : f.State) (unfinished consumed : Nat) (b : UInt8)
    (rest : Bytes) :
    take (limit + 1) ⟨s, unfinished, consumed, b :: rest⟩ =
      match f.step s b with
      | .more next => take (limit + 1) ⟨next, unfinished + 1, consumed, rest⟩
      | .object v => (take limit ⟨f.start, 0, consumed + unfinished + 1, rest⟩).after [v]
      | .blank => take (limit + 1) ⟨f.start, 0, consumed + unfinished + 1, rest⟩
      | .refused fault =>
        ⟨[], some fault, ⟨f.start, 0, consumed + unfinished + 1, rest⟩⟩
      | .broken fault => ⟨[], some fault, ⟨s, unfinished, consumed, b :: rest⟩⟩ := by
  unfold take
  rw [scan]
  cases f.step s b with
  | object v => exact scan_found ..
  | _ => rfl

/-! Draining, byte by byte. -/

@[simp] theorem drain_nil (s : f.State) (unfinished consumed : Nat) :
    drain ⟨s, unfinished, consumed, []⟩ = ⟨[], none, ⟨s, unfinished, consumed, []⟩⟩ := rfl

theorem drain_eq_take (d : Decoder f) (limit : Nat) (h : d.unread.length ≤ limit) :
    d.drain = d.take limit :=
  scan_limit _ _ _ _ _ _ _ (Nat.le_refl _) h

theorem drain_cons (s : f.State) (unfinished consumed : Nat) (b : UInt8) (rest : Bytes) :
    drain ⟨s, unfinished, consumed, b :: rest⟩ =
      match f.step s b with
      | .more next => drain ⟨next, unfinished + 1, consumed, rest⟩
      | .object v => (drain ⟨f.start, 0, consumed + unfinished + 1, rest⟩).after [v]
      | .blank => drain ⟨f.start, 0, consumed + unfinished + 1, rest⟩
      | .refused fault =>
        ⟨[], some fault, ⟨f.start, 0, consumed + unfinished + 1, rest⟩⟩
      | .broken fault => ⟨[], some fault, ⟨s, unfinished, consumed, b :: rest⟩⟩ := by
  rw [drain_eq_take _ (rest.length + 1) (by simp), take_cons]
  cases f.step s b with
  | more next => exact (drain_eq_take _ _ (by simp)).symm
  | object v => rfl
  | blank => exact (drain_eq_take _ _ (by simp)).symm
  | _ => rfl

theorem unread_of_drain (d : Decoder f) (h : d.drain.fault = none) :
    d.drain.decoder.unread = [] := by
  obtain ⟨s, unfinished, consumed, unread⟩ := d
  induction unread generalizing s unfinished consumed with
  | nil => rfl
  | cons b rest ih =>
    rw [drain_cons] at h ⊢
    cases hb : f.step s b <;> simp_all

/-! Bytes of a frame. -/

theorem drain_open {s s' : f.State} {front : Bytes} (h : f.course s front = some (.more s'))
    (unfinished consumed : Nat) (rest : Bytes) :
    drain ⟨s, unfinished, consumed, front ++ rest⟩ =
      drain ⟨s', unfinished + front.length, consumed, rest⟩ := by
  induction front generalizing s unfinished with
  | nil =>
    cases h
    rfl
  | cons b front ih =>
    rw [List.cons_append, drain_cons]
    cases hb : f.step s b with
    | more next =>
      simp only [Framing.course, hb] at h ⊢
      rw [ih h, List.length_cons, Nat.add_right_comm, Nat.add_assoc]
    | _ => simp [Framing.course, hb] at h

theorem drain_object {s : f.State} {back : Bytes} {v : Value}
    (h : f.course s back = some (.object v)) (unfinished consumed : Nat) (rest : Bytes) :
    drain ⟨s, unfinished, consumed, back ++ rest⟩ =
      (drain ⟨f.start, 0, consumed + unfinished + back.length, rest⟩).after [v] := by
  induction back generalizing s unfinished with
  | nil => simp at h
  | cons b back ih =>
    rw [List.cons_append, drain_cons]
    cases hb : f.step s b with
    | more next =>
      simp only [Framing.course, hb] at h ⊢
      rw [ih h, List.length_cons]
      congr 3
      omega
    | object v' =>
      simp only [Framing.course, hb, Option.ite_none_right_eq_some, List.isEmpty_iff] at h
      obtain ⟨rfl, h⟩ := h
      cases h
      rfl
    | _ => simp [Framing.course, hb] at h

theorem drain_frames {frames : List Bytes} {objects : List Value}
    (h : List.Forall₂ f.Whole frames objects) (consumed : Nat) (rest : Bytes) :
    drain ⟨f.start, 0, consumed, frames.flatten ++ rest⟩ =
      (drain ⟨f.start, 0, consumed + frames.flatten.length, rest⟩).after objects := by
  induction h generalizing consumed with
  | nil => rfl
  | cons hframe _ ih =>
    rw [List.flatten_cons, List.append_assoc, drain_object hframe, ih, Taken.after_after,
      List.length_append]
    simp [Nat.add_assoc]

theorem drain_frames_open {frames : List Bytes} {objects : List Value} {front : Bytes}
    {s : f.State} (h : List.Forall₂ f.Whole frames objects)
    (hfront : f.course f.start front = some (.more s)) :
    ((new f).feed (frames.flatten ++ front)).drain =
      ⟨objects, none, ⟨s, front.length, frames.flatten.length, []⟩⟩ := by
  have hfed : (new f).feed (frames.flatten ++ front) =
      ⟨f.start, 0, 0, frames.flatten ++ front⟩ := rfl
  rw [hfed, drain_frames h, ← List.append_nil front, drain_open hfront]
  simp [Taken.after]

/-! Readings in a row. -/

@[simp] theorem feed_nil (d : Decoder f) : d.feed [] = d := by
  simp [feed]

@[simp] theorem feed_feed (d : Decoder f) (front back : Bytes) :
    (d.feed front).feed back = d.feed (front ++ back) := by
  simp [feed]

@[simp] theorem consumed_feed (d : Decoder f) (bytes : Bytes) :
    (d.feed bytes).consumed = d.consumed := rfl

/-- Nothing is lost or read twice by taking some objects first: if they come without a fault, the
rest of the reading follows them, and otherwise the fault ends it. -/
theorem drain_feed (d : Decoder f) (limit : Nat) (bytes : Bytes) :
    (d.feed bytes).drain =
      match (d.take limit).fault with
      | none => (((d.take limit).decoder.feed bytes).drain).after (d.take limit).objects
      | some fault => ⟨(d.take limit).objects, some fault, (d.take limit).decoder.feed bytes⟩ := by
  obtain ⟨s, unfinished, consumed, unread⟩ := d
  induction unread generalizing limit s unfinished consumed with
  | nil => simp
  | cons b rest ih =>
    cases limit with
    | zero => simp
    | succ limit =>
      have hfed : feed ⟨s, unfinished, consumed, b :: rest⟩ bytes =
          ⟨s, unfinished, consumed, b :: (rest ++ bytes)⟩ := rfl
      rw [hfed, drain_cons, take_cons]
      cases f.step s b with
      | more next => exact ih ..
      | object v =>
        have h := ih limit f.start 0 (consumed + unfinished + 1)
        simp only [feed] at h
        simp only [h, Taken.after_fault, Taken.after_objects, Taken.after_decoder, feed]
        cases (take limit ⟨f.start, 0, consumed + unfinished + 1, rest⟩).fault with
        | none => simp
        | some fault => simp [Taken.after]
      | blank => exact ih ..
      | refused fault => rfl
      | broken fault => rfl

theorem drain_feed_drain (d : Decoder f) (bytes : Bytes) :
    (d.feed bytes).drain =
      match d.drain.fault with
      | none => ((d.drain.decoder.feed bytes).drain).after d.drain.objects
      | some fault => ⟨d.drain.objects, some fault, d.drain.decoder.feed bytes⟩ :=
  drain_feed d d.unread.length bytes

/-! Chunks. -/

/-- Two readings give the same objects and the same fault behind as many bytes, and without a fault
they leave the same decoder. -/
structure Taken.Agrees (t t' : Taken f) : Prop where
  objects : t.objects = t'.objects
  fault : t.fault = t'.fault
  consumed : t.decoder.consumed = t'.decoder.consumed
  decoder : t'.fault = none → t.decoder = t'.decoder

private theorem drainOnto_agrees (found : List Value) {d : Decoder f} (chunks : List Bytes)
    (hunread : d.unread = []) :
    (drainOnto found d chunks).Agrees ((d.feed chunks.flatten).drain.after found.reverse) := by
  induction chunks generalizing found d with
  | nil =>
    obtain ⟨s, unfinished, consumed, unread⟩ := d
    cases hunread
    constructor <;> simp [drainOnto]
  | cons chunk rest ih =>
    rw [List.flatten_cons, ← feed_feed, drain_feed_drain, drainOnto]
    cases hfault : (d.feed chunk).drain.fault with
    | some fault => constructor <;> simp
    | none =>
      have hrest := ih ((d.feed chunk).drain.objects.reverse ++ found) (unread_of_drain _ hfault)
      simpa using hrest

theorem drainChunks_agrees {d : Decoder f} (hunread : d.unread = []) (chunks : List Bytes) :
    (d.drainChunks chunks).Agrees (d.feed chunks.flatten).drain :=
  drainOnto_agrees [] chunks hunread

end RecordStream.Decoder
