import RecordStream.Proofs.Framing.Reading

/-!
Schedules: bytes are fed, some objects are taken, the decoder is drained, in any order. Up to the
first fault only the bytes fed matter, and the decoder always stands behind the whole frames of
the objects it gave, inside the frame that follows them.
-/

namespace RecordStream

def Progress.isDense {State Fault : Type} : Progress State Fault → Bool
  | .blank | .refused _ => false
  | .more _ | .object _ | .broken _ => true

section

variable {State Fault : Type}

@[simp] theorem Progress.isDense_more (s : State) :
    (Progress.more s : Progress State Fault).isDense := rfl

@[simp] theorem Progress.isDense_object (v : Value) :
    (Progress.object v : Progress State Fault).isDense := rfl

@[simp] theorem Progress.isDense_broken (fault : Fault) :
    (Progress.broken fault : Progress State Fault).isDense := rfl

end

/-- A framing in which every complete frame is an object. -/
def Framing.Dense (f : Framing) : Prop :=
  ∀ s b, (f.step s b).isDense

namespace Decoder

variable {f : Framing}

/-- One use of a decoder. An iteration may be left before its end. -/
inductive Use
  | feed (chunk : Bytes)
  | take (limit : Nat)
  | drain

def Use.chunk : Use → Bytes
  | .feed chunk => chunk
  | .take _ | .drain => []

def Use.fed (uses : List Use) : Bytes := uses.flatMap Use.chunk

def use (d : Decoder f) : Use → Taken f
  | .feed chunk => ⟨[], none, d.feed chunk⟩
  | .take limit => d.take limit
  | .drain => d.drain

/-- Carries out a schedule up to the first fault. -/
def perform (d : Decoder f) : List Use → Taken f
  | [] => ⟨[], none, d⟩
  | u :: rest =>
    let t := d.use u
    match t.fault with
    | none => (perform t.decoder rest).after t.objects
    | some _ => t

inductive Outcome (f : Framing)
  | object (v : Value)
  | fault (fault : f.Fault)

def Taken.outcomes (t : Taken f) : List (Outcome f) :=
  t.objects.map .object ++ t.fault.toList.map .fault

@[simp] theorem Taken.outcomes_mk (objects : List Value) (fault : Option f.Fault)
    (d : Decoder f) :
    (⟨objects, fault, d⟩ : Taken f).outcomes =
      objects.map .object ++ fault.toList.map .fault := rfl

@[simp] theorem Taken.after_outcomes (objects : List Value) (t : Taken f) :
    (t.after objects).outcomes = objects.map .object ++ t.outcomes := by
  simp [Taken.outcomes]

/-- Carries out a schedule to its end. After a fault the next use goes on behind it. -/
def resume (d : Decoder f) : List Use → List (Outcome f) × Decoder f
  | [] => ([], d)
  | u :: rest =>
    let t := d.use u
    let r := resume t.decoder rest
    (t.outcomes ++ r.1, r.2)

@[simp] theorem Use.fed_cons (u : Use) (uses : List Use) :
    Use.fed (u :: uses) = u.chunk ++ Use.fed uses := by
  simp [Use.fed]

@[simp] theorem Use.fed_append (front back : List Use) :
    Use.fed (front ++ back) = Use.fed front ++ Use.fed back := by
  simp [Use.fed]

theorem drain_use (d : Decoder f) (u : Use) (bytes : Bytes) :
    (d.feed (u.chunk ++ bytes)).drain =
      match (d.use u).fault with
      | none => (((d.use u).decoder.feed bytes).drain).after (d.use u).objects
      | some fault => ⟨(d.use u).objects, some fault, (d.use u).decoder.feed bytes⟩ := by
  cases u with
  | feed chunk => simp [use, Use.chunk]
  | take limit => exact drain_feed d limit bytes
  | drain => exact drain_feed_drain d bytes

theorem drain_perform (d : Decoder f) (uses : List Use) (bytes : Bytes) :
    match (d.perform uses).fault with
    | none => (d.feed (Use.fed uses ++ bytes)).drain =
        (((d.perform uses).decoder.feed bytes).drain).after (d.perform uses).objects
    | some fault => ∃ left, (d.feed (Use.fed uses ++ bytes)).drain =
        ⟨(d.perform uses).objects, some fault, (d.perform uses).decoder.feed left⟩ := by
  induction uses generalizing d with
  | nil => simp [perform, Use.fed]
  | cons u rest ih =>
    have hu := drain_use d u (Use.fed rest ++ bytes)
    simp only [perform, Use.fed_cons, List.append_assoc]
    cases hfault : (d.use u).fault with
    | some fault =>
      rw [hfault] at hu
      simp only [hfault]
      exact ⟨_, hu⟩
    | none =>
      rw [hfault] at hu
      have hrest := ih (d.use u).decoder
      simp only [Taken.after_fault, Taken.after_objects, Taken.after_decoder]
      cases hlater : ((d.use u).decoder.perform rest).fault with
      | none =>
        rw [hlater] at hrest
        simp only [hu, hrest, Taken.after_after]
      | some fault =>
        rw [hlater] at hrest
        obtain ⟨left, hleft⟩ := hrest
        exact ⟨left, by simp [hu, hleft, Taken.after]⟩

theorem perform_append (d : Decoder f) (front back : List Use) :
    d.perform (front ++ back) =
      match (d.perform front).fault with
      | none => ((d.perform front).decoder.perform back).after (d.perform front).objects
      | some _ => d.perform front := by
  induction front generalizing d with
  | nil => simp [perform]
  | cons u rest ih =>
    simp only [List.cons_append, perform]
    cases hfault : (d.use u).fault with
    | some fault => simp [hfault]
    | none =>
      simp only [ih, Taken.after_fault, Taken.after_objects, Taken.after_decoder]
      cases ((d.use u).decoder.perform rest).fault <;> simp

theorem perform_drain (uses : List Use) :
    let t := (new f).perform (uses ++ [.drain])
    let whole := ((new f).feed (Use.fed uses)).drain
    t.objects = whole.objects ∧ t.fault = whole.fault ∧
      t.decoder.consumed = whole.decoder.consumed ∧
      (t.fault = none → t.decoder = whole.decoder) := by
  have h := drain_perform (new f) uses []
  simp only [perform_append, List.append_nil, feed_nil] at h ⊢
  cases hfault : ((new f).perform uses).fault with
  | none =>
    rw [hfault] at h
    have hlast : ((new f).perform uses).decoder.perform [.drain] =
        ((new f).perform uses).decoder.drain := by
      simp only [perform, use]
      cases hdrain : ((new f).perform uses).decoder.drain with
      | mk objects fault d =>
        cases fault <;> simp [Taken.after]
    simp [h, hlast]
  | some fault =>
    rw [hfault] at h
    obtain ⟨left, h⟩ := h
    simp [h, hfault]

theorem resume_append (d : Decoder f) (front back : List Use) :
    d.resume (front ++ back) =
      ((d.resume front).1 ++ ((d.resume front).2.resume back).1,
        ((d.resume front).2.resume back).2) := by
  induction front generalizing d with
  | nil => rfl
  | cons u rest ih => simp [resume, ih]

/-! Where a decoder stands. -/

/-- The decoder stands behind whole frames, inside the frame that begins with `front`. -/
structure Stands (d : Decoder f) (frames : List Bytes) (front : Bytes) : Prop where
  state : f.course f.start front = some (.more d.state)
  unfinished : d.unfinished = front.length
  consumed : d.consumed = frames.flatten.length

theorem stands_new : (new f).Stands [] [] := ⟨rfl, rfl, rfl⟩

theorem Stands.feed {d : Decoder f} {frames : List Bytes} {front : Bytes}
    (h : d.Stands frames front) (chunk : Bytes) : (d.feed chunk).Stands frames front :=
  ⟨h.state, h.unfinished, h.consumed⟩

section

variable {s : f.State} {unfinished consumed : Nat} {b : UInt8} {rest : Bytes}
  {frames : List Bytes} {front : Bytes}

private theorem Stands.more {next : f.State}
    (h : Stands ⟨s, unfinished, consumed, b :: rest⟩ frames front) (hb : f.step s b = .more next) :
    Stands ⟨next, unfinished + 1, consumed, rest⟩ frames (front ++ [b]) where
  state := by
    rw [Framing.course_append [b] h.state, Framing.course_singleton, hb]
  unfinished := by
    simp [← h.unfinished]
  consumed := h.consumed

private theorem Stands.whole {v : Value}
    (h : Stands ⟨s, unfinished, consumed, b :: rest⟩ frames front) (hb : f.step s b = .object v) :
    f.Whole (front ++ [b]) v := by
  rw [Framing.Whole, Framing.course_append [b] h.state, Framing.course_singleton, hb]

private theorem Stands.object (h : Stands ⟨s, unfinished, consumed, b :: rest⟩ frames front) :
    Stands (⟨f.start, 0, consumed + unfinished + 1, rest⟩ : Decoder f)
      (frames ++ [front ++ [b]]) [] where
  state := rfl
  unfinished := rfl
  consumed := by
    have hconsumed := h.consumed
    have hunfinished := h.unfinished
    dsimp only at hconsumed hunfinished
    simp [hconsumed, hunfinished, Nat.add_assoc]

end

def Reached (d : Decoder f) (fed : Bytes) (objects : List Value) : Prop :=
  ∃ frames front, List.Forall₂ f.Whole frames objects ∧ d.Stands frames front ∧
    fed = frames.flatten ++ (front ++ d.unread)

theorem reached_new : (new f).Reached [] [] :=
  ⟨[], [], .nil, stands_new, rfl⟩

theorem Reached.feed {d : Decoder f} {fed : Bytes} {objects : List Value}
    (h : d.Reached fed objects) (chunk : Bytes) : (d.feed chunk).Reached (fed ++ chunk) objects := by
  obtain ⟨frames, front, hframes, hd, rfl⟩ := h
  exact ⟨frames, front, hframes, hd.feed chunk, by simp [Decoder.feed]⟩

theorem Reached.take (hf : f.Dense) {d : Decoder f} {fed : Bytes} {objects : List Value}
    (h : d.Reached fed objects) (limit : Nat) :
    (d.take limit).decoder.Reached fed (objects ++ (d.take limit).objects) := by
  obtain ⟨s, unfinished, consumed, unread⟩ := d
  induction unread generalizing limit s unfinished consumed objects with
  | nil => simpa using h
  | cons b rest ih =>
    cases limit with
    | zero => simpa using h
    | succ limit =>
      obtain ⟨frames, front, hframes, hd, rfl⟩ := h
      rw [take_cons]
      cases hb : f.step s b with
      | more next =>
        exact ih (limit + 1) _ _ _ ⟨frames, front ++ [b], hframes, hd.more hb, by simp⟩
      | object v =>
        have hbehind : Reached ⟨f.start, 0, consumed + unfinished + 1, rest⟩
            (frames.flatten ++ (front ++ b :: rest)) (objects ++ [v]) :=
          ⟨frames ++ [front ++ [b]], [], List.rel_append hframes (.cons (hd.whole hb) .nil),
            hd.object, by simp⟩
        simpa using ih limit _ _ _ hbehind
      | blank => simpa [hb, Progress.isDense] using hf s b
      | refused fault => simpa [hb, Progress.isDense] using hf s b
      | broken fault => exact ⟨frames, front, by simpa using hframes, hd, rfl⟩

theorem Reached.use (hf : f.Dense) {d : Decoder f} {fed : Bytes} {objects : List Value}
    (h : d.Reached fed objects) (u : Use) :
    (d.use u).decoder.Reached (fed ++ u.chunk) (objects ++ (d.use u).objects) := by
  cases u with
  | feed chunk => simpa [Decoder.use, Use.chunk] using h.feed chunk
  | take limit => simpa [Decoder.use, Use.chunk] using h.take hf limit
  | drain => simpa [Decoder.use, Decoder.drain, Use.chunk] using h.take hf d.unread.length

theorem Reached.perform (hf : f.Dense) {d : Decoder f} {fed : Bytes} {objects : List Value}
    (h : d.Reached fed objects) (uses : List Use) :
    ∃ left, (d.perform uses).decoder.Reached (fed ++ (Use.fed uses).take left)
        (objects ++ (d.perform uses).objects) ∧
      ((d.perform uses).fault = none → (Use.fed uses).length ≤ left) := by
  induction uses generalizing d fed objects with
  | nil => exact ⟨0, by simpa [Decoder.perform, Use.fed] using h, by simp [Use.fed]⟩
  | cons u rest ih =>
    have hu := h.use hf u
    simp only [Decoder.perform, Use.fed_cons]
    cases hfault : (d.use u).fault with
    | some fault =>
      refine ⟨u.chunk.length, by simpa using hu, by simp [hfault]⟩
    | none =>
      obtain ⟨left, hrest, hall⟩ := ih hu
      refine ⟨u.chunk.length + left, ?_, fun hnone => ?_⟩
      · simpa [List.take_length_add_append] using hrest
      · have := hall (by simpa using hnone)
        simpa using this

end Decoder

end RecordStream
