import Mathlib.Tactic.SplitIfs
import RecordStream.Wire.MessagePack.Reader

/-!
What a byte of MessagePack can do to the containers around it. There are five things, and what holds
of each of them holds of every step of the reader.
-/

namespace RecordStream.MessagePack

theorem kind_of_extOf {bytes : Bytes} {v : Value} (h : extOf bytes = .ok v) :
    v.kind = .ext ∨ v.kind = .timestamp := by
  have htimestamp {seconds : Int} {nanoseconds : Nat} (h : timestamp seconds nanoseconds = .ok v) :
      v.kind = .timestamp := by
    unfold timestamp at h
    split at h
    · cases h
      rfl
    · cases h
  unfold extOf at h
  split at h
  · cases h
  split at h
  · cases h
  split at h
  · right
    unfold timestampOf at h
    split at h
    · exact htimestamp h
    · exact htimestamp h
    · exact htimestamp h
    · cases h
  split at h
  · cases h
  · cases h
    exact .inl rfl

/-- What a byte can do to the open containers: it leaves them as they are, opens a list or a map, brings
a value into the innermost one, which is empty if it is a map, or breaks the reading off. -/
inductive Moves (outer : List Container) : Step → Prop
  | stays (token : Token) : Moves outer (.more ⟨outer, token⟩)
  | opensList (count : Nat) : Moves outer (.more ⟨.list count [] :: outer, .head⟩)
  | opensMap (count : Nat) : Moves outer (.more ⟨.map count [] none :: outer, .head⟩)
  | brings {v : Value} (bare : ∀ entries, v = .map entries → entries = []) :
    Moves outer (deliver outer v)
  | breaks (fault : Fault) : Moves outer (.broken fault)

section

variable (outer : List Container)

theorem moves_openList (count : Nat) : Moves outer (openList outer count) := by
  unfold openList
  split_ifs
  · exact .breaks _
  · exact .breaks _
  · exact .brings nofun
  · exact .opensList count

theorem moves_openMap (count : Nat) : Moves outer (openMap outer count) := by
  unfold openMap
  split_ifs
  · exact .breaks _
  · exact .breaks _
  · apply Moves.brings
    rintro entries ⟨⟩
    rfl
  · exact .opensMap count

theorem moves_finish (p : Payload) (bytes : Bytes) :
    Moves outer (finish outer (valueOfPayload p bytes)) := by
  cases h : valueOfPayload p bytes with
  | error fault => exact .breaks fault
  | ok v =>
    apply Moves.brings
    rintro entries rfl
    unfold valueOfPayload at h
    split at h
    · split at h <;> cases h
    · cases h
    · rcases kind_of_extOf h with hkind | hkind <;> cases hkind

theorem moves_startPayload (p : Payload) (length : Nat) :
    Moves outer (startPayload outer p length) := by
  unfold startPayload
  split_ifs
  · exact moves_finish outer p []
  · exact .stays _

theorem moves_finishField (f : Field) (n : Nat) : Moves outer (finishField outer f n) := by
  cases f with
  | natural | signed _ | single | double => exact .brings nofun
  | textLength | bytesLength | extLength => exact moves_startPayload outer _ _
  | itemCount => exact moves_openList outer n
  | entryCount => exact moves_openMap outer n

theorem moves_onHead (b : UInt8) : Moves outer (onHead outer b) := by
  unfold onHead
  dsimp only
  split_ifs
  · exact .brings nofun
  · exact moves_openMap outer _
  · exact moves_openList outer _
  · exact moves_startPayload outer _ _
  · exact .brings nofun
  · split
    all_goals first
      | exact .brings nofun
      | exact .stays _
      | exact moves_startPayload outer _ _
      | exact .breaks _

end

theorem moves_step (s : Partial) (b : UInt8) : Moves s.containers (step s b) := by
  unfold step
  split
  · exact moves_onHead _ b
  · dsimp only
    split_ifs
    · exact moves_finishField _ _ _
    · exact .stays _
  · split_ifs
    · exact moves_finish _ _ _
    · exact .stays _

end RecordStream.MessagePack
