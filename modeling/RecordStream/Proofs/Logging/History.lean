import RecordStream.Logging.Logger

/-!
What the history of a log tells of it: the level that the last setup set, and the setup that made
the handler in use. Setups that fail count for neither.
-/

namespace RecordStream

/-! What a setup asks for. -/

namespace Console.LevelChoice

/-- The level is the number that was given, or the name given is one of its names, whatever the
case of its letters. -/
def Means : LevelChoice → Int → Prop
  | .number n, level => level = n
  | .name given, level => (level, given.toUpper) ∈ Level.named ++ Level.aliases

private theorem find?_name : ∀ entry ∈ Level.named ++ Level.aliases,
    (Level.named ++ Level.aliases).find? (·.2 == entry.2) = some entry := by
  decide

theorem value_eq_ok_iff {c : LevelChoice} {level : Int} :
    c.value = .ok level ↔ c.Means level := by
  cases c with
  | number n => simp [value, Means, eq_comm]
  | name given =>
    rw [value, Means, Level.ofName]
    cases hfind : (Level.named ++ Level.aliases).find? (·.2 == given.toUpper) with
    | none =>
      refine iff_of_false (by simp) fun hmem => ?_
      rw [find?_name _ hmem] at hfind
      cases hfind
    | some entry =>
      have hmem := List.mem_of_find?_eq_some hfind
      have hname : entry.2 = given.toUpper := by simpa using List.find?_some hfind
      constructor
      · intro h
        cases h
        rw [← hname]
        exact hmem
      · intro h
        rw [find?_name _ h] at hfind
        cases hfind
        rfl

end Console.LevelChoice

namespace LogEvent

def Sets : LogEvent → Int → Prop
  | .setUp s _, level => s.level.Means level
  | .line _ _, _ => False

def Succeeds (e : LogEvent) : Prop := ∃ level, e.Sets level

def Replaces : LogEvent → Prop
  | .setUp s terminal => (LogEvent.setUp s terminal).Succeeds ∧ s.reconfigure
  | .line _ _ => False

theorem Replaces.succeeds {e : LogEvent} (h : e.Replaces) : e.Succeeds := by
  cases e with
  | setUp s terminal => exact h.1
  | line => cases h

theorem not_succeeds_line (x : LogLine) (moment : Moment) : ¬(line x moment).Succeeds := by
  rintro ⟨_, h⟩
  exact h

end LogEvent

/-! Histories. -/

section

variable {history : List LogEvent} {e : LogEvent} {s : Console.Setup} {terminal : Bool}
  {level : Int}

def Begun (history : List LogEvent) : Prop := ∃ e ∈ history, e.Succeeds

def LastSets (history : List LogEvent) (level : Int) : Prop :=
  ∃ front e back, history = front ++ e :: back ∧ e.Sets level ∧ ¬Begun back

/-- This setup made the handler that is in use: it was the first to succeed, or it asked for a new
handler, and none behind it did. -/
def InstalledBy (history : List LogEvent) (s : Console.Setup) (terminal : Bool) : Prop :=
  ∃ front back, history = front ++ .setUp s terminal :: back ∧
    (LogEvent.setUp s terminal).Succeeds ∧ (¬Begun front ∨ s.reconfigure) ∧
    ∀ e ∈ back, ¬e.Replaces

theorem begun_concat : Begun (history ++ [e]) ↔ Begun history ∨ e.Succeeds := by
  simp only [Begun, List.mem_append, List.mem_singleton, or_and_right, exists_or, exists_eq_left]

theorem LastSets.concat (h : e.Sets level) : LastSets (history ++ [e]) level := by
  refine ⟨history, e, [], rfl, h, ?_⟩
  rintro ⟨_, hmem, -⟩
  cases hmem

theorem LastSets.idle (h : LastSets history level) (he : ¬e.Succeeds) :
    LastSets (history ++ [e]) level := by
  obtain ⟨front, e', back, rfl, hsets, hback⟩ := h
  refine ⟨front, e', back ++ [e], List.append_assoc _ _ _, hsets, ?_⟩
  rw [begun_concat]
  exact not_or.2 ⟨hback, he⟩

theorem InstalledBy.concat (hs : (LogEvent.setUp s terminal).Succeeds)
    (h : ¬Begun history ∨ s.reconfigure) :
    InstalledBy (history ++ [.setUp s terminal]) s terminal :=
  ⟨history, [], rfl, hs, h, fun _ hmem => absurd hmem List.not_mem_nil⟩

theorem InstalledBy.keep (h : InstalledBy history s terminal) (he : ¬e.Replaces) :
    InstalledBy (history ++ [e]) s terminal := by
  obtain ⟨front, back, rfl, hs, hfront, hback⟩ := h
  refine ⟨front, back ++ [e], List.append_assoc _ _ _, hs, hfront, ?_⟩
  rw [List.forall_mem_append]
  exact ⟨hback, by simpa using he⟩

end

end RecordStream
