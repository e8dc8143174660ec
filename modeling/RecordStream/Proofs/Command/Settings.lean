import RecordStream.Proofs.Command.Parse

/-! What the base settings come to: the encoding, the console, and the log levels to choose from. -/

namespace RecordStream.Command

namespace BaseSettings

variable {s : BaseSettings} {around : Surroundings}

theorem chosenEncoding_of_value {e : Encoding} (h : s.encoding = .value e) :
    s.chosenEncoding = .ok e := by
  rw [chosenEncoding, h]

theorem chosenEncoding_of_blank (h : s.encoding = .blank) : s.chosenEncoding = .error .encoding := by
  rw [chosenEncoding, h]

theorem chosenEncoding_eq_ok_iff {e : Encoding} :
    s.chosenEncoding = .ok e ↔ s.encoding = .value e := by
  cases h : s.encoding with
  | value e' => simp [chosenEncoding_of_value h]
  | blank => simp [chosenEncoding_of_blank h]

theorem console_of_value {level : Int} (h : s.level = .value level) :
    s.console around = .ok { level, handler := some ⟨0, s.color && around.terminal⟩ } := by
  rw [console, h]
  rfl

theorem console_of_blank (h : s.level = .blank) : s.console around = .error .level := by
  rw [console, h]

theorem console_eq_ok_iff {c : Console} :
    s.console around = .ok c ↔
      s.level = .value c.level ∧ c.handler = some ⟨0, s.color && around.terminal⟩ := by
  cases h : s.level with
  | value level =>
    obtain ⟨level', handler⟩ := c
    simp [console_of_value h, eq_comm]
  | blank => simp [console_of_blank h]

end BaseSettings

def levels : List Int :=
  [Level.debug, Level.info, Level.warning, Level.error, Level.critical]

theorem map_ofName_levelNames : levelNames.map Level.ofName = levels.map .ok := rfl

theorem mem_levels_of_chooseLevel {given : Text} {level : Int} (h : chooseLevel given = .ok level) :
    level ∈ levels := by
  unfold chooseLevel choose at h
  by_cases hname : levelNames.contains given.toUpper
  · rw [if_pos hname] at h
    have hmem : Level.ofName given.toUpper ∈ levels.map .ok := by
      rw [← map_ofName_levelNames]
      exact List.mem_map_of_mem (List.contains_iff_mem.1 hname)
    obtain ⟨level', hlevel', heq⟩ := List.mem_map.1 hmem
    simp only [← heq] at h
    cases h
    exact hlevel'
  · rw [if_neg hname] at h
    cases h

def BaseSettings.Named (s : BaseSettings) : Prop := ∀ level, s.level = .value level → level ∈ levels

theorem BaseSettings.named_default : ({} : BaseSettings).Named := by
  intro level h
  cases h
  decide

variable {Settings : Type} {get : Settings → BaseSettings}
  {put : Settings → BaseSettings → Settings}

theorem keeps_baseRules_of_put {P : Settings → Prop} (hput : ∀ s b, P s → P (put s b)) :
    ∀ o ∈ baseRules get put, o.Keeps P := by
  simp only [baseRules, List.forall_mem_cons, OptionRule.Keeps]
  refine ⟨?_, ?_, fun s hs => hput s _ hs, by simp⟩
  all_goals
    intro s given s' hs h
    obtain ⟨chosen, -, rfl⟩ := exists_of_map h
    exact hput s _ hs

theorem keeps_baseRules (hget : ∀ s b, get (put s b) = b) :
    ∀ o ∈ baseRules get put, o.Keeps fun s => (get s).Named := by
  simp only [baseRules, List.forall_mem_cons, OptionRule.Keeps]
  refine ⟨?_, ?_, ?_, by simp⟩
  · intro s given s' hs h
    obtain ⟨encoding, -, rfl⟩ := exists_of_map h
    intro level hlevel
    rw [hget] at hlevel
    exact hs level hlevel
  · intro s given s' hs h
    obtain ⟨chosen, hchosen, rfl⟩ := exists_of_map h
    intro level hlevel
    rw [hget] at hlevel
    cases given with
    | blank =>
      cases hchosen
      cases hlevel
    | value t =>
      obtain ⟨level', hlevel', rfl⟩ := exists_of_map hchosen
      cases hlevel
      exact mem_levels_of_chooseLevel hlevel'
  · intro s hs level hlevel
    rw [hget] at hlevel
    exact hs level hlevel

end RecordStream.Command
