import Mathlib.Data.List.Basic
import Mathlib.Data.List.Induction
import RecordStream.Proofs.Logging.History

/-!
The log over any history of setups and lines. The handler that a setup remembers is the only one
that lines go to, so a setup cannot leave two behind. The level is that of the last setup that
succeeded, and the handler is that of the last one that made one.
-/

namespace RecordStream

namespace Logger

/-! One event. -/

/-- The handler that a setup made is the only one, and the next one will be told from it. -/
structure Orderly (l : Logger) : Prop where
  handlers : l.handlers = l.own.toList
  made : l.made = l.own.elim 0 (·.serial + 1)

theorem orderly_new : Orderly {} := ⟨rfl, rfl⟩

def renewed (l : Logger) (colored : Bool) : Logger :=
  { l with handlers := [⟨l.made, colored⟩], own := some ⟨l.made, colored⟩, made := l.made + 1 }

theorem orderly_renewed (l : Logger) (colored : Bool) : Orderly (l.renewed colored) :=
  ⟨rfl, rfl⟩

section

variable {l : Logger} (h : l.Orderly) {s : Console.Setup} {terminal : Bool}

include h

theorem Orderly.setUp_ok {level : Int} (hlevel : s.level.Means level) :
    l.setUp s terminal =
      .ok (if l.handlers = [] ∨ s.reconfigure then
        (l.setLevel level).renewed (s.color && terminal) else l.setLevel level) := by
  have hvalue := Console.LevelChoice.value_eq_ok_iff.2 hlevel
  obtain ⟨level', handlers, own, made⟩ := l
  obtain rfl : handlers = own.toList := h.handlers
  rw [setUp, hvalue]
  cases own with
  | none => rfl
  | some handler =>
    cases hreconfigure : s.reconfigure with
    | true => simp [setLevel, removeHandler, makeHandler, addHandler, renewed]
    | false => simp [setLevel]

end

theorem use_of_not_succeeds (l : Logger) {e : LogEvent} (he : ¬e.Succeeds) : l.use e = l := by
  cases e with
  | line x moment => rfl
  | setUp s terminal =>
    rw [use, setUp]
    cases hvalue : s.level.value with
    | error fault => rfl
    | ok level => exact absurd ⟨level, Console.LevelChoice.value_eq_ok_iff.1 hvalue⟩ he

section

variable {l : Logger} (h : l.Orderly)

include h

theorem Orderly.use_setUp {s : Console.Setup} {level : Int} (hlevel : s.level.Means level)
    (terminal : Bool) :
    l.use (.setUp s terminal) =
      if l.handlers = [] ∨ s.reconfigure then
        (l.setLevel level).renewed (s.color && terminal) else l.setLevel level := by
  rw [use, h.setUp_ok hlevel]

theorem Orderly.use (e : LogEvent) : (l.use e).Orderly := by
  by_cases he : e.Succeeds
  · cases e with
    | line x moment => exact h
    | setUp s terminal =>
      obtain ⟨level, hlevel⟩ := he
      rw [h.use_setUp hlevel]
      split
      · exact orderly_renewed _ _
      · exact ⟨h.handlers, h.made⟩
  · rwa [use_of_not_succeeds l he]

end

/-! All events. -/

/-- The level and the handler are those that the history tells. -/
structure Stands (history : List LogEvent) (l : Logger) : Prop where
  unset : ¬Begun history → l.level = Level.warning ∧ l.handlers = []
  level : Begun history → LastSets history l.level
  handler : Begun history → ∃ h s terminal, l.handlers = [h] ∧ InstalledBy history s terminal ∧
    h.colored = (s.color && terminal)

section

variable {history : List LogEvent} {l : Logger} (h : Stands history l)

include h

theorem Stands.begun_iff : Begun history ↔ l.handlers ≠ [] := by
  constructor
  · intro hbegun
    obtain ⟨handler, _, _, hhandlers, -⟩ := h.handler hbegun
    rw [hhandlers]
    exact List.cons_ne_nil _ _
  · intro hne
    by_contra hbegun
    exact hne (h.unset hbegun).2

theorem Stands.idle {e : LogEvent} (he : ¬e.Succeeds) : Stands (history ++ [e]) l := by
  have hbegun : Begun (history ++ [e]) ↔ Begun history := by
    rw [begun_concat, or_iff_left he]
  refine ⟨?_, ?_, ?_⟩ <;> rw [hbegun]
  · exact h.unset
  · exact fun hb => (h.level hb).idle he
  · intro hb
    obtain ⟨handler, s, terminal, hhandlers, hinstalled, hcolored⟩ := h.handler hb
    exact ⟨handler, s, terminal, hhandlers, hinstalled.keep (mt LogEvent.Replaces.succeeds he),
      hcolored⟩

theorem Stands.use (hl : l.Orderly) (e : LogEvent) : Stands (history ++ [e]) (l.use e) := by
  by_cases he : e.Succeeds
  · cases e with
    | line x moment => exact absurd he (LogEvent.not_succeeds_line x moment)
    | setUp s terminal =>
      obtain ⟨level, hlevel⟩ := id he
      have hbegun : Begun (history ++ [.setUp s terminal]) := begun_concat.2 (.inr he)
      rw [hl.use_setUp hlevel]
      refine ⟨fun hno => absurd hbegun hno, fun _ => ?_, fun _ => ?_⟩
      · rw [apply_ite Logger.level]
        exact (ite_self level).symm ▸ LastSets.concat hlevel
      · split
        · next hnew =>
          have hfirst : ¬Begun history ∨ s.reconfigure :=
            hnew.imp_left fun hnil => mt h.begun_iff.1 (not_not.2 hnil)
          exact ⟨_, s, terminal, rfl, .concat he hfirst, rfl⟩
        · next hold =>
          obtain ⟨hne, hreconfigure⟩ := not_or.1 hold
          obtain ⟨handler, s', terminal', hhandlers, hinstalled, hcolored⟩ :=
            h.handler (h.begun_iff.2 hne)
          exact ⟨handler, s', terminal', hhandlers, hinstalled.keep fun hr => hreconfigure hr.2,
            hcolored⟩
  · rw [use_of_not_succeeds l he]
    exact h.idle he

end

theorem after_concat (history : List LogEvent) (e : LogEvent) :
    after (history ++ [e]) = (after history).use e := by
  rw [after, List.foldl_concat, after]

theorem orderly_after (history : List LogEvent) : (after history).Orderly := by
  induction history using List.reverseRecOn with
  | nil => exact orderly_new
  | append_singleton history e ih =>
    rw [after_concat]
    exact ih.use e

def console (l : Logger) : Console := { level := l.level, handler := l.own }

section

variable {l : Logger} (h : l.Orderly)

include h

theorem Orderly.console_setUp (s : Console.Setup) (terminal : Bool) :
    l.console.setUp s terminal = (l.setUp s terminal).map console := by
  cases hvalue : s.level.value with
  | error fault =>
    rw [Console.setUp, setUp, hvalue]
    rfl
  | ok level =>
    rw [h.setUp_ok (Console.LevelChoice.value_eq_ok_iff.1 hvalue), Console.setUp, hvalue]
    obtain ⟨level', handlers, own, made⟩ := l
    obtain rfl : handlers = own.toList := h.handlers
    obtain rfl : made = own.elim 0 (·.serial + 1) := h.made
    cases own with
    | none => rfl
    | some handler => cases hreconfigure : s.reconfigure <;> rfl

theorem Orderly.console_write (moment : Moment) (x : LogLine) :
    l.console.write moment x = l.write moment x := by
  obtain ⟨level, handlers, own, made⟩ := l
  obtain rfl : handlers = own.toList := h.handlers
  cases own with
  | none => rfl
  | some handler =>
    by_cases hx : 0 < x.level ∧ level ≤ x.level <;> simp [console, Console.write, write, hx]

end

end Logger

def Console.use (c : Console) : LogEvent → Console
  | .setUp s terminal =>
    match c.setUp s terminal with
    | .ok next => next
    | .error _ => c
  | .line _ _ => c

namespace Logger

theorem Orderly.console_use {l : Logger} (h : l.Orderly) (e : LogEvent) :
    l.console.use e = (l.use e).console := by
  cases e with
  | line x moment => rfl
  | setUp s terminal =>
    rw [Console.use, h.console_setUp, Logger.use]
    cases l.setUp s terminal <;> rfl

theorem console_after (history : List LogEvent) (moment : Moment) (x : LogLine) :
    history.foldl Console.use {} = (after history).console ∧
      (after history).console.write moment x = (after history).write moment x := by
  refine ⟨?_, (orderly_after history).console_write moment x⟩
  induction history using List.reverseRecOn with
  | nil => rfl
  | append_singleton history e ih =>
    rw [List.foldl_concat, ih, after_concat]
    exact (orderly_after history).console_use e

end Logger

end RecordStream
