import RecordStream.Proofs.Command.Reading
import RecordStream.Proofs.Command.Send

/-!
Options of the sending program among its three operands. Where the options stand makes no difference
unless one stands between port and count: there the count is taken to be left out, and the word
behind the option belongs to nobody.
-/

namespace RecordStream.Command.Send

inductive OptionGroup
  | encoding (e : Encoding)
  | source (name : Text) (plain : name.head? ≠ some dash)
  | level (given : Text) (named : given.toUpper ∈ levelNames)
  | noColor
  | dump

namespace OptionGroup

def words : OptionGroup → List Text
  | .encoding e => ["--encoding", e.name]
  | .source name _ => ["--source", name]
  | .level given _ => ["--log-level", given]
  | .noColor => ["--no-color"]
  | .dump => ["--dump"]

def levelOf (given : Text) : Int := (chooseLevel given).toOption.getD Level.warning

def set (s : Settings) : OptionGroup → Settings
  | .encoding e => { s with base := { s.base with encoding := .value e } }
  | .source name _ => { s with source := .value name }
  | .level given _ => { s with base := { s.base with level := .value (levelOf given) } }
  | .noColor => { s with base := { s.base with color := false } }
  | .dump => { s with dump := true }

def setAll (groups : List OptionGroup) (s : Settings) : Settings := groups.foldl set s

theorem setAll_append (groups others : List OptionGroup) (s : Settings) :
    setAll (groups ++ others) s = setAll others (setAll groups s) := List.foldl_append

theorem setAll_comm {f : Settings → Settings} (hf : ∀ s group, set (f s) group = f (set s group))
    (groups : List OptionGroup) (s : Settings) : setAll groups (f s) = f (setAll groups s) := by
  induction groups generalizing s with
  | nil => rfl
  | cons group groups ih =>
    have hcons (s : Settings) : setAll (group :: groups) s = setAll groups (set s group) := rfl
    rw [hcons, hcons, hf, ih]

def putHost (host : Text) (s : Settings) : Settings := { s with host }

def putRest (port count : Text) (s : Settings) : Settings :=
  { s with port := .text port, count := .text count }

theorem setAll_putHost (groups : List OptionGroup) (host : Text) (s : Settings) :
    setAll groups (putHost host s) = putHost host (setAll groups s) :=
  setAll_comm (fun s group => by cases group <;> rfl) groups s

theorem setAll_putRest (groups : List OptionGroup) (port count : Text) (s : Settings) :
    setAll groups (putRest port count s) = putRest port count (setAll groups s) :=
  setAll_comm (fun s group => by cases group <;> rfl) groups s

theorem chooseLevel_of_named {given : Text} (named : given.toUpper ∈ levelNames) :
    chooseLevel given = .ok (levelOf given) := by
  have hlevel : Level.ofName given.toUpper ∈ levels.map .ok := by
    rw [← map_ofName_levelNames]
    exact List.mem_map_of_mem named
  obtain ⟨level, -, hlevel⟩ := List.mem_map.1 hlevel
  have hchoose : chooseLevel given = .ok level := by
    unfold chooseLevel choose
    rw [if_pos (List.contains_iff_mem.2 named)]
    dsimp only
    rw [← hlevel]
  rw [levelOf, hchoose]
  rfl

theorem plain_of_named {given : Text} (named : given.toUpper ∈ levelNames) :
    given.head? ≠ some dash := by
  have hnames : ∀ name ∈ levelNames, name.head? ≠ some dash := by decide
  have hdash : CodePoint.toUpper dash = [dash] := rfl
  intro hhead
  obtain ⟨rest, rfl⟩ := List.head?_eq_some_iff.1 hhead
  have hupper : Text.toUpper (dash :: rest) = dash :: Text.toUpper rest := by
    rw [Text.toUpper, List.flatMap_cons, hdash]
    rfl
  exact hnames _ named (by rw [hupper]; rfl)

/-- The words are those of the groups, and reading them sets what the groups say. -/
structure Reads (groups : List OptionGroup) (words : List (Word Settings)) : Prop where
  stands : List.Forall₂ (Word.Stands grammar) (groups.flatMap OptionGroup.words) words
  split : ∀ rest, groups ≠ [] ∨ (Command.split rest).1 = [] → (Command.split (words ++ rest)).1 = []
  read : ∀ (r : Reading Settings) rest, r.read grammar (words ++ rest) =
    { r with settings := setAll groups r.settings }.read grammar rest

namespace Reads

variable {groups : List OptionGroup} {words : List (Word Settings)}

theorem split_all (h : Reads groups words) : (Command.split words).1 = [] := by
  have hsplit := h.split [] (.inr rfl)
  rwa [List.append_nil] at hsplit

theorem read_all (h : Reads groups words) (r : Reading Settings) :
    r.read grammar words = .ok { r with settings := setAll groups r.settings } := by
  have hread := h.read r []
  rwa [List.append_nil] at hread

end Reads

variable {group : OptionGroup} {name given : Text} {rule : OptionRule Settings}

theorem reads_argument (hwords : group.words = [name, given]) (hname : name ≠ separatorText)
    (hword : Word.of grammar name = .ok (.option rule name none)) (hrule : rule.takesArgument)
    (hgiven : given.head? ≠ some dash)
    (hact : ∀ s, actWith s rule (.value given) = .ok (group.set s)) :
    Reads [group] [.option rule name none, .operand given] where
  stands := by
    rw [List.flatMap_singleton, hwords]
    exact .cons ⟨hname, hword⟩ (.cons (Word.stands_operand hgiven) .nil)
  split _ _ := rfl
  read r rest := by
    rw [List.cons_append, List.cons_append, Reading.read_argument hrule, hact]
    rfl

theorem reads_switch (hwords : group.words = [name]) (hname : name ≠ separatorText)
    (hword : Word.of grammar name = .ok (.option rule name none))
    (hrule : rule.takesArgument = false) (hact : ∀ s, act s rule = .ok (group.set s)) :
    Reads [group] [.option rule name none] where
  stands := by
    rw [List.flatMap_singleton, hwords]
    exact .cons ⟨hname, hword⟩ .nil
  split _ _ := rfl
  read r rest := by
    rw [List.cons_append, Reading.read_switch hrule, hact]
    rfl

theorem actWith_level (named : given.toUpper ∈ levelNames)
    (hrule : grammar.find? "--log-level" = some rule) (s : Settings) :
    actWith s rule (.value given) = .ok (set s (.level given named)) := by
  cases hrule
  simp only [actWith, Given.check, chooseLevel_of_named named]
  rfl

theorem exists_reads_one (group : OptionGroup) : ∃ words, Reads [group] words := by
  cases group with
  | encoding e =>
    have hplain : e.name.head? ≠ some dash := by cases e <;> decide
    exact ⟨_, reads_argument rfl (by decide) rfl rfl hplain fun s => by cases e <;> rfl⟩
  | source name plain => exact ⟨_, reads_argument rfl (by decide) rfl rfl plain fun s => rfl⟩
  | level given named =>
    exact ⟨_, reads_argument rfl (by decide) rfl rfl (plain_of_named named)
      (actWith_level named rfl)⟩
  | noColor => exact ⟨_, reads_switch rfl (by decide) rfl rfl fun s => rfl⟩
  | dump => exact ⟨_, reads_switch rfl (by decide) rfl rfl fun s => rfl⟩

theorem exists_reads (groups : List OptionGroup) : ∃ words, Reads groups words := by
  induction groups with
  | nil => exact ⟨[], .nil, fun rest h => h.resolve_left (· rfl), fun r rest => rfl⟩
  | cons group groups ih =>
    obtain ⟨words, hwords⟩ := exists_reads_one group
    obtain ⟨others, hothers⟩ := ih
    refine ⟨words ++ others, ?_, ?_, ?_⟩
    · rw [← List.singleton_append, List.flatMap_append]
      exact List.rel_append hwords.stands hothers.stands
    · intro rest _
      rw [List.append_assoc]
      exact hwords.split _ (.inl (List.cons_ne_nil _ _))
    · intro r rest
      rw [List.append_assoc, hwords.read, hothers.read]
      rfl

end OptionGroup

inductive Piece
  | option (group : OptionGroup)
  | operand (t : Text) (plain : t.head? ≠ some dash)

namespace Piece

def words : Piece → List Text
  | .option group => group.words
  | .operand t _ => [t]

def line (pieces : List Piece) : List Text := pieces.flatMap words

def groups (pieces : List Piece) : List OptionGroup :=
  pieces.filterMap fun
    | .option group => some group
    | .operand .. => none

def operands (pieces : List Piece) : List Text :=
  pieces.filterMap fun
    | .option _ => none
    | .operand t _ => some t

/-- The options that stand behind so many operands and in front of the next one. -/
def gap : Nat → List Piece → List OptionGroup
  | _, [] => []
  | 0, .option group :: rest => group :: gap 0 rest
  | 0, .operand .. :: _ => []
  | n + 1, .option _ :: rest => gap (n + 1) rest
  | n + 1, .operand .. :: rest => gap n rest

section Gap

variable {before : List OptionGroup} {t : Text} {plain : t.head? ≠ some dash} {rest : List Piece}

theorem line_gap :
    line (before.map .option ++ .operand t plain :: rest) =
      before.flatMap OptionGroup.words ++ t :: line rest := by
  simp [line, words, List.flatMap_map]

theorem groups_gap :
    groups (before.map .option ++ .operand t plain :: rest) = before ++ groups rest := by
  simp [groups, List.filterMap_map]

theorem gap_zero : gap 0 (before.map .option ++ .operand t plain :: rest) = before := by
  induction before with
  | nil => rfl
  | cons group before ih => exact congrArg (group :: ·) ih

theorem gap_succ (n : Nat) :
    gap (n + 1) (before.map .option ++ .operand t plain :: rest) = gap n rest := by
  induction before with
  | nil => rfl
  | cons group before ih => exact ih

theorem exists_gap {pieces : List Piece} {ts : List Text} (h : operands pieces = t :: ts) :
    ∃ (before : List OptionGroup) (rest : List Piece) (plain : t.head? ≠ some dash),
      pieces = before.map .option ++ .operand t plain :: rest ∧ operands rest = ts := by
  induction pieces with
  | nil => cases h
  | cons piece pieces ih =>
    cases piece with
    | option group =>
      obtain ⟨before, rest, plain, rfl, hrest⟩ := ih h
      exact ⟨group :: before, rest, plain, rfl, hrest⟩
    | operand t' plain =>
      cases h
      exact ⟨[], pieces, plain, rfl, rfl⟩

theorem exists_groups {pieces : List Piece} (h : operands pieces = []) :
    ∃ behind : List OptionGroup, pieces = behind.map .option := by
  induction pieces with
  | nil => exact ⟨[], rfl⟩
  | cons piece pieces ih =>
    cases piece with
    | option group =>
      obtain ⟨behind, rfl⟩ := ih h
      exact ⟨group :: behind, rfl⟩
    | operand t plain => cases h

theorem line_map (behind : List OptionGroup) :
    line (behind.map .option) = behind.flatMap OptionGroup.words := List.flatMap_map ..

theorem groups_map (behind : List OptionGroup) : groups (behind.map .option) = behind := by
  simp [groups, List.filterMap_map]

end Gap

def gapLine (first second third last : List OptionGroup) (host port count : Text) : List Text :=
  first.flatMap OptionGroup.words ++ host :: (second.flatMap OptionGroup.words ++
    port :: (third.flatMap OptionGroup.words ++ count :: last.flatMap OptionGroup.words))

theorem exists_gaps {pieces : List Piece} {host port count : Text}
    (h : operands pieces = [host, port, count]) :
    ∃ first second third last : List OptionGroup,
      line pieces = gapLine first second third last host port count ∧
      groups pieces = first ++ (second ++ (third ++ last)) ∧ gap 2 pieces = third ∧
      ∀ t ∈ [host, port, count], t.head? ≠ some dash := by
  obtain ⟨first, behindHost, hhost, rfl, hbehindHost⟩ := exists_gap h
  obtain ⟨second, behindPort, hport, rfl, hbehindPort⟩ := exists_gap hbehindHost
  obtain ⟨third, behindCount, hcount, rfl, hbehindCount⟩ := exists_gap hbehindPort
  obtain ⟨last, rfl⟩ := exists_groups hbehindCount
  refine ⟨first, second, third, last, ?_, ?_, ?_, ?_⟩
  · simp only [gapLine, line_gap, line_map]
  · simp only [groups_gap, groups_map]
  · rw [gap_succ, gap_succ, gap_zero]
  · simp [hhost, hport, hcount]

end Piece

/-! What is read. -/

section Read

variable {groups : List OptionGroup} {words rest : List (Word Settings)} {r : Reading Settings}
  {rule : OperandRule Settings} {rules : List (OperandRule Settings)} {t next : Text}

open OptionGroup

theorem read_operand_between (hreads : Reads groups words) (ht : t.head? ≠ some dash)
    (hmissing : r.missing = rule :: rules) :
    r.read grammar (.operand t :: (words ++ .operand next :: rest)) =
      { r with
        settings := setAll groups (rule.set r.settings (.value t))
        missing := if groups = [] then rules else rules.dropWhile (!·.required) }.read grammar
          (.operand next :: rest) := by
  by_cases hgroups : groups = []
  · subst hgroups
    obtain rfl : words = [] := List.forall₂_nil_left_iff.1 hreads.stands
    rw [if_pos rfl]
    exact Reading.read_operand_cons ht hmissing
  · rw [if_neg hgroups, Reading.read_operand ht hmissing (hreads.split _ (.inl hgroups)),
      hreads.read]

end Read

section Parse

variable {first second third last : List OptionGroup} {host port count : Text}

open OptionGroup

def settingsOf (groups : List OptionGroup) (host port count : Text) : Settings :=
  putRest port count (putHost host (setAll groups {}))

theorem setAll_operands :
    setAll last (putRest port count (setAll second (putHost host (setAll first {})))) =
      settingsOf (first ++ (second ++ last)) host port count := by
  rw [settingsOf, setAll_append, setAll_append, setAll_putHost, setAll_putRest, setAll_putHost]

theorem parse_gapLine (first second third last : List OptionGroup)
    (hplain : ∀ t ∈ [host, port, count], t.head? ≠ some dash) :
    parse grammar {} (Piece.gapLine first second third last host port count) =
      if third = [] then .ok (settingsOf (first ++ (second ++ (third ++ last))) host port count)
      else .error (.fault (.unrecognized [count])) := by
  obtain ⟨hhost, hport, hcount⟩ : host.head? ≠ some dash ∧ port.head? ≠ some dash ∧
      count.head? ≠ some dash := by simpa using hplain
  obtain ⟨firstWords, hfirst⟩ := exists_reads first
  obtain ⟨secondWords, hsecond⟩ := exists_reads second
  obtain ⟨thirdWords, hthird⟩ := exists_reads third
  obtain ⟨lastWords, hlast⟩ := exists_reads last
  have hstands : List.Forall₂ (Word.Stands grammar)
      (Piece.gapLine first second third last host port count)
      (firstWords ++ .operand host :: (secondWords ++ .operand port :: (thirdWords ++
        .operand count :: lastWords))) :=
    List.rel_append hfirst.stands (.cons (Word.stands_operand hhost)
      (List.rel_append hsecond.stands (.cons (Word.stands_operand hport)
        (List.rel_append hthird.stands (.cons (Word.stands_operand hcount) hlast.stands)))))
  rw [parse_eq hstands, hfirst.read, read_operand_between hsecond hhost rfl,
    read_operand_between hthird hport (by split <;> rfl)]
  -- In front of an option the port is the last word of its run, and the count is given up.
  by_cases hthird : third = []
  · subst hthird
    rw [if_pos rfl, if_pos rfl, Reading.read_operand hcount rfl hlast.split_all, hlast.read_all]
    exact congrArg Except.ok setAll_operands
  · rw [if_neg hthird, if_neg hthird, Reading.read_extra rfl hlast.split_all, hlast.read_all]
    rfl

end Parse

section Run

variable {around : Surroundings} {arguments others : List Text} {outcome : DialOutcome}
  {channel : Channel} {watch : Stopwatch}

theorem run_of_parse_eq (h : parse grammar {} others = parse grammar {} arguments) :
    run around others outcome channel watch = run around arguments outcome channel watch := by
  rw [run, run, plan, plan, h]

theorem run_of_fault {f : UsageFault} (h : parse grammar {} arguments = .error (.fault f)) :
    run around arguments outcome channel watch =
      { outcome :=
          { ending := .exit ExitCode.usage, stderr := usage ++ complaint program f.message }
        dialled := []
        channel } := by
  rw [run, plan, h]

/-- Options and three operands may be arranged in any way, as long as each kind keeps its order and
no option stands between port and count: the run is the same. With an option there the program says
that it does not know the count, and dials nobody. -/
theorem run_arranged (around : Surroundings) (pieces : List Piece) {host port count : Text}
    (hpieces : Piece.operands pieces = [host, port, count]) (outcome : DialOutcome)
    (channel : Channel) (watch : Stopwatch) :
    (Piece.gap 2 pieces = [] →
      ∀ others, Piece.operands others = [host, port, count] →
        Piece.groups others = Piece.groups pieces → Piece.gap 2 others = [] →
        run around (Piece.line others) outcome channel watch =
          run around (Piece.line pieces) outcome channel watch) ∧
    (Piece.gap 2 pieces ≠ [] →
      run around (Piece.line pieces) outcome channel watch =
        { outcome :=
            { ending := .exit ExitCode.usage
              stderr := usage ++ complaint program ("unrecognized arguments: " ++ count) }
          dialled := []
          channel }) := by
  obtain ⟨first, second, third, last, hline, hgroups, hgap, hplain⟩ := Piece.exists_gaps hpieces
  have hparse := parse_gapLine first second third last hplain
  rw [hline, hgap]
  refine ⟨?_, ?_⟩
  · intro hthird others hothers hsame hnone
    obtain ⟨first', second', third', last', hline', hgroups', hgap', -⟩ := Piece.exists_gaps hothers
    have hparse' := parse_gapLine first' second' third' last' hplain
    rw [hgap'] at hnone
    rw [hgroups, hgroups'] at hsame
    rw [if_pos hthird] at hparse
    rw [if_pos hnone, hsame] at hparse'
    rw [hline']
    exact run_of_parse_eq (hparse'.trans hparse.symm)
  · intro hthird
    have hmessage : (UsageFault.unrecognized [count]).message =
        "unrecognized arguments: " ++ count := by
      rw [UsageFault.message, Text.join, List.intercalate_singleton]
    rw [if_neg hthird] at hparse
    rw [← hmessage]
    exact run_of_fault hparse

def arrangedRun (pieces : List Piece) : Run :=
  run ⟨false, ⟨0, 0⟩⟩ (Piece.line pieces) (.connected ⟨"127.0.0.1", 40000⟩) {}
    ⟨Binary64.zero, Binary64.zero⟩

def hostPiece : Piece := .operand "127.0.0.1" (by decide)

def portPiece : Piece := .operand "9000" (by decide)

def countPiece : Piece := .operand "1" (by decide)

def sourcePiece : Piece := .option (.source "ab" (by decide))

def jsonPiece : Piece := .option (.encoding .json)

theorem run_arranged_source :
    arrangedRun [sourcePiece, hostPiece, jsonPiece, portPiece, countPiece] =
      arrangedRun [hostPiece, portPiece, countPiece, sourcePiece, jsonPiece] ∧
    (arrangedRun [hostPiece, portPiece, sourcePiece, countPiece, jsonPiece]).dialled = [] := by
  have hsplit := run_arranged ⟨false, ⟨0, 0⟩⟩
    [hostPiece, portPiece, sourcePiece, countPiece, jsonPiece] rfl
    (.connected ⟨"127.0.0.1", 40000⟩) {} ⟨Binary64.zero, Binary64.zero⟩
  refine ⟨?_, ?_⟩
  · exact (run_arranged _ _ rfl _ _ _).1 rfl _ rfl rfl rfl
  · exact congrArg Run.dialled (hsplit.2 (List.cons_ne_nil _ _))

theorem json_before_count :
    Piece.operands [hostPiece, portPiece, jsonPiece, countPiece] =
        Piece.operands [hostPiece, portPiece, countPiece, jsonPiece] ∧
      Piece.groups [hostPiece, portPiece, jsonPiece, countPiece] =
        Piece.groups [hostPiece, portPiece, countPiece, jsonPiece] ∧
      (arrangedRun [hostPiece, portPiece, countPiece, jsonPiece]).outcome.ending =
        .exit ExitCode.success ∧
      (arrangedRun [hostPiece, portPiece, jsonPiece, countPiece]).outcome.ending =
        .exit ExitCode.usage :=
  ⟨rfl, rfl, rfl, rfl⟩

end Run

end RecordStream.Command.Send
