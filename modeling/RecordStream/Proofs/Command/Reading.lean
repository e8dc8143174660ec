import RecordStream.Command.Parse
import RecordStream.Proofs.Except

/-!
How a command line is read. An option acts before the words behind it are looked at, and a run of
words without a dash fills as many of the operands still missing as it can.
-/

namespace RecordStream.Command

variable {Settings : Type} {g : Grammar Settings}

/-! Words by their role. -/

section Words

variable {t : Text} {ts : List Text}

theorem ne_separatorText (h : t.head? ≠ some dash) : t ≠ separatorText := by
  rintro rfl
  exact h rfl

def Word.Stands (g : Grammar Settings) (t : Text) (word : Word Settings) : Prop :=
  t ≠ separatorText ∧ Word.of g t = .ok word

theorem Word.stands_operand (h : t.head? ≠ some dash) : Word.Stands g t (.operand t) :=
  ⟨ne_separatorText h, if_pos (.inl h)⟩

theorem Word.stands_operands (h : ∀ t ∈ ts, t.head? ≠ some dash) :
    List.Forall₂ (Word.Stands g) ts (ts.map .operand) := by
  rw [List.forall₂_map_right_iff, List.forall₂_same]
  exact fun t ht => Word.stands_operand (h t ht)

theorem Word.ofAll_eq {words : List (Word Settings)} (h : List.Forall₂ (Word.Stands g) ts words) :
    Word.ofAll g ts = .ok words := by
  induction h with
  | nil => rfl
  | cons hword _ ih =>
    rw [Word.ofAll, if_neg hword.1, hword.2, ih]
    rfl

theorem split_operands (ts : List Text) (words : List (Word Settings)) :
    split (ts.map .operand ++ words) = (ts.map .operand ++ (split words).1, (split words).2) := by
  induction ts with
  | nil => rfl
  | cons t rest ih =>
    rw [List.map_cons, List.cons_append, split, ih, List.map_cons, List.cons_append]

end Words

/-! Runs of words that fill operands. -/

section Filling

variable {t : Text} {ts : List Text}

def setOperands (rules : List (OperandRule Settings)) (ts : List Text) (s : Settings) : Settings :=
  (rules.zip ts).foldl (fun s (rule, t) => rule.set s (.value t)) s

theorem dropSeparators_operands (ts : List Text) :
    dropSeparators (ts.map .operand) = ts.map .operand := by
  cases ts <;> rfl

theorem takeOperand_operands (ht : t ≠ separatorText) (ts : List Text) :
    takeOperand ((t :: ts).map .operand) = some (.value t, ts.map .operand) := by
  rw [takeOperand, dropSeparators_operands]
  simp only [List.map_cons, dropSeparators_operands, ht, and_false, if_false]

theorem fill_nil (s : Settings) (rules : List (OperandRule Settings)) :
    fill s [] rules = (s, rules.dropWhile (!·.required), []) := by
  induction rules with
  | nil => rfl
  | cons rule rules ih =>
    have hnone : takeOperand [] = none := rfl
    rw [fill, hnone, List.dropWhile_cons]
    cases rule.required with
    | true => rfl
    | false => exact ih

theorem fill_operands (h : ∀ t ∈ ts, t.head? ≠ some dash) {rules : List (OperandRule Settings)}
    (hlength : rules.length = ts.length) (rest : List (OperandRule Settings)) (s : Settings) :
    fill s (ts.map .operand) (rules ++ rest) =
      (setOperands rules ts s, rest.dropWhile (!·.required), []) := by
  induction rules generalizing s ts with
  | nil =>
    obtain rfl := List.length_eq_zero_iff.1 hlength.symm
    exact fill_nil s rest
  | cons rule rules ih =>
    obtain ⟨t, others, rfl⟩ := List.exists_cons_of_length_eq_add_one hlength.symm
    obtain ⟨ht, hothers⟩ := List.forall_mem_cons.1 h
    rw [List.cons_append, fill, takeOperand_operands (ne_separatorText ht)]
    exact ih hothers (Nat.succ.inj hlength) _

namespace Reading

variable {r : Reading Settings}

theorem fillRun_operands (h : ∀ t ∈ ts, t.head? ≠ some dash) (hsome : ts ≠ [])
    {rules rest : List (OperandRule Settings)} (hmissing : r.missing = rules ++ rest)
    (hlength : rules.length = ts.length) :
    r.fillRun (ts.map .operand) =
      { settings := setOperands rules ts r.settings, missing := rest.dropWhile (!·.required),
        extra := r.extra } := by
  rw [fillRun, if_neg (by simpa using hsome), hmissing, fill_operands h hlength]
  simp

theorem fillRun_extra (hmissing : r.missing = []) (ts : List Text) :
    r.fillRun (ts.map .operand) = { r with extra := r.extra ++ ts } := by
  have htext : (ts.map RunWord.operand).map RunWord.text = ts := by
    rw [List.map_map]
    exact List.map_id' ts
  obtain ⟨settings, missing, extra⟩ := r
  dsimp only at hmissing
  subst hmissing
  by_cases hnone : ts = []
  · subst hnone
    simp [fillRun]
  · rw [fillRun, if_neg (by simpa using hnone)]
    simp only [fill, htext]

end Reading

end Filling

/-! The words from some place on. -/

namespace Reading

variable {r : Reading Settings} {words : List (Word Settings)}

/-- Reads words behind an option, or at the start of the command line. -/
def read (g : Grammar Settings) (r : Reading Settings) (words : List (Word Settings)) :
    Except Halt (Reading Settings) :=
  (split words).2.foldlM (Reading.clause g) (r.fillRun (split words).1)

def finish (r : Reading Settings) : Except Halt Settings :=
  match r.missing.filter (·.required) with
  | [] => if r.extra.isEmpty then .ok r.settings else .error (.fault (.unrecognized r.extra))
  | missing => .error (.fault (.required (missing.map (·.name))))

theorem clause_argument {rule : OptionRule Settings} (hrule : rule.takesArgument)
    (name given : Text) (run : List RunWord) :
    r.clause g ⟨.inl (rule, name, none), .operand given :: run⟩ =
      (actWith r.settings rule (.value given)).map fun settings =>
        { r with settings }.fillRun run := by
  have hrun : actOnRun r.settings rule none (.operand given :: run) =
      (actWith r.settings rule (.value given)).map (·, run) := by
    unfold actOnRun
    rw [hrule]
  change (actOnRun r.settings rule none (.operand given :: run) >>= fun p =>
    pure ({ r with settings := p.1 }.fillRun p.2)) = _
  rw [hrun]
  cases actWith r.settings rule (.value given) <;> rfl

theorem clause_switch {rule : OptionRule Settings} (hrule : rule.takesArgument = false) (name : Text)
    (run : List RunWord) :
    r.clause g ⟨.inl (rule, name, none), run⟩ =
      (act r.settings rule).map fun settings => { r with settings }.fillRun run := by
  have hrun : actOnRun r.settings rule none run = (act r.settings rule).map (·, run) := by
    unfold actOnRun
    rw [hrule]
  change (actOnRun r.settings rule none run >>= fun p =>
    pure ({ r with settings := p.1 }.fillRun p.2)) = _
  rw [hrun]
  cases act r.settings rule <;> rfl

theorem read_argument {rule : OptionRule Settings} (hrule : rule.takesArgument)
    (name given : Text) :
    r.read g (.option rule name none :: .operand given :: words) =
      actWith r.settings rule (.value given) >>= fun settings => { r with settings }.read g words := by
  change (r.clause g ⟨.inl (rule, name, none), .operand given :: (split words).1⟩ >>= fun r =>
    (split words).2.foldlM (Reading.clause g) r) = _
  rw [clause_argument hrule]
  cases actWith r.settings rule (.value given) <;> rfl

theorem read_switch {rule : OptionRule Settings} (hrule : rule.takesArgument = false) (name : Text) :
    r.read g (.option rule name none :: words) =
      act r.settings rule >>= fun settings => { r with settings }.read g words := by
  change (r.clause g ⟨.inl (rule, name, none), (split words).1⟩ >>= fun r =>
    (split words).2.foldlM (Reading.clause g) r) = _
  rw [clause_switch hrule]
  cases act r.settings rule <;> rfl

theorem read_operands (hwords : (split words).1 = []) (ts : List Text) :
    r.read g (ts.map .operand ++ words) = (r.fillRun (ts.map .operand)).read g words := by
  rw [read, read, split_operands, hwords, List.append_nil]
  rfl

theorem read_operand {rule : OperandRule Settings} {rules : List (OperandRule Settings)} {t : Text}
    (ht : t.head? ≠ some dash) (hmissing : r.missing = rule :: rules)
    (hwords : (split words).1 = []) :
    r.read g (.operand t :: words) =
      { r with
        settings := rule.set r.settings (.value t)
        missing := rules.dropWhile (!·.required) }.read g words := by
  have hrun := read_operands (g := g) (r := r) hwords [t]
  rw [fillRun_operands (by simpa using ht) (List.cons_ne_nil _ _)
    (hmissing.trans List.singleton_append.symm) rfl] at hrun
  exact hrun

theorem read_extra {t : Text} (hmissing : r.missing = []) (hwords : (split words).1 = []) :
    r.read g (.operand t :: words) = { r with extra := r.extra ++ [t] }.read g words := by
  have hrun := read_operands (g := g) (r := r) hwords [t]
  rw [fillRun_extra hmissing] at hrun
  exact hrun

theorem read_operand_cons {rule : OperandRule Settings} {rules : List (OperandRule Settings)}
    {t next : Text} (ht : t.head? ≠ some dash) (hmissing : r.missing = rule :: rules) :
    r.read g (.operand t :: .operand next :: words) =
      { r with settings := rule.set r.settings (.value t), missing := rules }.read g
        (.operand next :: words) := by
  have htake (run : List RunWord) :
      takeOperand (.operand t :: .operand next :: run) =
        some (.value t, .operand next :: run) := by
    have hdrop (t : Text) (run : List RunWord) :
        dropSeparators (.operand t :: run) = .operand t :: run := rfl
    rw [takeOperand, hdrop]
    simp only [hdrop, ne_separatorText ht, and_false, if_false]
  have hrun (run : List RunWord) : r.fillRun (.operand t :: .operand next :: run) =
      { r with settings := rule.set r.settings (.value t), missing := rules }.fillRun
        (.operand next :: run) := by
    rw [fillRun, fillRun, hmissing, fill, htake]
    rfl
  change (split words).2.foldlM (Reading.clause g)
    (r.fillRun (.operand t :: .operand next :: (split words).1)) = _
  rw [hrun]
  rfl

end Reading

theorem parse_eq {ts : List Text} {words : List (Word Settings)}
    (h : List.Forall₂ (Word.Stands g) ts words) (initial : Settings) :
    parse g initial ts =
      Reading.read g { settings := initial, missing := g.operands } words >>= Reading.finish := by
  rw [parse, Word.ofAll_eq h]
  rfl

theorem parse_operands {ts : List Text} (h : ∀ t ∈ ts, t.head? ≠ some dash) (hsome : ts ≠ [])
    (hlength : g.operands.length = ts.length) (initial : Settings) :
    parse g initial ts = .ok (setOperands g.operands ts initial) := by
  have hnone : (split ([] : List (Word Settings))).1 = [] := rfl
  have hrun := Reading.read_operands (g := g) (r := ⟨initial, g.operands, []⟩) hnone ts
  rw [List.append_nil] at hrun
  rw [parse_eq (Word.stands_operands h), hrun,
    Reading.fillRun_operands h hsome (List.append_nil g.operands).symm hlength]
  rfl

end RecordStream.Command
