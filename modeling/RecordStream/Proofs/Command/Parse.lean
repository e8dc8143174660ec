import Mathlib.Tactic.SplitIfs
import RecordStream.Command.Settings
import RecordStream.Proofs.Except

/-!
What a command line can do to settings. A property that every option and every operand of the grammar
keeps holds of all settings that come out of a command line.
-/

namespace RecordStream.Command

variable {Settings : Type}

def OptionRule.Keeps (o : OptionRule Settings) (P : Settings → Prop) : Prop :=
  match o.effect with
  | .help => True
  | .switch set => ∀ s, P s → P (set s)
  | .argument set => ∀ s given s', P s → set s given = .ok s' → P s'

def OperandRule.Keeps (o : OperandRule Settings) (P : Settings → Prop) : Prop :=
  ∀ s given, P s → P (o.set s given)

structure Grammar.Keeps (g : Grammar Settings) (P : Settings → Prop) : Prop where
  options : ∀ o ∈ g.options, o.Keeps P
  operands : ∀ o ∈ g.operands, o.Keeps P

/-! The options that a command line names are those of the grammar. -/

section Within

variable {g : Grammar Settings}

theorem mem_options_of_mem_names {name : Text} {rule : OptionRule Settings}
    (h : (name, rule) ∈ g.names) : rule ∈ g.options := by
  obtain ⟨o, ho, hname⟩ := List.mem_flatMap.1 h
  obtain ⟨_, _, heq⟩ := List.mem_map.1 hname
  cases heq
  exact ho

theorem mem_options_of_find? {name : Text} {rule : OptionRule Settings}
    (h : g.find? name = some rule) : rule ∈ g.options := by
  obtain ⟨⟨name', rule'⟩, hfind, rfl⟩ := Option.map_eq_some_iff.1 h
  exact mem_options_of_mem_names (List.mem_of_find?_eq_some hfind)

theorem mem_options_of_mem_candidates {t name : Text} {rule : OptionRule Settings}
    {attached : Option Text} (h : (name, rule, attached) ∈ candidates g t) : rule ∈ g.options := by
  unfold candidates at h
  split_ifs at h
  · obtain ⟨⟨name', rule'⟩, hmem, heq⟩ := List.mem_map.1 h
    cases heq
    exact mem_options_of_mem_names (List.mem_filter.1 hmem).1
  · obtain ⟨⟨name', rule'⟩, hmem, heq⟩ := List.mem_filterMap.1 h
    dsimp only at heq
    split_ifs at heq <;> cases heq <;> exact mem_options_of_mem_names hmem

def Word.Within (g : Grammar Settings) : Word Settings → Prop
  | .option rule _ _ => rule ∈ g.options
  | _ => True

theorem Word.within_of {t : Text} {word : Word Settings} (h : Word.of g t = .ok word) :
    word.Within g := by
  unfold Word.of at h
  by_cases hoperand : t.head? ≠ some dash ∨ t = [dash]
  · rw [if_pos hoperand] at h
    cases h
    trivial
  rw [if_neg hoperand] at h
  cases hname : g.find? t with
  | some rule =>
    rw [hname] at h
    cases h
    exact mem_options_of_find? hname
  | none =>
    rw [hname] at h
    dsimp only at h
    split at h
    · next hfind =>
      cases h
      exact mem_options_of_find? hfind
    · split at h
      · next hcandidates =>
        cases h
        exact mem_options_of_mem_candidates (hcandidates ▸ List.mem_singleton_self _)
      · cases h
        split_ifs <;> trivial
      · cases h

theorem Word.within_ofAll {arguments : List Text} :
    ∀ {words : List (Word Settings)}, Word.ofAll g arguments = .ok words →
      ∀ word ∈ words, word.Within g := by
  induction arguments with
  | nil =>
    intro words h word hword
    cases h
    cases hword
  | cons t rest ih =>
    intro words h word hword
    unfold Word.ofAll at h
    split_ifs at h
    · cases h
      rcases List.mem_cons.1 hword with rfl | hword
      · trivial
      · obtain ⟨_, _, rfl⟩ := List.mem_map.1 hword
        trivial
    · obtain ⟨first, hfirst, h⟩ := exists_of_bind h
      obtain ⟨others, hothers, h⟩ := exists_of_bind h
      cases h
      rcases List.mem_cons.1 hword with rfl | hword
      · exact Word.within_of hfirst
      · exact ih hothers word hword

def Clause.Within (g : Grammar Settings) (c : Clause Settings) : Prop :=
  ∀ o name attached, c.head = .inl (o, name, attached) → o ∈ g.options

theorem Clause.within_split {words : List (Word Settings)} (hwords : ∀ word ∈ words, word.Within g) :
    ∀ c ∈ (split words).2, c.Within g := by
  induction words with
  | nil =>
    intro c hc
    cases hc
  | cons word rest ih =>
    have ih := ih fun w hw => hwords w (List.mem_cons_of_mem _ hw)
    cases word with
    | operand t => exact ih
    | separator => exact ih
    | option rule name attached =>
      intro c hc
      rcases List.mem_cons.1 hc with rfl | hc
      · intro o name' attached' heq
        cases heq
        exact hwords _ List.mem_cons_self
      · exact ih c hc
    | unknown t =>
      intro c hc
      rcases List.mem_cons.1 hc with rfl | hc
      · intro o name' attached' heq
        cases heq
      · exact ih c hc

theorem within_cluster {attached : Text} :
    ∀ {o : OptionRule Settings} {before last left}, o ∈ g.options →
      cluster g o attached = .ok (before, last, left) →
      last ∈ g.options ∧ ∀ o' ∈ before, o' ∈ g.options := by
  induction attached with
  | nil =>
    intro o before last left ho h
    cases h
    exact ⟨ho, by simp⟩
  | cons c rest ih =>
    intro o before last left ho h
    unfold cluster at h
    split_ifs at h
    · cases h
      exact ⟨ho, by simp⟩
    · cases hfind : g.find? [dash, c] with
      | none =>
        rw [hfind] at h
        cases h
      | some next =>
        rw [hfind] at h
        obtain ⟨⟨before', last', left'⟩, hcluster, heq⟩ := exists_of_map h
        cases heq
        obtain ⟨hlast, hbefore⟩ := ih (mem_options_of_find? hfind) hcluster
        refine ⟨hlast, fun o' ho' => ?_⟩
        rcases List.mem_cons.1 ho' with rfl | ho'
        · exact ho
        · exact hbefore o' ho'

theorem within_unpack {o : OptionRule Settings} {name : Text} {attached : Option Text}
    {before last left} (ho : o ∈ g.options)
    (h : unpack g o name attached = .ok (before, last, left)) :
    last ∈ g.options ∧ ∀ o' ∈ before, o' ∈ g.options := by
  cases attached with
  | none =>
    cases h
    exact ⟨ho, by simp⟩
  | some attached =>
    unfold unpack at h
    dsimp only at h
    split_ifs at h
    · cases h
      exact ⟨ho, by simp⟩
    · exact within_cluster ho h

end Within

/-! What one option, one run of operands and one clause do. -/

section Keeping

variable {g : Grammar Settings} {P : Settings → Prop} {s s' : Settings} {o : OptionRule Settings}

theorem act_keeps (ho : o.Keeps P) (hs : P s) (h : act s o = .ok s') : P s' := by
  unfold OptionRule.Keeps at ho
  unfold act at h
  split at h
  · cases h
  · next heffect =>
    rw [heffect] at ho
    cases h
    exact ho s hs
  · cases h

theorem actWith_keeps {given : Given Text} (ho : o.Keeps P) (hs : P s)
    (h : actWith s o given = .ok s') : P s' := by
  unfold OptionRule.Keeps at ho
  unfold actWith at h
  split at h
  · cases h
  · next heffect =>
    rw [heffect] at ho
    cases h
    exact ho s hs
  · next heffect =>
    rw [heffect] at ho
    split at h
    · next hset =>
      cases h
      exact ho s given _ hs hset
    · cases h

theorem actOnRun_keeps {attached : Option Text} {run left : List RunWord} (ho : o.Keeps P)
    (hs : P s) (h : actOnRun s o attached run = .ok (s', left)) : P s' := by
  unfold actOnRun at h
  split at h
  · obtain ⟨mid, hmid, heq⟩ := exists_of_map h
    cases heq
    exact actWith_keeps ho hs hmid
  · obtain ⟨mid, hmid, heq⟩ := exists_of_map h
    cases heq
    exact actWith_keeps ho hs hmid
  · obtain ⟨mid, hmid, heq⟩ := exists_of_map h
    cases heq
    exact act_keeps ho hs hmid

theorem fill_keeps {rules : List (OperandRule Settings)} :
    ∀ {s : Settings} {run : List RunWord}, (∀ rule ∈ rules, rule.Keeps P) → P s →
      P (fill s run rules).1 ∧ ∀ rule ∈ (fill s run rules).2.1, rule.Keeps P := by
  induction rules with
  | nil =>
    intro s run hrules hs
    exact ⟨hs, hrules⟩
  | cons rule rules ih =>
    intro s run hrules hs
    have htail : ∀ rule ∈ rules, rule.Keeps P := fun r hr => hrules r (List.mem_cons_of_mem _ hr)
    unfold fill
    split
    · exact ih htail (hrules rule List.mem_cons_self _ _ hs)
    · split_ifs
      · exact ⟨hs, hrules⟩
      · exact ih htail hs

structure Reading.Kept (P : Settings → Prop) (r : Reading Settings) : Prop where
  settings : P r.settings
  missing : ∀ rule ∈ r.missing, rule.Keeps P

theorem Reading.Kept.fillRun {r : Reading Settings} {run : List RunWord} (h : r.Kept P) :
    (r.fillRun run).Kept P := by
  unfold Reading.fillRun
  split_ifs
  · exact h
  · exact ⟨(fill_keeps h.missing h.settings).1, (fill_keeps h.missing h.settings).2⟩

theorem Reading.Kept.clause {r r' : Reading Settings} {c : Clause Settings} (hg : g.Keeps P)
    (hc : c.Within g) (hr : r.Kept P) (h : r.clause g c = .ok r') : r'.Kept P := by
  unfold Reading.clause at h
  split at h
  · cases h
    exact Reading.Kept.fillRun ⟨hr.settings, hr.missing⟩
  · next o name attached hhead =>
    obtain ⟨⟨before, last, left⟩, hunpack, h⟩ := exists_of_bind h
    obtain ⟨hlast, hbefore⟩ := within_unpack (hc o name attached hhead) hunpack
    obtain ⟨mid, hmid, h⟩ := exists_of_bind h
    obtain ⟨⟨settings, run⟩, hrun, h⟩ := exists_of_bind h
    cases h
    have hmid : P mid :=
      foldlM_keeps (fun o' ho' _ _ => act_keeps (hg.options o' (hbefore o' ho'))) hr.settings hmid
    exact Reading.Kept.fillRun ⟨actOnRun_keeps (hg.options last hlast) hmid hrun, hr.missing⟩

end Keeping

theorem Grammar.Keeps.parse {g : Grammar Settings} {P : Settings → Prop} {initial s : Settings}
    {arguments : List Text} (hg : g.Keeps P) (hinitial : P initial)
    (h : parse g initial arguments = .ok s) : P s := by
  unfold Command.parse at h
  split at h
  · cases h
  · next words hwords =>
    dsimp only at h
    obtain ⟨r, hr, h⟩ := exists_of_bind h
    have hclauses := Clause.within_split (Word.within_ofAll hwords)
    have hstart : Reading.Kept P ({ settings := initial, missing := g.operands } : Reading Settings) :=
      ⟨hinitial, hg.operands⟩
    have hkept : r.Kept P :=
      foldlM_keeps (fun c hc _ _ => Reading.Kept.clause hg (hclauses c hc)) hstart.fillRun hr
    split at h
    · split_ifs at h
      cases h
      exact hkept.settings
    · cases h

end RecordStream.Command
