import Mathlib.Tactic.Common
import RecordStream.Transfer.Channel

/-!
The attempts made for some data. Each is offered all that is left of it, so the offers shrink, and
an attempt that takes nothing is the last one. What sending reports is where it ended, and why.
-/

namespace RecordStream

/-- A call that takes nothing, or fails, ends the sending. -/
def SendOutcome.stops : SendOutcome → Bool
  | .takes limit => limit == 0
  | .fails _ => true

def SendOutcome.reason? : SendOutcome → Option Text
  | .takes _ => none
  | .fails reason => some reason

namespace Channel

/-- The attempts for the data that is left, in their order; what they leave of it, and the outcome
that ended the sending, if one did. -/
inductive Tries : Bytes → List SendOutcome → List Attempt → Bytes → Option SendOutcome → Prop
  | done (script : List SendOutcome) : Tries [] script [] [] none
  /-- Behind the given outcomes everything is taken. -/
  | all {left : Bytes} (some : left ≠ []) : Tries left [] [⟨left.length, left⟩] [] none
  | stop {left : Bytes} (some : left ≠ []) {o : SendOutcome} (stops : o.stops)
    (script : List SendOutcome) : Tries left (o :: script) [⟨left.length, []⟩] left (.some o)
  | part {left : Bytes} (some : left ≠ []) {limit : Nat} (pos : limit ≠ 0)
    {script : List SendOutcome} {tries : List Attempt} {rest : Bytes} {last : Option SendOutcome}
    (next : Tries (left.drop limit) script tries rest last) :
    Tries left (.takes limit :: script) (⟨left.length, left.take limit⟩ :: tries) rest last

def report (sent total : Nat) : Option SendOutcome → Except SendFault Nat
  | none => .ok sent
  | some o => .error ⟨sent, total, o.reason?⟩

theorem sendRest_spec (total sent : Nat) (left : Bytes) (attempts : List Attempt)
    (script : List SendOutcome) (htotal : sent + left.length = total) :
    ∃ tries rest last, Tries left script tries rest last ∧
      sendRest total sent left attempts script =
        ⟨report (total - rest.length) total last, script.drop tries.length,
          tries.reverse ++ attempts⟩ := by
  have hsent : total - left.length = sent := by omega
  induction script generalizing sent left attempts with
  | nil =>
    by_cases hleft : left = []
    · subst hleft
      exact ⟨[], [], none, .done [], by simpa [sendRest, report] using hsent.symm⟩
    · exact ⟨_, [], none, .all hleft, by simp [sendRest, report, hleft, htotal]⟩
  | cons o script ih =>
    by_cases hleft : left = []
    · subst hleft
      exact ⟨[], [], none, .done _, by simpa [sendRest, report] using hsent.symm⟩
    have hsome : ¬left.isEmpty := by simpa using hleft
    cases o with
    | fails reason =>
      refine ⟨_, left, _, .stop hleft rfl script, ?_⟩
      rw [sendRest, if_neg hsome, hsent]
      rfl
    | takes limit =>
      rw [sendRest, if_neg hsome]
      by_cases hlimit : limit = 0
      · subst hlimit
        refine ⟨_, left, _, .stop hleft rfl script, ?_⟩
        rw [hsent]
        rfl
      · have hrest : sent + min limit left.length + (left.drop limit).length = total := by
          rw [List.length_drop]
          omega
        obtain ⟨tries, rest, last, htries, hresult⟩ :=
          ih _ _ (⟨left.length, left.take limit⟩ :: attempts) hrest (by omega)
        refine ⟨_, rest, last, .part hleft hlimit htries, ?_⟩
        simpa [hlimit] using hresult

theorem sendAll_spec (c : Channel) (data : Bytes) :
    ∃ tries rest last, Tries data c.outcomes tries rest last ∧
      c.sendAll data =
        (report (data.length - rest.length) data.length last,
          { c with outcomes := c.outcomes.drop tries.length
                   attempts := tries.reverse ++ c.attempts }) := by
  obtain ⟨tries, rest, last, htries, hsend⟩ :=
    sendRest_spec data.length 0 data c.attempts c.outcomes (Nat.zero_add _)
  exact ⟨tries, rest, last, htries, by rw [sendAll, hsend]⟩

namespace Tries

variable {left rest : Bytes} {script : List SendOutcome} {tries : List Attempt}
  {last : Option SendOutcome}

theorem taken_append (h : Tries left script tries rest last) :
    tries.flatMap (·.taken) ++ rest = left := by
  induction h with
  | done => rfl
  | all => simp
  | stop => rfl
  | @part left some limit pos script tries rest last next ih =>
    rw [List.flatMap_cons, List.append_assoc, ih, List.take_append_drop]

theorem offered_eq (h : Tries left script tries rest last) {call : Nat} {a : Attempt}
    (hcall : tries[call]? = some a) :
    a.offered = left.length - ((tries.take call).flatMap (·.taken)).length := by
  induction h generalizing call with
  | done => simp at hcall
  | all | stop =>
    obtain ⟨rfl, rfl⟩ : call = 0 ∧ _ = a := by simpa [List.getElem?_singleton] using hcall
    rfl
  | @part left some limit pos script tries rest last next ih =>
    cases call with
    | zero =>
      cases hcall
      rfl
    | succ call =>
      rw [ih hcall, List.take_succ_cons, List.flatMap_cons, List.length_append, List.length_take,
        List.length_drop]
      omega

theorem offered_le (h : Tries left script tries rest last) :
    ∀ offered ∈ tries.map (·.offered), offered ≤ left.length := by
  intro offered hmem
  obtain ⟨a, ha, rfl⟩ := List.mem_map.1 hmem
  obtain ⟨call, hcall⟩ := List.mem_iff_getElem?.1 ha
  rw [h.offered_eq hcall]
  omega

theorem offered_decreasing (h : Tries left script tries rest last) :
    (tries.map (·.offered)).Pairwise (· > ·) := by
  induction h with
  | done => exact .nil
  | all | stop => exact List.pairwise_singleton _ _
  | @part left some limit pos script tries rest last next ih =>
    refine .cons (fun offered hmem => ?_) ih
    have hle := next.offered_le offered hmem
    have hpos := List.length_pos_iff.2 some
    rw [List.length_drop] at hle
    dsimp only
    omega

theorem length_le (h : Tries left script tries rest last) : tries.length ≤ left.length := by
  induction h with
  | done => exact Nat.le_refl _
  | all some | stop some => exact List.length_pos_iff.2 some
  | @part left some limit pos script tries rest last next ih =>
    have hpos := List.length_pos_iff.2 some
    rw [List.length_drop] at ih
    rw [List.length_cons]
    omega

theorem rest_eq_nil_iff (h : Tries left script tries rest last) : rest = [] ↔ last = none := by
  induction h with
  | done => simp
  | all => simp
  | stop some => simpa using some
  | part some pos next ih => exact ih

theorem stops_eq_false (h : Tries left script tries rest none) :
    ∀ o ∈ script.take tries.length, o.stops = false := by
  generalize hlast : (none : Option SendOutcome) = last at h
  induction h with
  | done => simp
  | all => simp
  | stop => cases hlast
  | part some pos next ih =>
    rw [List.length_cons, List.take_succ_cons, List.forall_mem_cons]
    exact ⟨beq_false_of_ne pos, ih hlast⟩

theorem exists_last {o : SendOutcome} (h : Tries left script tries rest (some o)) :
    ∃ call, tries.length = call + 1 ∧ script[call]? = some o ∧ o.stops ∧
      ∀ o' ∈ script.take call, o'.stops = false := by
  generalize hlast : some o = last at h
  induction h with
  | done => cases hlast
  | all => cases hlast
  | stop some stops =>
    cases hlast
    exact ⟨0, rfl, rfl, stops, by simp⟩
  | part some pos next ih =>
    obtain ⟨call, hlength, ho, hstops, hgo⟩ := ih hlast
    refine ⟨call + 1, congrArg (· + 1) hlength, ho, hstops, ?_⟩
    rw [List.take_succ_cons, List.forall_mem_cons]
    exact ⟨beq_false_of_ne pos, hgo⟩

end Tries

end Channel

end RecordStream
