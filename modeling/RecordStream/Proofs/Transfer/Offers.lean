import RecordStream.Proofs.Transfer.Reporting

/-!
What sending some data does to a channel that was not used before, call by call, and what it reports.
-/

namespace RecordStream

namespace Channel

def takenBefore (c : Channel) (call : Nat) : Nat :=
  ((c.attempts.reverse.take call).flatMap (·.taken)).length

def stopMessage (sent total : Nat) : SendOutcome → Text
  | .takes _ =>
    "Connection closed after " ++ Decimal.ofNat sent ++ " of " ++ Decimal.ofNat total ++ " bytes"
  | .fails reason =>
    "Send failed after " ++ Decimal.ofNat sent ++ " of " ++ Decimal.ofNat total ++ " bytes: " ++ reason

theorem message_of_reason (sent total : Nat) (o : SendOutcome) :
    (SendFault.mk sent total o.reason?).message = stopMessage sent total o := by
  have hclosed : ("Connection closed after " : Text) = "Connection closed" ++ " after " := rfl
  have hfailed : ("Send failed after " : Text) = "Send failed" ++ " after " := rfl
  have hbytes : (" bytes: " : Text) = " bytes" ++ ": " := rfl
  cases o with
  | takes limit =>
    rw [stopMessage, hclosed]
    simp only [SendFault.message, SendOutcome.reason?, List.append_assoc]
  | fails reason =>
    rw [stopMessage, hfailed, hbytes]
    simp only [SendFault.message, SendOutcome.reason?, List.append_assoc]

theorem sendAll_new (script : List SendOutcome) (data : Bytes) {c : Channel}
    (hc : c = (sendAll { outcomes := script } data).2) :
    ∃ rest last, Tries data script c.attempts.reverse rest last ∧
      sendAll { outcomes := script } data = (report (data.length - rest.length) data.length last, c) := by
  obtain ⟨tries, rest, last, htries, hsend⟩ := sendAll_spec { outcomes := script } data
  rw [hsend, List.append_nil] at hc
  subst hc
  refine ⟨rest, last, ?_, by rw [hsend, List.append_nil]⟩
  rw [List.reverse_reverse]
  exact htries

/-- What a channel took is a front of the data. Each call is offered what the calls before it left,
so the offers shrink and there are at most as many as bytes. All of the data is sent exactly if no
call ended the sending; else the first call that did is the last one, and the fault says where. -/
theorem sendAll_delivers (script : List SendOutcome) (data : Bytes) :
    let result := (sendAll { outcomes := script } data).1
    let c := (sendAll { outcomes := script } data).2
    let sent := c.taken.length
    c.taken = data.take sent ∧
    (∀ call n, c.offered[call]? = some n → n = data.length - c.takenBefore call) ∧
    c.offered.Pairwise (· > ·) ∧ c.offered.length ≤ data.length ∧
    (result = .ok data.length ↔ sent = data.length ∧ ∀ call, ¬c.StoppedAt script call) ∧
    (result ≠ .ok data.length →
      ∃ call o fault, script[call]? = some o ∧ c.StoppedAt script call ∧
        (∀ earlier < call, ¬c.StoppedAt script earlier) ∧ c.attempts.length = call + 1 ∧
        sent < data.length ∧ result = .error fault ∧
        fault.message = stopMessage sent data.length o) ∧
    (data = [] → c.attempts = [] ∧ result = .ok 0) := by
  intro result c sent
  obtain ⟨rest, last, htries, hsend⟩ := sendAll_new script data (c := c) rfl
  have hresult : result = report (data.length - rest.length) data.length last :=
    congrArg Prod.fst hsend
  have hdata : c.taken ++ rest = data := htries.taken_append
  have hlength : sent + rest.length = data.length := by
    rw [← hdata, List.length_append]
  have hmet := met_sendAll { outcomes := script } data
  rw [hsend] at hmet
  refine ⟨?_, ?_, ?_, ?_, ?_⟩
  · rw [← hdata, List.take_left' rfl]
  · intro call n hcall
    rw [offered, List.getElem?_map] at hcall
    obtain ⟨a, ha, rfl⟩ := Option.map_eq_some_iff.1 hcall
    exact htries.offered_eq ha
  · exact htries.offered_decreasing
  · have hle := htries.length_le
    rwa [offered, List.length_map]
  · cases last with
    | none =>
      obtain rfl := htries.rest_eq_nil_iff.2 rfl
      have hall : result = .ok data.length := hresult
      have hgo : ∀ call, ¬c.StoppedAt script call := by
        cases hmet with
        | smooth sent h => exact h.not_stoppedAt
      refine ⟨⟨fun _ => ⟨hlength, hgo⟩, fun _ => hall⟩, fun hne => absurd hall hne, ?_⟩
      rintro rfl
      exact ⟨List.length_eq_zero_iff.1 (by simpa using htries.length_le), hresult⟩
    | some o =>
      have hrest : 0 < rest.length :=
        List.length_pos_iff.2 fun h => nomatch htries.rest_eq_nil_iff.1 h
      have hfault : result = .error ⟨sent, data.length, o.reason?⟩ := by
        rw [hresult, ← hlength, Nat.add_sub_cancel]
        rfl
      have hlast : ∀ call, c.StoppedAt script call ↔ call + 1 = c.attempts.length := by
        cases hmet with
        | blocked fault h => exact fun call => h.stoppedAt_iff
      obtain ⟨call, hcalls, ho, -⟩ := htries.exists_last
      rw [List.length_reverse] at hcalls
      refine ⟨⟨fun h => ?_, fun ⟨h, _⟩ => by omega⟩, fun _ => ?_, ?_⟩
      · rw [hfault] at h
        cases h
      · refine ⟨call, o, _, ho, (hlast call).2 hcalls.symm, fun earlier h => ?_, hcalls, by omega,
          hfault, message_of_reason ..⟩
        rw [hlast earlier]
        omega
      · rintro rfl
        rw [List.length_nil] at hlength
        omega

end Channel

end RecordStream
