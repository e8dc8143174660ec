import RecordStream.Proofs.Text.Digits
import RecordStream.Proofs.Transfer.Arguments
import RecordStream.Transfer.Connection

/-!
Ports as they are parsed and as they are dialled. Parsing finds the numbers among the words, and
dialling finds them once more in a way of its own; what is a service for the one is a service for
the other, in digits of whatever script.
-/

namespace RecordStream

theorem portOfNumber_eq_ok {n : Int} {port : Port} (h : portOfNumber n = .ok port) :
    port = .number n := by
  unfold portOfNumber at h
  split_ifs at h
  cases h
  rfl

theorem Port.dialled_service (name : Text) :
    (service name).dialled =
      if Decimal.isNumeral name then (Decimal.read name).map fun (n : Nat) => .number n
      else .ok (.service name) := by
  rw [dialled, Text.isAscii_and_isDigits]

namespace PortWord

variable {word : Text} {port : Port}

theorem dialled_service (h : PortWord word port) (hshort : ¬TooLong word) :
    (Port.service word).dialled = .ok port := by
  rw [Port.dialled_service]
  cases h with
  | number spells pos le =>
    have hlength := length_le_of_spells spells hshort
    rw [if_pos (isNumeral_iff_exists.2 ⟨_, spells⟩), spells.read hlength]
    rfl
  | service mem other =>
    rw [isNumeral_eq_false mem other]
    rfl

theorem dialled (h : PortWord word port) (hshort : ¬TooLong word) : port.dialled = .ok port := by
  cases h with
  | number => rfl
  | service mem other => exact dialled_service (.service mem other) hshort

end PortWord

theorem dialled_of_parsePort {given : Value} {port : Port} (h : parsePort given = .ok port) :
    port.dialled = .ok port := by
  have hnumber {n : Int} (h : portOfNumber n = .ok port) : port.dialled = .ok port := by
    rw [portOfNumber_eq_ok h]
    rfl
  cases given with
  | text word =>
    obtain ⟨hword, hshort⟩ := portWord_of_parsePort h
    exact hword.dialled hshort
  | int n => exact hnumber h
  | bool b => exact hnumber h
  | float x =>
    rw [parsePort] at h
    split_ifs at h
    exact hnumber h
  | bytes bytes =>
    obtain ⟨n, -, h⟩ := exists_of_bind h
    exact hnumber h
  | _ => cases h

/-! Connections. -/

section Connections

variable {word : Text} {port : Port}

theorem connect_congr {port' : Port} (h : port.dialled = port'.dialled) (host : Text)
    (outcome : DialOutcome) (timeout : Option Number) :
    connect ⟨host, port⟩ outcome timeout = connect ⟨host, port'⟩ outcome timeout := by
  unfold connect
  rw [h]

theorem dialled_connect {t : Target} (h : t.port.dialled = .ok t.port) (outcome : DialOutcome)
    (timeout : Option Number) : (connect t outcome timeout).dialled = [⟨t, timeout⟩] := by
  unfold connect
  rw [h]
  cases outcome <;> rfl

/-- A word that is accepted as a port leads to the same connection as the port that it was parsed
to. It is a number for the dialling exactly if it was one for the parsing, and a service is dialled
under the name that was given. Any character but an ASCII digit makes it a service. -/
theorem connect_accepted_word (h : parsePort (.text word) = .ok port) (host : Text)
    (outcome : DialOutcome) (timeout : Option Number) :
    let c := connect ⟨host, .service word⟩ outcome timeout
    c = connect ⟨host, port⟩ outcome timeout ∧ c.dialled = [⟨⟨host, port⟩, timeout⟩] ∧
    ((∃ n, port = .number n) ↔ ∃ n, (Port.service word).dialled = .ok (.number n)) ∧
    (∀ name, port = .service name →
      name = word ∧ c.dialled = [⟨⟨host, .service word⟩, timeout⟩]) ∧
    ((∃ c ∈ word, c.isDigit = false) → port = .service word) := by
  intro c
  obtain ⟨hword, hshort⟩ := portWord_of_parsePort h
  have hdialled := hword.dialled_service hshort
  have hsame : c = connect ⟨host, port⟩ outcome timeout :=
    connect_congr (hdialled.trans (hword.dialled hshort).symm) host outcome timeout
  have htarget : c.dialled = [⟨⟨host, port⟩, timeout⟩] := by
    rw [hsame]
    exact dialled_connect (hword.dialled hshort) outcome timeout
  refine ⟨hsame, htarget, ?_, ?_, ?_⟩
  · rw [hdialled]
    simp only [Except.ok.injEq]
  · rintro name rfl
    cases hword with
    | service mem other => exact ⟨rfl, htarget⟩
  · rintro ⟨c, hmem, hother⟩
    cases h.symm.trans (parsePort_of_other hmem hother)
    rfl

theorem connect_accepted_word_digits :
    (parsePort (.text "0080") = .ok (.number 80) ∧
      (connect ⟨"h", .service "0080"⟩ (.refused "no")).dialled = [⟨⟨"h", .number 80⟩, none⟩]) ∧
    (parsePort (.text "\u00B2") = .ok (.service "\u00B2") ∧
      (connect ⟨"h", .service "\u00B2"⟩ (.refused "no")).dialled =
        [⟨⟨"h", .service "\u00B2"⟩, none⟩]) ∧
    parsePort (.text "\u0668\u0660") = .ok (.service "\u0668\u0660") ∧
      (connect ⟨"h", .service "\u0668\u0660"⟩ (.refused "no")).dialled =
        [⟨⟨"h", .service "\u0668\u0660"⟩, none⟩] := by
  have hnumber : parsePort (.text "0080") = .ok (.number 80) := rfl
  have hraised : parsePort (.text "\u00B2") = .ok (.service "\u00B2") := rfl
  have hscript : parsePort (.text "\u0668\u0660") = .ok (.service "\u0668\u0660") := rfl
  refine ⟨⟨hnumber, ?_⟩, ⟨hraised, ?_⟩, hscript, ?_⟩
  · exact (connect_accepted_word hnumber "h" (.refused "no") none).2.1
  · exact ((connect_accepted_word hraised "h" (.refused "no") none).2.2.2.1 _ rfl).2
  · exact ((connect_accepted_word hscript "h" (.refused "no") none).2.2.2.1 _ rfl).2

end Connections

end RecordStream
