import RecordStream.Proofs.Json.Escape
import RecordStream.Proofs.Text.Decimal

/-!
What is written of a value is read as that value, with what comes behind left over. Behind a value
comes nothing, a comma or a closing brace, none of which can continue a number.
-/

namespace RecordStream.Json

def Closes (rest : Text) : Prop := ∀ c ∈ rest.head?, c.is ',' ∨ c.val = 0x7D

theorem closes_nil : Closes [] := by
  simp [Closes]

theorem closes_cons {c : CodePoint} (h : c.is ',' ∨ c.val = 0x7D) (rest : Text) :
    Closes (c :: rest) := by
  simpa [Closes] using h

theorem skipSpace_cons {c : CodePoint} (h : isSpace c = false) (t : Text) :
    skipSpace (c :: t) = c :: t := by
  rw [skipSpace, List.dropWhile_cons_of_neg (by simp [h])]

/-- The text is that of the value; reading it takes `depth` calls in a row at most. -/
def Spells (depth : Nat) (t : Text) (v : Value) : Prop :=
  ∀ fuel rest, depth ≤ fuel → Closes rest → value fuel (skipSpace (t ++ rest)) = .ok (v, rest)

theorem Spells.mono {depth depth' : Nat} {t : Text} {v : Value} (h : Spells depth t v)
    (hdepth : depth ≤ depth') : Spells depth' t v :=
  fun fuel rest hfuel => h fuel rest (by omega)

theorem string_append (t rest : Text) :
    string t ++ rest = CodePoint.ofChar '"' :: (t.flatMap escape ++ CodePoint.ofChar '"' :: rest) := by
  simp [string]

theorem string_spells (t : Text) : Spells 1 (string t) (.text t) := by
  intro fuel rest hfuel _
  obtain ⟨fuel, rfl⟩ := Nat.exists_eq_add_of_le' hfuel
  rw [string_append, skipSpace_cons (by decide), value, if_pos (by decide), stringFrom_escapes]
  rfl

theorem brackets_spell : Spells 1 "[]" (.list []) := by
  intro fuel rest hfuel _
  obtain ⟨fuel, rfl⟩ := Nat.exists_eq_add_of_le' hfuel
  change value (fuel + 1) (skipSpace (CodePoint.ofChar '[' :: CodePoint.ofChar ']' :: rest)) = _
  rw [skipSpace_cons (by decide), value, if_neg (by decide), if_neg (by decide),
    if_pos (by decide), skipSpace_cons (by decide)]
  rfl

/-! Integers. -/

namespace Closes

variable {rest : Text} (h : Closes rest)

include h

theorem takeWhile_isDigit_eq_nil : rest.takeWhile CodePoint.isDigit = [] := by
  cases rest with
  | nil => rfl
  | cons c rest =>
    have hc : c.isDigit = false := by
      simp [Closes, CodePoint.is] at h
      simp [CodePoint.isDigit]
      omega
    rw [List.takeWhile_cons_of_neg (by simp [hc])]

theorem dropWhile_isDigit_eq_self : rest.dropWhile CodePoint.isDigit = rest := by
  have hsplit := List.takeWhile_append_dropWhile (p := CodePoint.isDigit) (l := rest)
  rwa [h.takeWhile_isDigit_eq_nil, List.nil_append] at hsplit

theorem fractionDigits?_eq_none : fractionDigits? rest = none := by
  cases rest with
  | nil => rfl
  | cons c rest =>
    have hc : c.is '.' = false := by
      simp [Closes, CodePoint.is] at h
      simp [CodePoint.is]
      omega
    simp [fractionDigits?, hc]

theorem exponent?_eq_none : exponent? rest = none := by
  cases rest with
  | nil => rfl
  | cons c rest =>
    have hc : ¬(c.is 'e' ∨ c.is 'E') := by
      simp [Closes, CodePoint.is] at h
      simp [CodePoint.is]
      omega
    exact if_neg hc

theorem integerDigits_ofNat (n : Nat) :
    integerDigits (Decimal.ofNat n ++ rest) = (Decimal.ofNat n, rest) := by
  have hdigits (d : CodePoint) (hd : d ∈ Decimal.ofNat n) : d.isDigit :=
    Decimal.isDigit_of_mem_ofNat hd
  have htake : (Decimal.ofNat n ++ rest).takeWhile CodePoint.isDigit = Decimal.ofNat n := by
    rw [List.takeWhile_append_of_pos hdigits, h.takeWhile_isDigit_eq_nil, List.append_nil]
  have hdrop : (Decimal.ofNat n ++ rest).dropWhile CodePoint.isDigit = rest := by
    rw [List.dropWhile_append_of_pos hdigits, h.dropWhile_isDigit_eq_self]
  obtain ⟨c, digits, hn, -⟩ := Decimal.exists_cons_ofNat n
  rw [hn, List.cons_append] at htake hdrop ⊢
  rw [integerDigits]
  split_ifs with hzero
  · rw [Decimal.eq_zero_of_ofNat hn hzero, List.nil_append]
  · rw [htake, hdrop]

theorem number_ofInt {n : Int} (hn : Decimal.fits n) :
    number (Decimal.ofInt n ++ rest) = .ok (.int n, rest) := by
  have hdigits := h.integerDigits_ofNat n.natAbs
  have hread := Decimal.read_ofNat hn
  obtain ⟨c, digits, hc, hdigit⟩ := Decimal.exists_cons_ofNat n.natAbs
  unfold Decimal.ofInt
  generalize hmagnitude : n.natAbs = magnitude at *
  rw [hc] at hread hdigits ⊢
  rw [List.cons_append] at hdigits
  split_ifs with hneg
  · have hminus : (CodePoint.ofChar '-').is '-' = true := rfl
    simp [number, hminus, hdigits, h.fractionDigits?_eq_none, h.exponent?_eq_none, hread]
    omega
  · have hminus : c.is '-' = false := Decimal.is_eq_false_of_isDigit hdigit (by decide)
    simp [number, hminus, hdigits, h.fractionDigits?_eq_none, h.exponent?_eq_none, hread]
    omega

end Closes

private theorem words_without_digits :
    ∀ word ∈ words, 2 ≤ word.1.length ∧ ∀ c ∈ word.1, c.isDigit = false := by
  decide

theorem scalar_of_isDigit (front t : Text) {c : CodePoint} (hfront : front.length ≤ 1)
    (hc : c.isDigit) : scalar (front ++ c :: t) = number (front ++ c :: t) := by
  have hword (word : Text × Value) (hword : word ∈ words) :
      word? word.1 (front ++ c :: t) = none := by
    obtain ⟨hlength, hdigits⟩ := words_without_digits word hword
    refine if_neg fun hprefix => ?_
    have hle : front ++ [c] <+: word.1 := by
      refine List.prefix_of_prefix_length_le ?_ (List.isPrefixOf_iff_prefix.1 hprefix) (by
        simp only [List.length_append, List.length_singleton]
        omega)
      exact ⟨t, by simp⟩
    have hmem : c ∈ word.1 := hle.subset (by simp)
    rw [hdigits c hmem] at hc
    cases hc
  rw [scalar, List.findSome?_eq_none_iff.2 fun word h => by simp [hword word h]]

theorem integer_spells {n : Int} (hn : Decimal.fits n) : Spells 1 (Decimal.ofInt n) (.int n) := by
  intro fuel rest hfuel hrest
  obtain ⟨fuel, rfl⟩ := Nat.exists_eq_add_of_le' hfuel
  have hnumber := hrest.number_ofInt hn
  obtain ⟨c, digits, hc, hdigit⟩ := Decimal.exists_cons_ofNat n.natAbs
  unfold Decimal.ofInt at hnumber ⊢
  rw [hc] at hnumber ⊢
  split_ifs at hnumber ⊢ with hneg
  · rw [List.cons_append, skipSpace_cons (by decide), value, if_neg (by decide),
      if_neg (by decide), if_neg (by decide)]
    exact (scalar_of_isDigit [CodePoint.ofChar '-'] (digits ++ rest) (by simp) hdigit).trans hnumber
  · have hspace : isSpace c = false := by
      simp only [CodePoint.isDigit, Bool.and_eq_true, decide_eq_true_eq] at hdigit
      simp [isSpace]
      omega
    have hbrace : c.val ≠ 0x7B := Decimal.val_ne_of_isDigit hdigit (by decide)
    rw [List.cons_append, skipSpace_cons hspace, value,
      Decimal.is_eq_false_of_isDigit hdigit (by decide),
      Decimal.is_eq_false_of_isDigit hdigit (by decide), if_neg (by decide), if_neg hbrace,
      if_neg (by decide)]
    exact (scalar_of_isDigit [] (digits ++ rest) (by simp) hdigit).trans hnumber

/-! Objects. -/

structure Entry where
  name : Text
  text : Text
  value : Value

namespace Entry

def pair (e : Entry) : Value × Value := (.text e.name, e.value)

def written (e : Entry) : Text := string e.name ++ CodePoint.ofChar ':' :: e.text

end Entry

def braces (entries : List Entry) : Text :=
  "\x7b" ++ Text.join "," (entries.map Entry.written) ++ "\x7d"

theorem members_entry {depth fuel : Nat} {e : Entry} (h : Spells depth e.text e.value)
    (hfuel : depth ≤ fuel) (done : List (Value × Value)) {c : CodePoint}
    (hc : c.is ',' ∨ c.val = 0x7D) (rest : Text) :
    members (fuel + 1) done (e.written ++ c :: rest) =
      if c.val = 0x7D then .ok (.map (Value.insert done (.text e.name) e.value), rest)
      else members fuel (Value.insert done (.text e.name) e.value) (skipSpace rest) := by
  have hspace : isSpace c = false := by
    simp [CodePoint.is] at hc
    simp [isSpace]
    omega
  have hvalue := h fuel (c :: rest) hfuel (closes_cons hc rest)
  rw [Entry.written, List.append_assoc, string_append, List.cons_append, members,
    if_pos (by decide), stringFrom_escapes]
  simp only [List.reverse_nil, List.nil_append]
  rw [skipSpace_cons (by decide)]
  simp only
  rw [if_pos (by decide), hvalue]
  simp only [skipSpace_cons hspace]
  by_cases hbrace : c.val = 0x7D
  · rw [if_pos hbrace, if_pos hbrace]
  · rw [if_neg hbrace, if_neg hbrace, if_pos (hc.resolve_right hbrace)]

private theorem join_cons_cons (e e' : Entry) (others : List Entry) :
    Text.join "," ((e :: e' :: others).map Entry.written) =
      e.written ++ CodePoint.ofChar ',' :: Text.join "," ((e' :: others).map Entry.written) :=
  rfl

private theorem exists_cons_join {entries : List Entry} (hne : entries ≠ []) :
    ∃ t, Text.join "," (entries.map Entry.written) = CodePoint.ofChar '"' :: t := by
  match entries with
  | [e] => exact ⟨_, by simp [Text.join, Entry.written, string_append]; rfl⟩
  | e :: e' :: others =>
    exact ⟨_, by rw [join_cons_cons, Entry.written, List.append_assoc, string_append]⟩

theorem members_entries {depth : Nat} {entries : List Entry}
    (h : ∀ e ∈ entries, Spells depth e.text e.value) (hne : entries ≠ []) {fuel : Nat}
    (hfuel : depth + entries.length ≤ fuel) (done : List (Value × Value)) (rest : Text) :
    members fuel done (Text.join "," (entries.map Entry.written) ++ ("\x7d" ++ rest)) =
      .ok (.map ((entries.map Entry.pair).foldl
        (fun entries (key, value) => Value.insert entries key value) done), rest) := by
  induction entries generalizing fuel done with
  | nil => contradiction
  | cons e others ih =>
    rw [List.length_cons] at hfuel
    obtain ⟨fuel, rfl⟩ := Nat.exists_eq_add_of_le' (show 1 ≤ fuel by omega)
    have hentry {c : CodePoint} (hc : c.is ',' ∨ c.val = 0x7D) :=
      members_entry (h e (by simp)) (show depth ≤ fuel by omega) done hc
    cases others with
    | nil =>
      have hlast := hentry (c := CodePoint.ofNat 0x7D) (.inr rfl) rest
      rw [if_pos (by decide)] at hlast
      rw [List.map_singleton, show Text.join "," [e.written] = e.written by simp [Text.join]]
      exact hlast
    | cons e' others =>
      obtain ⟨t, ht⟩ := exists_cons_join (List.cons_ne_nil e' others)
      have hothers := ih (fun e he => h e (List.mem_cons_of_mem _ he)) (by simp)
        (show depth + (e' :: others).length ≤ fuel by omega)
        (Value.insert done (.text e.name) e.value)
      rw [join_cons_cons, List.append_assoc, List.cons_append, hentry (.inl (by decide)),
        if_neg (by decide)]
      rw [ht] at hothers ⊢
      rw [List.cons_append] at hothers ⊢
      rw [skipSpace_cons (by decide), hothers]
      rfl

theorem braces_spell {depth : Nat} {entries : List Entry}
    (h : ∀ e ∈ entries, Spells depth e.text e.value) (hne : entries ≠ []) :
    Spells (depth + entries.length + 1) (braces entries)
      (.map (Value.ofPairs (entries.map Entry.pair))) := by
  intro fuel rest hfuel _
  obtain ⟨fuel, rfl⟩ := Nat.exists_eq_add_of_le' (show 1 ≤ fuel by omega)
  obtain ⟨t, ht⟩ := exists_cons_join hne
  have hmembers := members_entries h hne (show depth + entries.length ≤ fuel by omega) [] rest
  have hopen : braces entries ++ rest = CodePoint.ofNat 0x7B ::
      (Text.join "," (entries.map Entry.written) ++ ("\x7d" ++ rest)) := by
    rw [braces, List.append_assoc, List.append_assoc]
    rfl
  rw [ht, List.cons_append] at hmembers hopen
  rw [hopen, skipSpace_cons (by decide), value, if_neg (by decide), if_pos (by decide),
    skipSpace_cons (by decide)]
  exact hmembers

end RecordStream.Json
