import RecordStream.Power

/-!
Text as a list of code points. A surrogate may stand alone, so text that came out of an escape
or out of undecodable command-line bytes has a value too; such text has no UTF-8 form.
-/

namespace RecordStream

/-- A Unicode code point, surrogates included. -/
structure CodePoint where
  val : Nat
  isLt : val < 0x110000
deriving DecidableEq

namespace CodePoint

@[ext] theorem ext {a b : CodePoint} (h : a.val = b.val) : a = b := by
  cases a
  cases b
  cases h
  rfl

/-- A character is a code point that is no surrogate. -/
def ofChar (c : Char) : CodePoint := ⟨c.toNat, by
  have h : c.val.toNat.isValidChar := c.valid
  simp only [Nat.isValidChar] at h
  show c.val.toNat < 0x110000
  omega⟩

/-- The code point of a number; numbers past the last one give the replacement character. -/
def ofNat (n : Nat) : CodePoint :=
  if h : n < 0x110000 then ⟨n, h⟩ else ⟨0xFFFD, by decide⟩

theorem val_ofNat {n : Nat} (h : n < 0x110000) : (ofNat n).val = n := by
  simp [ofNat, h]

def is (c : CodePoint) (x : Char) : Bool := c.val == x.toNat

def isSurrogate (c : CodePoint) : Bool := 0xD800 ≤ c.val && c.val < 0xE000

def isDigit (c : CodePoint) : Bool := 0x30 ≤ c.val && c.val ≤ 0x39

end CodePoint

/-- Text that may hold lone surrogates. -/
abbrev Text := List CodePoint

abbrev Bytes := List UInt8

namespace Text

def ofString (s : String) : Text := s.toList.map CodePoint.ofChar

instance : Coe String Text := ⟨ofString⟩

/-- A text that holds a surrogate cannot be written as UTF-8. -/
def hasSurrogate (t : Text) : Bool := t.any CodePoint.isSurrogate

def join (separator : Text) (items : List Text) : Text := List.intercalate separator items

/-- Blanks on the right up to `width` code points; a longer text is left alone. -/
def padRight (width : Nat) (t : Text) : Text :=
  t ++ List.replicate (width - t.length) (CodePoint.ofChar ' ')

/-- Zeros on the left up to `width` code points. -/
def padZeros (width : Nat) (t : Text) : Text :=
  List.replicate (width - t.length) (CodePoint.ofChar '0') ++ t

end Text

end RecordStream
