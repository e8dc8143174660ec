import RecordStream.Text.Basic

/-! Hexadecimal text in both cases, padded with zeros to a least width. -/

namespace RecordStream.Hexadecimal

def digitLower (n : Nat) : CodePoint := CodePoint.ofNat (if n < 10 then 0x30 + n else 0x57 + n)

def digitUpper (n : Nat) : CodePoint := CodePoint.ofNat (if n < 10 then 0x30 + n else 0x37 + n)

def digitCount (n : Nat) : Nat := Nat.log2 n / 4 + 1

def digits (n : Nat) : List Nat :=
  (List.range (digitCount n)).reverse.map fun place => n / 16 ^ place % 16

def lower (width n : Nat) : Text := Text.padZeros width ((digits n).map digitLower)

def upper (width n : Nat) : Text := Text.padZeros width ((digits n).map digitUpper)

def byteLower (b : UInt8) : Text := [digitLower (b.toNat / 16), digitLower (b.toNat % 16)]

def byteUpper (b : UInt8) : Text := [digitUpper (b.toNat / 16), digitUpper (b.toNat % 16)]

end RecordStream.Hexadecimal
