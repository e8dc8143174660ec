import RecordStream.Pieces
import RecordStream.Text.Hexadecimal

/-!
Bytes as people look at them: a line for every few bytes, with the address of the first of them,
all of them as hexadecimal digits in groups of eight, and as characters where they are printable.
-/

namespace RecordStream.Hexdump

/-- How many bytes stand together. -/
def groupSize : Nat := 8

def digitsWidth (width : Nat) : Nat :=
  width * 2 + (width - 1) + (max (width / groupSize) 1 - 1)

/-- Eight digits at least; the sign of a negative address takes the place of one. -/
def addressText (address : Int) : Text :=
  if address < 0 then CodePoint.ofChar '-' :: Hexadecimal.upper 7 address.natAbs
  else Hexadecimal.upper 8 address.natAbs

/-- One blank between the bytes of a group, two between groups. -/
def digitsText (chunk : Bytes) : Text :=
  Text.join "  " ((pieces groupSize chunk).map fun group =>
    Text.join " " (group.map Hexadecimal.byteUpper))

/-- The character of a byte, or a point for those that are not printable ASCII. -/
def character (b : UInt8) : CodePoint :=
  if 0x20 ≤ b.toNat ∧ b.toNat < 0x7F then CodePoint.ofNat b.toNat else CodePoint.ofChar '.'

def line (width : Nat) (address : Int) (chunk : Bytes) : Text :=
  addressText address ++ "  " ++ Text.padRight (digitsWidth width) (digitsText chunk) ++ "  "
    ++ chunk.map character

/-- The lines of consecutive chunks, of which the first one lies at `address`. -/
def lines (width : Nat) (address : Int) : List Bytes → List Text
  | [] => []
  | chunk :: rest => line width address chunk :: lines width (address + chunk.length) rest

def dump (data : Bytes) (address : Int) (width : Nat) : Text :=
  Text.join "\n" (lines width address (pieces width data))

inductive DumpFault
  /-- Lines of no bytes would never end. -/
  | zeroWidth
  /-- The length of the column of digits does not fit into 63 bits. -/
  | columnRange
  /-- The dump is longer than any text that can be held. -/
  | memory
deriving DecidableEq

def DumpFault.message : DumpFault → Text
  | .zeroWidth => "range() arg 3 must not be zero"
  | .columnRange => "Python int too large to convert to C ssize_t"
  | .memory => []

/-- The dump with a width that may be any integer, where no text can be longer than `limit`; lines
of negative width hold nothing. The column of digits is only made if there is a line. -/
def dump? (limit : Nat) (data : Bytes) (address width : Int) : Except DumpFault Text :=
  if width = 0 then .error .zeroWidth
  else if width < 0 ∨ data.isEmpty then .ok []
  else if 2 ^ 63 ≤ digitsWidth width.toNat then .error .columnRange
  else if limit < digitsWidth width.toNat then .error .memory
  else
    let t := dump data address width.toNat
    if limit < t.length then .error .memory else .ok t

end RecordStream.Hexdump
