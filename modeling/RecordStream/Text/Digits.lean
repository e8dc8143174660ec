import RecordStream.Text.TypedInteger

/-!
Digits of any kind: the decimal digits of all scripts, and the digits that stand raised, lowered,
in circles or in another shape of their own. The table is that of Unicode 14.
-/

namespace RecordStream

namespace CodePoint

/-- The first and last code point of each run of digits that have a shape of their own. -/
def shapedDigitRuns : List (Nat × Nat) :=
  [ (0xB2, 0xB3), (0xB9, 0xB9), (0x1369, 0x1371), (0x19DA, 0x19DA), (0x2070, 0x2070),
    (0x2074, 0x2079), (0x2080, 0x2089), (0x2460, 0x2468), (0x2474, 0x247C), (0x2488, 0x2490),
    (0x24EA, 0x24EA), (0x24F5, 0x24FD), (0x24FF, 0x24FF), (0x2776, 0x277E), (0x2780, 0x2788),
    (0x278A, 0x2792), (0x10A40, 0x10A43), (0x10E60, 0x10E68), (0x11052, 0x1105A),
    (0x1F100, 0x1F10A) ]

def isShapedDigit (c : CodePoint) : Bool :=
  shapedDigitRuns.any fun (first, last) => first ≤ c.val && c.val ≤ last

def isAscii (c : CodePoint) : Bool := c.val < 0x80

end CodePoint

namespace Text

def isAscii (t : Text) : Bool := t.all CodePoint.isAscii

/-- One or more digits of any kind and nothing else. -/
def isDigits (t : Text) : Bool :=
  !t.isEmpty && t.all fun c => c.isDecimalDigit || c.isShapedDigit

end Text

end RecordStream
