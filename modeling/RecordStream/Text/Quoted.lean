import RecordStream.Text.Hexadecimal
import RecordStream.Text.Printable

/-!
Text and bytes between quotes for messages. Single quotes are used unless the text holds one and
holds no double quote. What is not printable appears as an escape.
-/

namespace RecordStream

def quoteFor (hasSingle hasDouble : Bool) : CodePoint :=
  CodePoint.ofChar (if hasSingle && !hasDouble then '"' else '\'')

namespace Text

/-- An escape as short as the number allows. -/
def numericEscape (c : CodePoint) : Text :=
  if c.val ≤ 0xFF then "\\x" ++ Hexadecimal.lower 2 c.val
  else if c.val ≤ 0xFFFF then "\\u" ++ Hexadecimal.lower 4 c.val
  else "\\U" ++ Hexadecimal.lower 8 c.val

def quoteCodePoint (quote c : CodePoint) : Text :=
  if c = quote ∨ c.is '\\' then [CodePoint.ofChar '\\', c]
  else if c.is '\n' then "\\n"
  else if c.is '\r' then "\\r"
  else if c.is '\t' then "\\t"
  else if c.isPrintable then [c]
  else numericEscape c

def quoted (t : Text) : Text :=
  let quote := quoteFor (t.any (CodePoint.is · '\'')) (t.any (CodePoint.is · '"'))
  quote :: t.flatMap (quoteCodePoint quote) ++ [quote]

end Text

namespace Bytes

def quoteByte (quote : CodePoint) (b : UInt8) : Text :=
  let c := CodePoint.ofNat b.toNat
  if c = quote ∨ c.is '\\' then [CodePoint.ofChar '\\', c]
  else if c.is '\n' then "\\n"
  else if c.is '\r' then "\\r"
  else if c.is '\t' then "\\t"
  else if 0x20 ≤ b.toNat ∧ b.toNat < 0x7F then [c]
  else "\\x" ++ Hexadecimal.byteLower b

def quoted (bytes : Bytes) : Text :=
  let quote := quoteFor (bytes.contains 0x27) (bytes.contains 0x22)
  CodePoint.ofChar 'b' :: quote :: bytes.flatMap (quoteByte quote) ++ [quote]

end Bytes

end RecordStream
