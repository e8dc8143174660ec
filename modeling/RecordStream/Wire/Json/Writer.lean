import RecordStream.Record.Basic
import RecordStream.Text.Utf8
import RecordStream.Wire.EncodeFault

/-!
Records as JSON lines: one object without blanks, then a line end. Only quotes, backslashes and
control characters are escaped, so a line holds no line end of its own.
-/

namespace RecordStream.Json

def letterEscape? (c : CodePoint) : Option Char :=
  if c.is '"' then some '"'
  else if c.is '\\' then some '\\'
  else if c.is '\n' then some 'n'
  else if c.is '\r' then some 'r'
  else if c.is '\t' then some 't'
  else if c.val = 0x08 then some 'b'
  else if c.val = 0x0C then some 'f'
  else none

def escape (c : CodePoint) : Text :=
  match letterEscape? c with
  | some letter => [CodePoint.ofChar '\\', CodePoint.ofChar letter]
  | none => if c.val < 0x20 then "\\u" ++ Hexadecimal.lower 4 c.val else [c]

def string (t : Text) : Text :=
  CodePoint.ofChar '"' :: t.flatMap escape ++ [CodePoint.ofChar '"']

def object (r : Record) : Text :=
  "\x7b\"id\":" ++ Decimal.ofInt r.id ++ ",\"source\":" ++ r.source.text string
    ++ ",\"parent\":\x7b\"child\":" ++ string r.child ++ "\x7d,\"message\":" ++ string r.message
    ++ "\x7d"

def frame (r : Record) : Except EncodeFault Bytes :=
  if Decimal.fits r.id then
    match Utf8.encode (object r) with
    | .ok bytes => .ok (bytes ++ [0x0A])
    | .error u => .error (.surrogate u)
  else .error (.digits .writing)

end RecordStream.Json
