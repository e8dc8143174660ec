import RecordStream.Text.Decimal
import RecordStream.Text.Hexadecimal

/-! Why bytes are no text in an encoding scheme, and why a text has no bytes in UTF-8. -/

namespace RecordStream

inductive Scheme
  | utf8
  | utf16le
  | utf16be
  | utf32le
  | utf32be
deriving DecidableEq

def Scheme.name : Scheme → Text
  | .utf8 => "utf-8"
  | .utf16le => "utf-16-le"
  | .utf16be => "utf-16-be"
  | .utf32le => "utf-32-le"
  | .utf32be => "utf-32-be"

inductive Undecodable.Reason
  | invalidStart
  | invalidContinuation
  | unexpectedEnd
  | truncated
  | outOfRange
deriving DecidableEq

def Undecodable.Reason.text : Undecodable.Reason → Text
  | .invalidStart => "invalid start byte"
  | .invalidContinuation => "invalid continuation byte"
  | .unexpectedEnd => "unexpected end of data"
  | .truncated => "truncated data"
  | .outOfRange => "code point not in range(0x110000)"

/-- The bytes at fault, with the position of the first of them. -/
structure Undecodable where
  scheme : Scheme
  position : Nat
  bytes : Bytes
  reason : Undecodable.Reason
deriving DecidableEq

def Undecodable.message (u : Undecodable) : Text :=
  let place : Text :=
    match u.bytes with
    | [b] => "byte 0x" ++ Hexadecimal.byteLower b ++ " in position " ++ Decimal.ofNat u.position
    | bytes => "bytes in position " ++ Decimal.ofNat u.position ++ "-"
        ++ Decimal.ofNat (u.position + bytes.length - 1)
  "'" ++ u.scheme.name ++ "' codec can't decode " ++ place ++ ": " ++ u.reason.text

/-- A run of surrogates, which UTF-8 cannot hold: its position, its length, its first member. -/
structure Unencodable where
  position : Nat
  length : Nat
  first : CodePoint
deriving DecidableEq

def Unencodable.message (u : Unencodable) : Text :=
  let place : Text :=
    if u.length = 1 then
      "character '\\u" ++ Hexadecimal.lower 4 u.first.val ++ "' in position "
        ++ Decimal.ofNat u.position
    else
      "characters in position " ++ Decimal.ofNat u.position ++ "-"
        ++ Decimal.ofNat (u.position + u.length - 1)
  "'utf-8' codec can't encode " ++ place ++ ": surrogates not allowed"

end RecordStream
