import RecordStream.Text.Quoted

/-! The two wire encodings and their names. -/

namespace RecordStream

inductive Encoding
  | msgpack
  | json
deriving DecidableEq

namespace Encoding

def all : List Encoding := [.msgpack, .json]

def name : Encoding → Text
  | .msgpack => "msgpack"
  | .json => "json"

/-- The encoding as messages about the choice of codecs show it. -/
def label : Encoding → Text
  | .msgpack => "Encoding.MSGPACK"
  | .json => "Encoding.JSON"

/-- A code point whose lower case is an ASCII letter is replaced by that letter. Besides the
capital letters this is the Kelvin sign; all others can be in no name either way. -/
def asciiLower (c : CodePoint) : CodePoint :=
  if 0x41 ≤ c.val ∧ c.val ≤ 0x5A then CodePoint.ofNat (c.val + 0x20)
  else if c.val = 0x212A then CodePoint.ofChar 'k'
  else c

structure UnknownName where
  given : Text
deriving DecidableEq

def UnknownName.message (e : UnknownName) : Text :=
  "Unknown encoding " ++ e.given.quoted ++ " (choose from " ++ Text.join ", " (all.map name) ++ ")"

def ofName (given : Text) : Except UnknownName Encoding :=
  match all.find? fun e => e.name == given.map asciiLower with
  | some e => .ok e
  | none => .error ⟨given⟩

end Encoding

end RecordStream
