import RecordStream.Wire.Encoding

/-!
Which kind of codec serves which encoding. Every encoding starts with the kind that is made for
it; a kind may be registered for any encoding that no other kind serves.
-/

namespace RecordStream

inductive CodecKind
  | messagePack
  | jsonLines
deriving DecidableEq

def CodecKind.name : CodecKind → Text
  | .messagePack => "MessagePackCodec"
  | .jsonLines => "JsonLinesCodec"

structure Registry where
  /-- The kind that serves an encoding. -/
  serving : Encoding → Option CodecKind
  /-- The encoding that a kind was last registered for, which its codecs show. -/
  shown : CodecKind → Encoding

namespace Registry

def standard : Registry where
  serving
    | .msgpack => some .messagePack
    | .json => some .jsonLines
  shown
    | .messagePack => .msgpack
    | .jsonLines => .json

structure Duplicate where
  encoding : Encoding
  kind : CodecKind
deriving DecidableEq

def Duplicate.message (d : Duplicate) : Text :=
  "Duplicate encoding " ++ d.encoding.label ++ " for " ++ d.kind.name

structure Unserved where
  encoding : Encoding
deriving DecidableEq

def Unserved.message (u : Unserved) : Text := "No codec registered for " ++ u.encoding.label

def register (r : Registry) (kind : CodecKind) (encoding : Encoding) :
    Except Duplicate Registry :=
  match r.serving encoding with
  | some _ => .error ⟨encoding, kind⟩
  | none => .ok
    { serving := fun e => if e = encoding then some kind else r.serving e
      shown := fun k => if k = kind then encoding else r.shown k }

def remove (r : Registry) (encoding : Encoding) : Registry :=
  { r with serving := fun e => if e = encoding then none else r.serving e }

def codecText (r : Registry) (encoding : Encoding) : Except Unserved Text :=
  match r.serving encoding with
  | some kind => .ok ("<" ++ kind.name ++ " encoding=" ++ (r.shown kind).name ++ ">")
  | none => .error ⟨encoding⟩

end Registry

end RecordStream
