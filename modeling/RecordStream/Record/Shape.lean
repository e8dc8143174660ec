import RecordStream.Record.Basic
import RecordStream.Value.Order

/-!
Records out of decoded values. Only a map with exactly the four fields of a record, each of the
right kind, is a record; the fields may come in any order. `Shape` states that without the
reader, which reports the first thing it misses.
-/

namespace RecordStream.Record

inductive ShapeFault
  | notMap (kind : Value.Kind)
  | keys (sorted : List Value)
  /-- The keys are wrong, and they cannot be listed in order. -/
  | unorderedKeys (later earlier : Value.Kind)
  | id (given : Value)
  | texts
  | parent (given : Value)
  | child
  | unshowable (cause : Value.ShowFault)

def ShapeFault.message : ShapeFault → Text
  | .notMap kind => "record must be a map, got " ++ kind.name
  | .keys sorted => "unexpected record keys " ++ (Value.list sorted).quoted
  | .unorderedKeys later earlier =>
    "'<' not supported between instances of '" ++ later.name ++ "' and '" ++ earlier.name ++ "'"
  | .id given => "id must be an integer, got " ++ given.quoted
  | .texts => "source and message must be strings"
  | .parent given => "parent must be a map with a single 'child' key, got " ++ given.quoted
  | .child => "parent.child must be a string"
  | .unshowable cause => cause.message

/-- What a failure says to the caller: the value is bad, two keys have no order, or something is
nested too deep. Only the first is meant as the refusal of a value. -/
inductive Failure
  | value
  | order
  | depth
deriving DecidableEq

def ShapeFault.failure : ShapeFault → Failure
  | .unorderedKeys .. => .order
  | .unshowable .depth => .depth
  | _ => .value

def fieldNames : List Text := ["id", "source", "parent", "message"]

/-- The fault, unless the value it shows cannot be shown. -/
def showing (given : Value) (fault : ShapeFault) : ShapeFault :=
  given.showFault?.elim fault .unshowable

def keysFault (keys : List Value) : ShapeFault :=
  match Value.sortKeys keys with
  | .ok sorted => showing (.list sorted) (.keys sorted)
  | .error (later, earlier) => .unorderedKeys later earlier

def ofValue : Value → Except ShapeFault Record
  | .map entries =>
    if entries.length = fieldNames.length ∧ fieldNames.all fun n => (Value.get? entries n).isSome then
      match Value.get? entries "id", Value.get? entries "source", Value.get? entries "parent",
        Value.get? entries "message" with
      | some id, some source, some parent, some message =>
        match id with
        | .int id =>
          match source, message with
          | .text source, .text message =>
            match parent with
            | .map [(key, child)] =>
              if key.sameKey (.text "child") then
                match child with
                | .text child => .ok { id, source := .value source, child, message }
                | _ => .error .child
              else .error (showing parent (.parent parent))
            | _ => .error (showing parent (.parent parent))
          | _, _ => .error .texts
        | _ => .error (showing id (.id id))
      | _, _, _, _ => .error (keysFault (entries.map (·.1)))
    else .error (keysFault (entries.map (·.1)))
  | v => .error (.notMap v.kind)

/-- The values that describe the record: maps with its four fields in some order. A blank source
is no text, so nothing describes a record with one. -/
inductive Shape (r : Record) : Value → Prop
  | intro {source : Text} {entries : List (Value × Value)} (named : r.source = .value source)
      (fields : entries.Perm
      [(.text "id", .int r.id), (.text "source", .text source),
        (.text "parent", .map [(.text "child", .text r.child)]),
        (.text "message", .text r.message)]) : Shape r (.map entries)

end RecordStream.Record
