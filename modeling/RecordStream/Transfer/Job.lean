import RecordStream.Record.Basic
import RecordStream.Text.TypedInteger
import RecordStream.Transfer.Target
import RecordStream.Wire.Encoding

/-!
What a run is to send, and where to. A count and a port may come as numbers or as text; both
forms are judged alike, and what is no numeral is a bad count but the name of a service.
-/

namespace RecordStream

inductive ArgumentFault
  | negativeCount (count : Int)
  | malformedCount (given : Value)
  | emptyPort
  | portRange (port : Int)
  | encoding (e : Encoding.UnknownName)

def ArgumentFault.message : ArgumentFault → Text
  | .negativeCount count => "COUNT must be >= 0, got " ++ Decimal.ofInt count
  | .malformedCount given => "COUNT must be a non-negative decimal integer, got " ++ given.quoted
  | .emptyPort => "PORT must not be empty"
  | .portRange port => "PORT must be between 1 and 65535, got " ++ Decimal.ofInt port
  | .encoding e => e.message

inductive JobFault
  | argument (f : ArgumentFault)
  | digits (limit : DigitLimit)
  /-- A count that is none and cannot be shown. -/
  | unshowable (cause : Value.ShowFault)
  /-- A port of a kind that is neither number nor text. -/
  | portKind (kind : Value.Kind)
  /-- A port in bytes that spell no number. -/
  | portBytes (given : Bytes)
  | portNaN
  | portInfinite

/-- How much of bytes that spell no number is shown, before and after they are put in quotes. -/
def shownBytes : Nat := 200

def JobFault.message : JobFault → Text
  | .argument f => f.message
  | .digits limit => limit.message
  | .unshowable cause => cause.message
  | .portKind kind =>
    "int() argument must be a string, a bytes-like object or a real number, not '" ++ kind.name
      ++ "'"
  | .portBytes given =>
    "invalid literal for int() with base 10: " ++ (Bytes.quoted (given.take shownBytes)).take shownBytes
  | .portNaN => "cannot convert float NaN to integer"
  | .portInfinite => "cannot convert float infinity to integer"

/-- A fault about an integer, unless that is too long to be shown. -/
def JobFault.about (n : Int) (f : ArgumentFault) : JobFault :=
  if Decimal.fits n then .argument f else .digits .writing

def defaultCount : Nat := 1

def parseNumeral (t : Text) : Except JobFault Nat :=
  match Decimal.read t with
  | .ok n => .ok n
  | .error limit => .error (.digits limit)

/-- How many records are to be sent; one if nothing is said. -/
def parseCount : Value → Except JobFault Nat
  | .null => .ok defaultCount
  | .int n => if n < 0 then .error (.about n (.negativeCount n)) else .ok n.toNat
  | .text t => if Decimal.isNumeral t then parseNumeral t else .error (.argument (.malformedCount (.text t)))
  | v => .error (v.showFault?.elim (.argument (.malformedCount v)) .unshowable)

def portOfNumber (n : Int) : Except JobFault Port :=
  if 0 < n ∧ n < 65536 then .ok (.number n) else .error (.about n (.portRange n))

/-- The integer that bytes spell; bytes outside ASCII spell nothing. -/
def parseBytes (bytes : Bytes) : Except JobFault Int :=
  let t : Text := bytes.map fun b => CodePoint.ofNat (if b < 0x80 then b.toNat else 0xFFFD)
  match TypedInteger.read t with
  | .ok n => .ok n
  | .error .malformed => .error (.portBytes bytes)
  | .error (.digits limit) => .error (.digits limit)

def parsePort : Value → Except JobFault Port
  | .text t =>
    if Decimal.isNumeral t then do portOfNumber (← parseNumeral t)
    else if t.isEmpty then .error (.argument .emptyPort)
    else .ok (.service t)
  | .int n => portOfNumber n
  | .bool b => portOfNumber (if b then 1 else 0)
  | .float x =>
    if x.isNaN then .error .portNaN
    else if x.isInfinite then .error .portInfinite
    else portOfNumber x.truncate
  | .bytes bytes => do portOfNumber (← parseBytes bytes)
  | v => .error (.portKind v.kind)

/-- Everything a run needs. -/
structure Job where
  target : Target
  count : Int := defaultCount
  encoding : Encoding := .msgpack
  source : Given Text := Record.defaultSource
deriving DecidableEq

/-- The job that arguments describe. The encoding is looked at first, then port and count. -/
def Job.ofArguments (host : Text) (port count : Value) (encoding : Text) (source : Given Text) :
    Except JobFault Job :=
  match Encoding.ofName encoding with
  | .error e => .error (.argument (.encoding e))
  | .ok encoding => do
    let port ← parsePort port
    let count ← parseCount count
    return { target := { host, port }, count, encoding, source }

end RecordStream
