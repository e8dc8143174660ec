import RecordStream.Text.Utf8
import RecordStream.Value.Basic
import RecordStream.Wire.Framing

/-!
MessagePack read one byte at a time. The state of an unfinished value is the token being read
and the containers around it, innermost first. Announced lengths and the nesting are limited, so
no announcement can make the reader wait for more than the limits allow.
-/

namespace RecordStream.MessagePack

/-- At most so many containers may be open at once. -/
def maxDepth : Nat := 1024

def maxItems : Nat := 104857600

def maxEntries : Nat := 52428800

def maxExtLength : Nat := 104857600

def maxNanoseconds : Nat := 999999999

inductive Fault
  | unusedHead
  | tooDeep
  | tooManyItems (count : Nat)
  | tooManyEntries (count : Nat)
  /-- The length with the type byte, kept in 32 bits. -/
  | extTooLong (length : Nat)
  | text (u : Undecodable)
  /-- A key that is neither text nor bytes. -/
  | key (kind : Value.Kind)
  | extCode
  | timestampLength
  | nanoseconds
deriving DecidableEq

def Fault.message : Fault → Text
  | .unusedHead => ""
  | .tooDeep => ""
  | .tooManyItems count => Decimal.ofNat count ++ " exceeds max_array_len(104857600)"
  | .tooManyEntries count => Decimal.ofNat count ++ " exceeds max_map_len(52428800)"
  | .extTooLong length => Decimal.ofNat length ++ " exceeds max_ext_len(104857600)"
  | .text u => u.message
  | .key kind => kind.name ++ " is not allowed for map key when strict_map_key=True"
  | .extCode => "code must be 0~127"
  | .timestampLength => "Unpack failed: error = -1"
  | .nanoseconds => "nanoseconds must be a non-negative integer less than 999999999."

/-- A container some of whose parts are still missing. -/
inductive Container
  /-- The items so far, the last one first. -/
  | list (missing : Nat) (done : List Value)
  /-- The complete entries so far, and the key of the entry that has no value yet. -/
  | map (missing : Nat) (done : List (Value × Value)) (key : Option Value)

/-- What a big-endian number of fixed width means. -/
inductive Field
  | natural
  /-- Two's complement of so many bytes. -/
  | signed (width : Nat)
  | single
  | double
  | textLength
  | bytesLength
  | extLength
  | itemCount
  | entryCount
deriving DecidableEq

/-- What the bytes behind a length are. -/
inductive Payload
  | text
  | bytes
  /-- A type byte and data. -/
  | ext
deriving DecidableEq

inductive Token
  | head
  /-- So many bytes of the number are missing; `value` is the number so far. -/
  | field (f : Field) (missing : Nat) (value : Nat)
  /-- So many bytes are missing; `done` holds the others, the last one first. -/
  | payload (p : Payload) (missing : Nat) (done : Bytes)

/-- An unfinished value. -/
structure Partial where
  containers : List Container
  token : Token

def Partial.start : Partial := ⟨[], .head⟩

abbrev Step := Progress Partial Fault

/-- Puts a complete value into the containers around it and closes those that it completes. -/
def deliver : List Container → Value → Step
  | [], v => .object v
  | .list missing done :: outer, v =>
    if missing ≤ 1 then deliver outer (.list (v :: done).reverse)
    else .more ⟨.list (missing - 1) (v :: done) :: outer, .head⟩
  | .map missing done none :: outer, v => .more ⟨.map missing done (some v) :: outer, .head⟩
  | .map missing done (some key) :: outer, v =>
    match key.kind with
    | .text | .bytes =>
      let done := Value.insert done key v
      if missing ≤ 1 then deliver outer (.map done)
      else .more ⟨.map (missing - 1) done none :: outer, .head⟩
    | kind => .broken (.key kind)

def openList (outer : List Container) (count : Nat) : Step :=
  if maxDepth ≤ outer.length then .broken .tooDeep
  else if maxItems < count then .broken (.tooManyItems count)
  else if count = 0 then deliver outer (.list [])
  else .more ⟨.list count [] :: outer, .head⟩

def openMap (outer : List Container) (count : Nat) : Step :=
  if maxDepth ≤ outer.length then .broken .tooDeep
  else if maxEntries < count then .broken (.tooManyEntries count)
  else if count = 0 then deliver outer (.map [])
  else .more ⟨.map count [] none :: outer, .head⟩

def ofBigEndian (bytes : Bytes) : Nat := bytes.foldl (fun n b => 256 * n + b.toNat) 0

def ofTwosComplement (width n : Nat) : Int :=
  if 2 * n < 256 ^ width then n else (n : Int) - (256 ^ width : Nat)

def timestamp (seconds : Int) (nanoseconds : Nat) : Except Fault Value :=
  if nanoseconds ≤ maxNanoseconds then .ok (.timestamp seconds nanoseconds)
  else .error .nanoseconds

/-- Points in time come in three sizes: seconds alone, both numbers in 64 bits, and each number
on its own. -/
def timestampOf (data : Bytes) : Except Fault Value :=
  let n := ofBigEndian data
  match data.length with
  | 4 => timestamp n 0
  | 8 => timestamp (n % 2 ^ 34 : Nat) (n / 2 ^ 34)
  | 12 => timestamp (ofTwosComplement 8 (n % 2 ^ 64)) (n / 2 ^ 64)
  | _ => .error .timestampLength

def extOf (bytes : Bytes) : Except Fault Value :=
  if maxExtLength + 1 < bytes.length then .error (.extTooLong bytes.length)
  else
    match bytes with
    | [] => .error (.extTooLong 0)
    | code :: data =>
      if code = 0xFF then timestampOf data
      else if 0x80 ≤ code then .error .extCode
      else .ok (.ext code.toNat data)

def valueOfPayload (p : Payload) (bytes : Bytes) : Except Fault Value :=
  match p with
  | .text =>
    match Utf8.decode bytes with
    | .ok t => .ok (.text t)
    | .error u => .error (.text u)
  | .bytes => .ok (.bytes bytes)
  | .ext => extOf bytes

def finish (outer : List Container) : Except Fault Value → Step
  | .ok v => deliver outer v
  | .error fault => .broken fault

def startPayload (outer : List Container) (p : Payload) (length : Nat) : Step :=
  if length = 0 then finish outer (valueOfPayload p [])
  else .more ⟨outer, .payload p length []⟩

def finishField (outer : List Container) (f : Field) (n : Nat) : Step :=
  match f with
  | .natural => deliver outer (.int n)
  | .signed width => deliver outer (.int (ofTwosComplement width n))
  | .single => deliver outer (.float (Binary64.ofSingleBits n))
  | .double => deliver outer (.float ⟨UInt64.ofNat n⟩)
  | .textLength => startPayload outer .text n
  | .bytesLength => startPayload outer .bytes n
  | .extLength => startPayload outer .ext ((n + 1) % 2 ^ 32)
  | .itemCount => openList outer n
  | .entryCount => openMap outer n

def onHead (outer : List Container) (b : UInt8) : Step :=
  let n := b.toNat
  let field (f : Field) (width : Nat) : Step := .more ⟨outer, .field f width 0⟩
  if n < 0x80 then deliver outer (.int n)
  else if n < 0x90 then openMap outer (n - 0x80)
  else if n < 0xA0 then openList outer (n - 0x90)
  else if n < 0xC0 then startPayload outer .text (n - 0xA0)
  else if 0xE0 ≤ n then deliver outer (.int ((n : Int) - 256))
  else
    match n with
    | 0xC0 => deliver outer .null
    | 0xC2 => deliver outer (.bool false)
    | 0xC3 => deliver outer (.bool true)
    | 0xC4 => field .bytesLength 1
    | 0xC5 => field .bytesLength 2
    | 0xC6 => field .bytesLength 4
    | 0xC7 => field .extLength 1
    | 0xC8 => field .extLength 2
    | 0xC9 => field .extLength 4
    | 0xCA => field .single 4
    | 0xCB => field .double 8
    | 0xCC => field .natural 1
    | 0xCD => field .natural 2
    | 0xCE => field .natural 4
    | 0xCF => field .natural 8
    | 0xD0 => field (.signed 1) 1
    | 0xD1 => field (.signed 2) 2
    | 0xD2 => field (.signed 4) 4
    | 0xD3 => field (.signed 8) 8
    | 0xD4 => startPayload outer .ext 2
    | 0xD5 => startPayload outer .ext 3
    | 0xD6 => startPayload outer .ext 5
    | 0xD7 => startPayload outer .ext 9
    | 0xD8 => startPayload outer .ext 17
    | 0xD9 => field .textLength 1
    | 0xDA => field .textLength 2
    | 0xDB => field .textLength 4
    | 0xDC => field .itemCount 2
    | 0xDD => field .itemCount 4
    | 0xDE => field .entryCount 2
    | 0xDF => field .entryCount 4
    | _ => .broken .unusedHead

def step (s : Partial) (b : UInt8) : Step :=
  match s.token with
  | .head => onHead s.containers b
  | .field f missing value =>
    let value := 256 * value + b.toNat
    if missing ≤ 1 then finishField s.containers f value
    else .more ⟨s.containers, .field f (missing - 1) value⟩
  | .payload p missing done =>
    if missing ≤ 1 then finish s.containers (valueOfPayload p (b :: done).reverse)
    else .more ⟨s.containers, .payload p (missing - 1) (b :: done)⟩

def framing : Framing where
  State := Partial
  Fault := Fault
  start := Partial.start
  step := step

end RecordStream.MessagePack
