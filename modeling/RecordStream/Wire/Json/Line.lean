import RecordStream.Text.Quoted
import RecordStream.Text.Utf8
import RecordStream.Wire.Framing
import RecordStream.Wire.Json.Reader

/-!
Lines of JSON. A line is a frame and ends with a line end; lines of blanks hold nothing. The
text of a line may be in UTF-8, UTF-16 or UTF-32, which its first bytes tell.
-/

namespace RecordStream.Json

/-- How the bytes of a line are read as text: the scheme, and how many bytes of a byte order mark
stand in front. -/
inductive LineScheme
  | utf8
  | markedUtf8
  | utf16 (order : ByteOrder) (mark : Nat)
  | utf32 (order : ByteOrder) (mark : Nat)
deriving DecidableEq

/-- A byte order mark decides; without one the zero bytes around the first character, which is
ASCII in every JSON text, do. -/
def schemeOf (line : Bytes) : LineScheme :=
  match line with
  | 0x00 :: 0x00 :: 0xFE :: 0xFF :: _ => .utf32 .big 4
  | 0xFF :: 0xFE :: 0x00 :: 0x00 :: _ => .utf32 .little 4
  | 0xFE :: 0xFF :: _ => .utf16 .big 2
  | 0xFF :: 0xFE :: _ => .utf16 .little 2
  | 0xEF :: 0xBB :: 0xBF :: _ => .markedUtf8
  | [a, b] => if a = 0 then .utf16 .big 0 else if b = 0 then .utf16 .little 0 else .utf8
  | a :: b :: c :: d :: _ =>
    if a = 0 then if b = 0 then .utf32 .big 0 else .utf16 .big 0
    else if b = 0 then if c = 0 ∧ d = 0 then .utf32 .little 0 else .utf16 .little 0
    else .utf8
  | _ => .utf8

/-- The text of a line. Positions count from behind the mark in UTF-8 and from the first byte in
the other schemes. -/
def textOf (line : Bytes) : Except Undecodable Text :=
  match schemeOf line with
  | .utf8 => Utf8.decodeLenient line
  | .markedUtf8 => Utf8.decodeLenient (line.drop 3)
  | .utf16 order mark => Utf16.decodeLenient order mark (line.drop mark)
  | .utf32 order mark => Utf32.decodeLenient order mark (line.drop mark)

inductive LineFault
  | text (u : Undecodable)
  | syntaxFault (f : SyntaxFault)
deriving DecidableEq

def LineFault.message : LineFault → Text
  | .text u => u.message
  | .syntaxFault f => f.message

def readLine (line : Bytes) : Except LineFault Value :=
  match textOf line with
  | .error u => .error (.text u)
  | .ok t =>
    match read t with
    | .ok v => .ok v
    | .error f => .error (.syntaxFault f)

/-- A blank, a tab, or a line, page or carriage control. -/
def isBlankByte (b : UInt8) : Bool := b = 0x20 || (0x09 ≤ b && b ≤ 0x0D)

structure Fault where
  line : Bytes
  cause : LineFault
deriving DecidableEq

/-- The message shows the first bytes of the line. -/
def Fault.message (f : Fault) : Text :=
  "Malformed JSON line " ++ Bytes.quoted (f.line.take 64) ++ ": " ++ f.cause.message

def finishLine (line : Bytes) : Progress Bytes Fault :=
  if line.all isBlankByte then .blank
  else
    match readLine line with
    | .ok v => .object v
    | .error cause => .refused { line, cause }

/-- The state is the line so far, its last byte first. -/
def step (line : Bytes) (b : UInt8) : Progress Bytes Fault :=
  if b = 0x0A then finishLine line.reverse else .more (b :: line)

def framing : Framing where
  State := Bytes
  Fault := Fault
  start := []
  step := step

end RecordStream.Json
