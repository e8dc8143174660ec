import RecordStream.Record.Basic
import RecordStream.Text.Utf8
import RecordStream.Wire.EncodeFault

/-!
Records in MessagePack: one map of four entries, in which texts carry their length in bytes and
integers take the shortest form. Frames delimit themselves.
-/

namespace RecordStream.MessagePack

def bigEndian : Nat → Nat → Bytes
  | 0, _ => []
  | width + 1, n => bigEndian width (n / 256) ++ [UInt8.ofNat n]

/-- A number below `2 ^ 64` in its shortest form. -/
def natural (n : Nat) : Bytes :=
  if n < 0x80 then [UInt8.ofNat n]
  else if n < 0x100 then 0xCC :: bigEndian 1 n
  else if n < 0x10000 then 0xCD :: bigEndian 2 n
  else if n < 0x100000000 then 0xCE :: bigEndian 4 n
  else 0xCF :: bigEndian 8 n

/-- The negative number `-n` down to `-2 ^ 63` in its shortest form, in two's complement. -/
def negative (n : Nat) : Bytes :=
  if n ≤ 0x20 then [UInt8.ofNat (0x100 - n)]
  else if n ≤ 0x80 then 0xD0 :: bigEndian 1 (0x100 - n)
  else if n ≤ 0x8000 then 0xD1 :: bigEndian 2 (0x10000 - n)
  else if n ≤ 0x80000000 then 0xD2 :: bigEndian 4 (0x100000000 - n)
  else 0xD3 :: bigEndian 8 (0x10000000000000000 - n)

def integer (n : Int) : Except EncodeFault Bytes :=
  if n < 0 then
    if n.natAbs ≤ 0x8000000000000000 then .ok (negative n.natAbs) else .error .integerRange
  else if n.natAbs < 0x10000000000000000 then .ok (natural n.natAbs)
  else .error .integerRange

/-- The head of a text of so many bytes, which are fewer than `2 ^ 32`. -/
def textHead (length : Nat) : Bytes :=
  if length < 0x20 then [UInt8.ofNat (0xA0 + length)]
  else if length < 0x100 then 0xD9 :: bigEndian 1 length
  else if length < 0x10000 then 0xDA :: bigEndian 2 length
  else 0xDB :: bigEndian 4 length

def text (t : Text) : Except EncodeFault Bytes :=
  match Utf8.encode t with
  | .ok bytes =>
    if bytes.length < 0x100000000 then .ok (textHead bytes.length ++ bytes) else .error .textSize
  | .error u => .error (.surrogate u)

def listHead (items : Nat) : UInt8 := UInt8.ofNat (0x90 + items)

/-- A text, or an empty list for a blank. -/
def givenText : Given Text → Except EncodeFault Bytes
  | .value t => text t
  | .blank => .ok [listHead 0]

def mapHead (entries : Nat) : UInt8 := UInt8.ofNat (0x80 + entries)

def frame (r : Record) : Except EncodeFault Bytes := do
  let id ← integer r.id
  let source ← givenText r.source
  let child ← text r.child
  let message ← text r.message
  let name (t : Text) : Bytes := textHead (Utf8.bytes t).length ++ Utf8.bytes t
  return mapHead 4 :: name "id" ++ id ++ name "source" ++ source ++ name "parent"
    ++ mapHead 1 :: name "child" ++ child ++ name "message" ++ message

end RecordStream.MessagePack
