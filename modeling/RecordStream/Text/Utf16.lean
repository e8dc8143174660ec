import RecordStream.Text.Undecodable

/-!
UTF-16 and UTF-32 in both byte orders, read leniently: a surrogate without a partner stands for
itself.
-/

namespace RecordStream

/-- Most significant byte first or last. -/
inductive ByteOrder
  | big
  | little
deriving DecidableEq

namespace Utf16

def scheme : ByteOrder → Scheme
  | .big => .utf16be
  | .little => .utf16le

def unit (order : ByteOrder) (a b : UInt8) : Nat :=
  match order with
  | .big => a.toNat * 256 + b.toNat
  | .little => b.toNat * 256 + a.toNat

def isHigh (u : Nat) : Bool := 0xD800 ≤ u && u < 0xDC00

def isLow (u : Nat) : Bool := 0xDC00 ≤ u && u < 0xE000

def join (high low : Nat) : Nat := 0x10000 + (high - 0xD800) * 1024 + (low - 0xDC00)

/-- The units of the bytes; a byte left over at the end is at fault. -/
def units (order : ByteOrder) (position : Nat) (done : List Nat) :
    Bytes → Except Undecodable (List Nat)
  | [] => .ok done.reverse
  | [a] => .error { scheme := scheme order, position, bytes := [a], reason := .truncated }
  | a :: b :: rest => units order (position + 2) (unit order a b :: done) rest

/-- Joins each high surrogate with a low one right after it. -/
def joinPairs (done : Text) : List Nat → Text
  | [] => done.reverse
  | [u] => joinPairs (CodePoint.ofNat u :: done) []
  | u :: v :: rest =>
    if isHigh u && isLow v then joinPairs (CodePoint.ofNat (join u v) :: done) rest
    else joinPairs (CodePoint.ofNat u :: done) (v :: rest)

/-- The text of the bytes; `start` is the position of the first byte. -/
def decodeLenient (order : ByteOrder) (start : Nat) (bytes : Bytes) : Except Undecodable Text :=
  (units order start [] bytes).map (joinPairs [])

end Utf16

namespace Utf32

def scheme : ByteOrder → Scheme
  | .big => .utf32be
  | .little => .utf32le

def unit (order : ByteOrder) (a b c d : UInt8) : Nat :=
  match order with
  | .big => ((a.toNat * 256 + b.toNat) * 256 + c.toNat) * 256 + d.toNat
  | .little => ((d.toNat * 256 + c.toNat) * 256 + b.toNat) * 256 + a.toNat

def decodeFrom (order : ByteOrder) (position : Nat) (done : Text) :
    Bytes → Except Undecodable Text
  | [] => .ok done.reverse
  | a :: b :: c :: d :: rest =>
    let n := unit order a b c d
    if n < 0x110000 then decodeFrom order (position + 4) (CodePoint.ofNat n :: done) rest
    else
      .error { scheme := scheme order, position, bytes := [a, b, c, d], reason := .outOfRange }
  | bytes => .error { scheme := scheme order, position, bytes, reason := .truncated }

/-- The text of the bytes; `start` is the position of the first byte. -/
def decodeLenient (order : ByteOrder) (start : Nat) (bytes : Bytes) : Except Undecodable Text :=
  decodeFrom order start [] bytes

end Utf32

end RecordStream
