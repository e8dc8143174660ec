import RecordStream.Text.Undecodable

/-!
UTF-8. Strict reading refuses surrogates; lenient reading takes each three-byte form of a
surrogate as that surrogate. The bytes at fault are the longest start of a well-formed sequence,
or a single byte.
-/

namespace RecordStream.Utf8

/-- The bytes of one code point; surrogates get the three-byte form. -/
def encodeCodePoint (c : CodePoint) : Bytes :=
  let n := c.val
  if n < 0x80 then [UInt8.ofNat n]
  else if n < 0x800 then [UInt8.ofNat (0xC0 + n / 64), UInt8.ofNat (0x80 + n % 64)]
  else if n < 0x10000 then
    [UInt8.ofNat (0xE0 + n / 4096), UInt8.ofNat (0x80 + n / 64 % 64), UInt8.ofNat (0x80 + n % 64)]
  else
    [UInt8.ofNat (0xF0 + n / 262144), UInt8.ofNat (0x80 + n / 4096 % 64),
      UInt8.ofNat (0x80 + n / 64 % 64), UInt8.ofNat (0x80 + n % 64)]

/-- The bytes of a text, surrogates included. -/
def bytes (t : Text) : Bytes := t.flatMap encodeCodePoint

/-- The first run of surrogates of a text. -/
def unencodable? (t : Text) : Option Unencodable :=
  match t.dropWhile (!CodePoint.isSurrogate ·) with
  | [] => none
  | c :: rest =>
    some { position := (t.takeWhile (!CodePoint.isSurrogate ·)).length
           length := 1 + (rest.takeWhile CodePoint.isSurrogate).length
           first := c }

def encode (t : Text) : Except Unencodable Bytes :=
  match unencodable? t with
  | none => .ok (bytes t)
  | some u => .error u

def isTail (b : UInt8) : Bool := 0x80 ≤ b.toNat && b.toNat < 0xC0

def tailBits (b : UInt8) : Nat := b.toNat % 64

/-- Reads on after `position` bytes whose text is `done`, last code point first. -/
def decodeFrom (lenient : Bool) (position : Nat) (done : Text) : Bytes → Except Undecodable Text
  | [] => .ok done.reverse
  | a :: r₁ =>
    let fault (bytes : Bytes) (reason : Undecodable.Reason) : Except Undecodable Text :=
      .error { scheme := .utf8, position, bytes, reason }
    let n := a.toNat
    if n < 0x80 then decodeFrom lenient (position + 1) (CodePoint.ofNat n :: done) r₁
    else if n < 0xC2 ∨ 0xF5 ≤ n then fault [a] .invalidStart
    else
      match r₁ with
      | [] => fault [a] .unexpectedEnd
      | b :: r₂ =>
        if n < 0xE0 then
          if isTail b then
            decodeFrom lenient (position + 2)
              (CodePoint.ofNat ((n - 0xC0) * 64 + tailBits b) :: done) r₂
          else fault [a] .invalidContinuation
        else if n < 0xF0 then
          let surrogate := n = 0xED ∧ 0xA0 ≤ b.toNat
          if !isTail b ∨ (n = 0xE0 ∧ b.toNat < 0xA0) ∨ (surrogate ∧ !lenient) then
            fault [a] .invalidContinuation
          else
            match r₂ with
            | [] =>
              if surrogate then fault [a] .invalidContinuation else fault [a, b] .unexpectedEnd
            | c :: r₃ =>
              if isTail c then
                decodeFrom lenient (position + 3)
                  (CodePoint.ofNat ((n - 0xE0) * 4096 + tailBits b * 64 + tailBits c) :: done) r₃
              else if surrogate then fault [a] .invalidContinuation
              else fault [a, b] .invalidContinuation
        else if !isTail b ∨ (n = 0xF0 ∧ b.toNat < 0x90) ∨ (n = 0xF4 ∧ 0x90 ≤ b.toNat) then
          fault [a] .invalidContinuation
        else
          match r₂ with
          | [] => fault [a, b] .unexpectedEnd
          | c :: r₃ =>
            if !isTail c then fault [a, b] .invalidContinuation
            else
              match r₃ with
              | [] => fault [a, b, c] .unexpectedEnd
              | d :: r₄ =>
                if isTail d then
                  decodeFrom lenient (position + 4)
                    (CodePoint.ofNat ((n - 0xF0) * 262144 + tailBits b * 4096 + tailBits c * 64
                      + tailBits d) :: done) r₄
                else fault [a, b, c] .invalidContinuation

def decode (bytes : Bytes) : Except Undecodable Text := decodeFrom false 0 [] bytes

def decodeLenient (bytes : Bytes) : Except Undecodable Text := decodeFrom true 0 [] bytes

end RecordStream.Utf8
