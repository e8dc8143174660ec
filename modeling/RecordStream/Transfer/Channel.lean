import RecordStream.Text.Decimal

/-!
The sending end of a connection. What each attempt to send will do is given beforehand; behind
the given outcomes every attempt takes all it is offered. A channel remembers its attempts. An
attempt lets go of the bytes it was offered; only one that fails may hold on to them, and then
nobody can take them back.
-/

namespace RecordStream

inductive SendOutcome
  /-- At most so many bytes are taken; zero tells that the connection is closed. -/
  | takes (limit : Nat)
  | fails (reason : Text)
deriving DecidableEq

structure Attempt where
  offered : Nat
  taken : Bytes
deriving DecidableEq

structure Channel where
  outcomes : List SendOutcome := []
  /-- The attempts made, the last one first. -/
  attempts : List Attempt := []
  /-- An attempt that fails goes on holding what it was offered. A system's own socket never does. -/
  holdsOffers : Bool := false
deriving DecidableEq

structure SendFault where
  sent : Nat
  total : Nat
  /-- What the system said, or nothing if the connection was closed. -/
  reason : Option Text
deriving DecidableEq

def SendFault.message (f : SendFault) : Text :=
  let place : Text :=
    " after " ++ Decimal.ofNat f.sent ++ " of " ++ Decimal.ofNat f.total ++ " bytes"
  match f.reason with
  | some reason => "Send failed" ++ place ++ ": " ++ reason
  | none => "Connection closed" ++ place

namespace Channel

def taken (c : Channel) : Bytes := c.attempts.reverse.flatMap (·.taken)

def offered (c : Channel) : List Nat := c.attempts.reverse.map (·.offered)

/-- Is what was offered still held behind this fault? A connection that is closed holds nothing. -/
def holds (c : Channel) (f : SendFault) : Bool := c.holdsOffers && f.reason.isSome

/-- What came of sending: the number of all bytes sent, the outcomes left, the attempts made. -/
structure Progress where
  result : Except SendFault Nat
  outcomes : List SendOutcome
  attempts : List Attempt

/-- Sends what is left of `total` bytes after the first `sent` of them. -/
def sendRest (total sent : Nat) (left : Bytes) (attempts : List Attempt) :
    List SendOutcome → Progress
  | [] =>
    if left.isEmpty then ⟨.ok sent, [], attempts⟩
    else ⟨.ok (sent + left.length), [], ⟨left.length, left⟩ :: attempts⟩
  | outcome :: outcomes =>
    if left.isEmpty then ⟨.ok sent, outcome :: outcomes, attempts⟩
    else
      match outcome with
      | .fails reason =>
        ⟨.error ⟨sent, total, some reason⟩, outcomes, ⟨left.length, []⟩ :: attempts⟩
      | .takes limit =>
        let attempts := ⟨left.length, left.take limit⟩ :: attempts
        if limit = 0 then ⟨.error ⟨sent, total, none⟩, outcomes, attempts⟩
        else sendRest total (sent + min limit left.length) (left.drop limit) attempts outcomes

def sendAll (c : Channel) (data : Bytes) : Except SendFault Nat × Channel :=
  let p := sendRest data.length 0 data c.attempts c.outcomes
  (p.result, { c with outcomes := p.outcomes, attempts := p.attempts })

end Channel

end RecordStream
