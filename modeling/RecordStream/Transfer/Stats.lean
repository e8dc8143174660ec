import RecordStream.Binary64.Number

/-! What a run sent or received, how long it took, and how fast it was. -/

namespace RecordStream

/-- The two readings of the clock around a run. -/
structure Stopwatch where
  start : Binary64
  stop : Binary64
deriving DecidableEq

def Stopwatch.elapsed (w : Stopwatch) : Binary64 := w.stop.sub w.start

structure EmitStats where
  messages : Int
  bytesSent : Int
  elapsed : Number
deriving DecidableEq

namespace EmitStats

/-- Messages in a second, zero if no time passed. -/
def rate (s : EmitStats) : Except QuotientFault Binary64 :=
  if s.elapsed.isPositive then s.elapsed.divide s.messages else .ok Binary64.zero

def bytesInMegabyte : Int := 1048576

/-- Megabytes in a second, zero if no time passed. -/
def throughput (s : EmitStats) : Except QuotientFault Binary64 :=
  if s.elapsed.isAtMostZero then .ok Binary64.zero
  else
    match Number.divInt s.bytesSent bytesInMegabyte, s.elapsed.toBinary64 with
    | .error fault, _ => .error fault
    | .ok _, .error fault => .error fault
    | .ok megabytes, .ok elapsed => .ok (megabytes.div elapsed)

end EmitStats

structure SinkStats where
  records : Int := 0
  dropped : Int := 0
  bytesReceived : Int := 0
  elapsed : Number := .float Binary64.zero
deriving DecidableEq

/-- Records in a second, zero if no time passed. -/
def SinkStats.rate (s : SinkStats) : Except QuotientFault Binary64 :=
  if s.elapsed.isPositive then s.elapsed.divide s.records else .ok Binary64.zero

end RecordStream
