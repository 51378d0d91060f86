import ChangeFeed.Config.Basic
import ChangeFeed.Offsets.Codec

/-!
# What a reader is told

Everything that a stream reader needs to start streaming, and what it answers when it is joined.
-/

namespace ChangeFeed

/-- Everything that a reader needs to start streaming (`ReaderContext`). A partition without a saved
position starts where the reader sees fit. The properties are there for settings that only the
reader knows. -/
structure ReaderContext where
  taskName : String
  config : FeedConfig
  properties : Properties
  partitions : List UInt16
  positions : Positions
deriving Repr, DecidableEq

/-- What a feed tells its reader. -/
def ReaderContext.of (config : FeedConfig) (properties : Properties) (positions : Positions) :
    ReaderContext :=
  { taskName := config.name, config, properties, partitions := config.partitions, positions }

/-- Whether a reader was seen to have ended (`JoinStatus`). -/
inductive JoinStatus where
  | finished
  | stillRunning
deriving Repr, DecidableEq

/-- The name of an answer. -/
def JoinStatus.name : JoinStatus → String
  | finished => "finished"
  | stillRunning => "still_running"

/-- A span of time. It is as long as may be: that a clock can tell no time so far off is left to
whoever chooses the span. -/
structure Span where
  nanoseconds : Nat
deriving Repr, DecidableEq

namespace Span

/-- A span of milliseconds. -/
def ofMillis (n : Nat) : Span := ⟨n * 1000000⟩

/-- Whether the span is over before it began. -/
def isZero (s : Span) : Bool := s.nanoseconds == 0

/-- The shorter of two spans. -/
def min (a b : Span) : Span := if a.nanoseconds ≤ b.nanoseconds then a else b

/-- What is left of a span. -/
def minus (a b : Span) : Span := ⟨a.nanoseconds - b.nanoseconds⟩

/-- A count of `n` parts of which `unit` make a whole, as a whole number and a fraction without
zeros at its end. -/
def inUnits (n unit : Nat) : List Char :=
  let places := (Nat.toDigits 10 unit).length - 1
  let digits := Nat.toDigits 10 (n % unit)
  let padded := List.replicate (places - digits.length) '0' ++ digits
  let fraction := (padded.reverse.dropWhile (· == '0')).reverse
  Nat.toDigits 10 (n / unit) ++ (if n % unit = 0 then [] else '.' :: fraction)

/-- The text of a span, in the largest unit of which it holds a whole one. -/
def text (s : Span) : String :=
  let n := s.nanoseconds
  if 1000000000 ≤ n then String.ofList (inUnits n 1000000000) ++ "s"
  else if 1000000 ≤ n then String.ofList (inUnits n 1000000) ++ "ms"
  else if 1000 ≤ n then String.ofList (inUnits n 1000) ++ "µs"
  else String.ofList (Nat.toDigits 10 n) ++ "ns"

end Span

end ChangeFeed
