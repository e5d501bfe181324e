import MarketTicker.Span

namespace MarketTicker

def saturate (n : Int) : Int :=
  max (-9223372036854775808) (min 9223372036854775807 n)

structure Beat where
  interval : Span
  deriving DecidableEq

namespace Beat

def everySecond : Beat :=
  ⟨.ofSeconds 1⟩

instance : Inhabited Beat := ⟨everySecond⟩

def withInterval (interval : Span) : Beat :=
  ⟨interval.longer (.ofMillis 1)⟩

/-- Whole milliseconds between two ticks, at least one. -/
def millis (b : Beat) : Nat :=
  max 1 b.interval.millis

def ticksIn (b : Beat) (span : Span) : Int :=
  saturate (span.millis / b.millis : Nat)

/-- Ticks that a window of time is worth, at least one. -/
def ticksFor (b : Beat) (window : Span) : Int :=
  max 1 (b.ticksIn window)

end Beat

structure Countdown where
  left : Int
  running : Bool
  deriving DecidableEq, Repr, Inhabited

namespace Countdown

inductive Reading where
  | stopped
  | running (left : Int)
  | expired
  deriving DecidableEq, Repr

def idle (ticks : Int) : Countdown :=
  ⟨ticks, false⟩

def seed (c : Countdown) (ticks : Int) : Countdown :=
  { c with left := ticks }

def start (ticks : Int) : Countdown :=
  ⟨ticks, true⟩

def stop (c : Countdown) : Countdown :=
  { c with running := false }

def advance (c : Countdown) (ticks : Int) : Countdown :=
  if c.running then { c with left := max 0 (saturate (c.left - ticks)) } else c

def tick (c : Countdown) : Reading × Countdown :=
  if !c.running then (.stopped, c)
  else
    let left := saturate (c.left - 1)
    if left < 0 then (.expired, ⟨left, false⟩) else (.running left, ⟨left, true⟩)

end Countdown

end MarketTicker
