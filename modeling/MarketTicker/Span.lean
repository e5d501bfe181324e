import MarketTicker.Text.Numeral

namespace MarketTicker

/-- A length of time in nanoseconds, of at most 64 bits of whole seconds. -/
structure Span where
  nanos : Nat
  nanos_lt : nanos < 0x10000000000000000 * 1000000000
  deriving DecidableEq

namespace Span

def ofNanos? (n : Nat) : Option Span :=
  if h : n < 0x10000000000000000 * 1000000000 then some ⟨n, h⟩ else none

def ofSeconds (n : UInt64) : Span :=
  ⟨n.toNat * 1000000000, by have := n.toNat_lt; omega⟩

def ofMillis (n : UInt64) : Span :=
  ⟨n.toNat * 1000000, by have := n.toNat_lt; omega⟩

def seconds (s : Span) : Nat :=
  s.nanos / 1000000000

def millis (s : Span) : Nat :=
  s.nanos / 1000000

def subsecond (s : Span) : Nat :=
  s.nanos % 1000000000

def longer (s t : Span) : Span :=
  if s.nanos ≤ t.nanos then t else s

def shorter (s t : Span) : Span :=
  if s.nanos ≤ t.nanos then s else t

def times? (s : Span) (n : Nat) : Option Span :=
  ofNanos? (s.nanos * n)

theorem nanos_longer (s t : Span) : (s.longer t).nanos = max s.nanos t.nanos := by
  unfold longer
  split <;> omega

theorem nanos_shorter (s t : Span) : (s.shorter t).nanos = min s.nanos t.nanos := by
  unfold shorter
  split <;> omega

def fraction (width n : Nat) : List Char :=
  ((Text.padded width n).reverse.dropWhile (· = '0')).reverse

def inUnit (whole part width : Nat) (unit : List Char) : List Char :=
  Text.numeral whole ++ (if part = 0 then [] else '.' :: fraction width part) ++ unit

/-- In the largest of seconds, milliseconds, microseconds and nanoseconds of which there is one. -/
def spell (s : Span) : List Char :=
  if 1000000000 ≤ s.nanos then inUnit (s.nanos / 1000000000) (s.nanos % 1000000000) 9 ['s']
  else if 1000000 ≤ s.nanos then inUnit (s.nanos / 1000000) (s.nanos % 1000000) 6 ['m', 's']
  else if 1000 ≤ s.nanos then inUnit (s.nanos / 1000) (s.nanos % 1000) 3 ['µ', 's']
  else inUnit s.nanos 0 0 ['n', 's']

def text (s : Span) : String :=
  String.ofList s.spell

end Span

end MarketTicker
