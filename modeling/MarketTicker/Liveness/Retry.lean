import MarketTicker.Span

namespace MarketTicker

structure RetryRule where
  enabled : Bool
  interval : Span
  maxRetries : Nat
  maxDelay : Span
  deriving DecidableEq

namespace RetryRule

def leastInterval : Span :=
  .ofSeconds 5

def longestDelay : Span :=
  .ofSeconds 60

def off : RetryRule :=
  ⟨false, leastInterval, 50, longestDelay⟩

instance : Inhabited RetryRule := ⟨off⟩

def clampInterval (interval : Span) : Span :=
  interval.longer leastInterval

def on (interval : Span) (maxRetries : Nat) : RetryRule :=
  ⟨true, clampInterval interval, maxRetries, longestDelay⟩

def withEnabled (rule : RetryRule) (enabled : Bool) : RetryRule :=
  { rule with enabled }

def withInterval (rule : RetryRule) (interval : Span) : RetryRule :=
  { rule with interval := clampInterval interval }

def withMaxRetries (rule : RetryRule) (maxRetries : Nat) : RetryRule :=
  { rule with maxRetries }

def enable (rule : RetryRule) (interval : Span) (maxRetries : Nat) : RetryRule :=
  { rule with enabled := true, interval := clampInterval interval, maxRetries }

def disable (rule : RetryRule) : RetryRule :=
  { rule with enabled := false }

/-- `2 ^ n`, as long as it is a word of 32 bits. -/
def factor? (n : Nat) : Option Nat :=
  if n < 32 then some (Nat.pow 2 n) else none

/-- The interval doubled once a retry; the longest delay caps it and stands in where it would overflow. -/
def backoff (rule : RetryRule) (retries : Nat) : Span :=
  match (factor? retries).bind rule.interval.times? with
  | some delay => delay.shorter rule.maxDelay
  | none => rule.maxDelay

end RetryRule

structure RetryGrant where
  number : Nat
  delay : Span
  deriving DecidableEq

structure Retry where
  rule : RetryRule
  count : Nat
  deriving DecidableEq, Inhabited

namespace Retry

def start (rule : RetryRule) : Retry :=
  ⟨rule, 0⟩

def reset (r : Retry) : Retry :=
  { r with count := 0 }

def enable (r : Retry) (interval : Span) (maxRetries : Nat) : Retry :=
  { r with rule := r.rule.enable interval maxRetries }

def disable (r : Retry) : Retry :=
  { r with rule := r.rule.disable }

def next (r : Retry) : Option RetryGrant × Retry :=
  if r.rule.maxRetries ≤ r.count then (none, r)
  else
    let number := r.count + 1
    (some ⟨number, r.rule.backoff number⟩, { r with count := number })

end Retry

end MarketTicker
