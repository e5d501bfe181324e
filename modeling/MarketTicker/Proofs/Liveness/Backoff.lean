import Mathlib.Algebra.Ring.Nat
import MarketTicker.Proofs.Liveness.Act

namespace MarketTicker

theorem Span.times?_cases (s : Span) (n : Nat) :
    (∃ t, s.times? n = some t ∧ t.nanos = s.nanos * n) ∨
      s.times? n = none ∧ 0x10000000000000000 * 1000000000 ≤ s.nanos * n := by
  unfold times? ofNanos?
  split
  · exact .inl ⟨_, rfl, rfl⟩
  · rename_i h
    exact .inr ⟨rfl, Nat.le_of_not_lt h⟩

theorem RetryRule.nanos_backoff (rule : RetryRule) {k : Nat}
    (hk : k < 32 ∨ rule.maxDelay.nanos ≤ 2 ^ 32 * rule.interval.nanos) :
    (rule.backoff k).nanos = min (2 ^ k * rule.interval.nanos) rule.maxDelay.nanos := by
  have hmax := rule.maxDelay.nanos_lt
  unfold backoff factor?
  by_cases hlt : k < 32
  · rw [if_pos hlt, Option.bind_some, Nat.pow_eq, Nat.mul_comm]
    rcases rule.interval.times?_cases (2 ^ k) with ⟨t, ht, hn⟩ | ⟨ht, hn⟩
    · rw [ht, ← hn]
      exact Span.nanos_shorter _ _
    · rw [ht]
      dsimp only
      omega
  · rw [if_neg hlt, Option.bind_none]
    have hpow : 2 ^ 32 * rule.interval.nanos ≤ 2 ^ k * rule.interval.nanos :=
      Nat.mul_le_mul_right _ (Nat.pow_le_pow_right (by decide) (Nat.le_of_not_lt hlt))
    have := hk.resolve_left hlt
    dsimp only
    omega

theorem Beat.ticksFor_of_millis {b : Beat} {window : Span} (h : window.millis ≤ 0x7FFFFFFFFFFFFFFF) :
    b.ticksFor window = (max 1 (window.millis / b.millis) : Nat) := by
  have := Nat.div_le_self window.millis b.millis
  unfold ticksFor ticksIn saturate
  omega

theorem Beat.millis_of_nanos {b : Beat} {t : Nat} (ht : 1 ≤ t) (h : b.interval.nanos = t * 1000000) :
    b.millis = t := by
  rw [millis, Span.millis, h, Nat.mul_div_cancel _ (by decide)]
  omega

def word? (bits n : Nat) : Option Nat :=
  if n < 2 ^ bits then some n else none

theorem word?_eq_some {bits n : Nat} (h : n < 2 ^ bits) : word? bits n = some n :=
  if_pos h

theorem RetryRule.factor?_eq_word? (k : Nat) : factor? k = word? 32 (2 ^ k) := by
  unfold factor? word?
  simp only [Nat.pow_eq, Nat.pow_lt_pow_iff_right (Nat.lt_succ_self 1)]

/-- `next` with its count kept in 32 bits; `none` where the count would overflow. -/
def Retry.nextInWords? (r : Retry) : Option (Option RetryGrant × Retry) :=
  if r.rule.maxRetries ≤ r.count then some (none, r)
  else (word? 32 (r.count + 1)).map fun number =>
    (some ⟨number, r.rule.backoff number⟩, { r with count := number })

/-- `ticksFor` with milliseconds in 128 bits and ticks in 63; `none` where the milliseconds would overflow or
the divisor is zero. -/
def Beat.ticksForInWords? (b : Beat) (window : Span) : Option Int := do
  let period ← word? 128 b.interval.millis
  let span ← word? 128 window.millis
  if max period 1 = 0 then none
  else return max 1 ((word? 63 (span / max period 1)).getD 0x7FFFFFFFFFFFFFFF)

theorem Span.millis_lt (s : Span) : s.millis < 2 ^ 128 := by
  have := s.nanos_lt
  unfold millis
  omega

theorem Beat.ticksForInWords?_eq (b : Beat) (window : Span) : b.ticksForInWords? window = some (b.ticksFor window) := by
  have hperiod : max b.interval.millis 1 = b.millis := Nat.max_comm _ _
  have hpos : b.millis ≠ 0 := by
    unfold millis
    omega
  have hticks : ((word? 63 (window.millis / b.millis)).getD 0x7FFFFFFFFFFFFFFF : Int) = b.ticksIn window := by
    unfold word? ticksIn saturate
    generalize window.millis / b.millis = ticks
    split
    · rw [Option.getD_some]
      omega
    · rw [Option.getD_none]
      omega
  unfold ticksForInWords?
  rw [word?_eq_some b.interval.millis_lt, word?_eq_some window.millis_lt]
  simp only [Option.bind_eq_bind, Option.bind_some, hperiod, if_neg hpos]
  rw [ticksFor, ← hticks]
  rfl

/-- The rules that can be made, and turned on again. -/
inductive RetryRule.Made : RetryRule → Prop
  | off : Made off
  | on (interval : Span) (maxRetries : UInt32) : Made (on interval maxRetries.toNat)
  | withEnabled {rule : RetryRule} (enabled : Bool) : Made rule → Made (rule.withEnabled enabled)
  | withInterval {rule : RetryRule} (interval : Span) : Made rule → Made (rule.withInterval interval)
  | withMaxRetries {rule : RetryRule} (maxRetries : UInt32) : Made rule → Made (rule.withMaxRetries maxRetries.toNat)

inductive Retry.Reached : Retry → Prop
  | start {rule : RetryRule} : rule.Made → Reached (start rule)
  | reset {r : Retry} : Reached r → Reached r.reset
  | enable {r : Retry} (interval : Span) (maxRetries : UInt32) : Reached r → Reached (r.enable interval maxRetries.toNat)
  | disable {r : Retry} : Reached r → Reached r.disable
  | next {r : Retry} : Reached r → Reached r.next.2

structure RetryRule.Clamped (rule : RetryRule) : Prop where
  interval : leastInterval.nanos ≤ rule.interval.nanos
  maxRetries : rule.maxRetries < 2 ^ 32
  maxDelay : rule.maxDelay = longestDelay

namespace RetryRule

theorem le_clampInterval (interval : Span) : leastInterval.nanos ≤ (clampInterval interval).nanos := by
  rw [clampInterval, Span.nanos_longer]
  exact Nat.le_max_right _ _

theorem Clamped.enable {rule : RetryRule} (h : rule.Clamped) (interval : Span) (maxRetries : UInt32) :
    (rule.enable interval maxRetries.toNat).Clamped :=
  ⟨le_clampInterval interval, maxRetries.toNat_lt, h.maxDelay⟩

theorem Made.clamped {rule : RetryRule} (h : rule.Made) : rule.Clamped := by
  induction h with
  | off => exact ⟨Nat.le_refl _, by decide, rfl⟩
  | on interval maxRetries => exact ⟨le_clampInterval interval, maxRetries.toNat_lt, rfl⟩
  | withEnabled _ _ ih => exact ⟨ih.interval, ih.maxRetries, ih.maxDelay⟩
  | withInterval interval _ ih => exact ⟨le_clampInterval interval, ih.maxRetries, ih.maxDelay⟩
  | withMaxRetries maxRetries _ ih => exact ⟨ih.interval, maxRetries.toNat_lt, ih.maxDelay⟩

theorem Clamped.nanos_backoff {rule : RetryRule} (h : rule.Clamped) (k : Nat) :
    (rule.backoff k).nanos = min (2 ^ k * rule.interval.nanos) 60000000000 := by
  have hlongest : rule.maxDelay.nanos = 60000000000 := by
    rw [h.maxDelay]
    rfl
  have hleast : 5000000000 ≤ rule.interval.nanos := h.interval
  rw [rule.nanos_backoff (.inr (by omega)), hlongest]

end RetryRule

namespace Retry

theorem count_next_lt {r : Retry} (hcount : r.count < 2 ^ 32) (hmax : r.rule.maxRetries < 2 ^ 32) :
    r.next.2.count < 2 ^ 32 := by
  unfold next
  split
  · exact hcount
  · dsimp only
    omega

theorem rule_next (r : Retry) : r.next.2.rule = r.rule := by
  unfold next
  split <;> rfl

/-- The limit can be lowered below the count, but no count passes a limit that was in force. -/
theorem Reached.bounded {r : Retry} (h : r.Reached) : r.rule.Clamped ∧ r.count < 2 ^ 32 := by
  induction h with
  | start hrule => exact ⟨hrule.clamped, Nat.two_pow_pos 32⟩
  | reset _ ih => exact ⟨ih.1, Nat.two_pow_pos 32⟩
  | enable interval maxRetries _ ih => exact ⟨ih.1.enable interval maxRetries, ih.2⟩
  | disable _ ih => exact ⟨⟨ih.1.interval, ih.1.maxRetries, ih.1.maxDelay⟩, ih.2⟩
  | @next r _ ih =>
    rw [rule_next]
    exact ⟨ih.1, count_next_lt ih.2 ih.1.maxRetries⟩

theorem nextInWords?_eq {r : Retry} (h : r.rule.maxRetries < 2 ^ 32) : r.nextInWords? = some r.next := by
  unfold nextInWords? next
  split
  · rfl
  · rw [word?_eq_some (by omega)]
    rfl

/-- Every delay is the interval doubled once a retry, up to a minute; so it never shrinks, and nothing that is
computed on the way to it or to its ticks leaves its word. -/
theorem delays_follow_formula {r : Retry} (h : r.Reached) :
    (∀ k, (r.rule.backoff k).nanos = min (2 ^ k * r.rule.interval.nanos) 60000000000) ∧
      (∀ k, min r.rule.interval.nanos 60000000000 ≤ (r.rule.backoff k).nanos ∧
        (r.rule.backoff k).nanos ≤ 60000000000) ∧
      (∀ j k, j ≤ k → (r.rule.backoff j).nanos ≤ (r.rule.backoff k).nanos) ∧
      (∀ k, RetryRule.factor? k = word? 32 (2 ^ k)) ∧
      r.nextInWords? = some r.next ∧
      ∀ (b : Beat) (window : Span), b.ticksForInWords? window = some (b.ticksFor window) := by
  have hformula := h.bounded.1.nanos_backoff
  refine ⟨hformula, fun k => ?_, fun j k hjk => ?_, RetryRule.factor?_eq_word?, nextInWords?_eq h.bounded.1.maxRetries,
    Beat.ticksForInWords?_eq⟩
  · have hpow : r.rule.interval.nanos ≤ 2 ^ k * r.rule.interval.nanos :=
      Nat.le_mul_of_pos_left _ (Nat.two_pow_pos k)
    rw [hformula]
    omega
  · have hpow : 2 ^ j * r.rule.interval.nanos ≤ 2 ^ k * r.rule.interval.nanos :=
      Nat.mul_le_mul_right _ (Nat.pow_le_pow_right (by decide) hjk)
    rw [hformula, hformula]
    omega

/-- An interval of nearly 600 billion years, and as many retries as 32 bits can count. -/
theorem delays_follow_formula_of_longest :
    let r := (start .off).enable ⟨0x10000000000000000 * 1000000000 - 1, by decide⟩ 0xFFFFFFFF
    r.Reached ∧ (∀ k, (r.rule.backoff k).nanos = 60000000000) ∧ r.nextInWords? = some r.next := by
  intro r
  have hreached : r.Reached := .enable _ 0xFFFFFFFF (.start .off)
  obtain ⟨_, hbounds, _, _, hwords, _⟩ := delays_follow_formula hreached
  have hinterval : 60000000000 ≤ r.rule.interval.nanos := by decide
  refine ⟨hreached, fun k => ?_, hwords⟩
  have := hbounds k
  omega

end Retry

end MarketTicker
