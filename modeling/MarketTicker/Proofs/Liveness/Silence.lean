import Mathlib.Data.List.Induction
import MarketTicker.Proofs.Liveness.Act

namespace MarketTicker.Link

inductive Sign where
  | tick
  | data
  deriving DecidableEq

namespace Sign

def act : Sign → Act
  | .tick => .tick
  | .data => .dataReceived

def count (n : Nat) : Sign → Nat
  | .tick => n + 1
  | .data => 0

end Sign

def silence (signs : List Sign) : Nat :=
  signs.foldl Sign.count 0

theorem silence_concat (signs : List Sign) (x : Sign) : silence (signs ++ [x]) = x.count (silence signs) := by
  rw [silence, List.foldl_append]
  rfl

theorem replicate_suffix_iff {k : Nat} {signs : List Sign} :
    List.replicate k .tick <:+ signs ↔ k ≤ silence signs := by
  induction signs using List.reverseRecOn generalizing k with
  | nil => simp [silence, List.suffix_nil, List.replicate_eq_nil_iff]
  | append_singleton signs x ih =>
    rw [silence_concat]
    cases k with
    | zero => simp
    | succ k =>
      rw [List.replicate_succ', List.suffix_concat_iff]
      cases x with
      | tick =>
        have hlast : (∃ t, List.replicate k .tick ++ [Sign.tick] = t ++ [.tick] ∧ t <:+ signs) ↔ k ≤ silence signs := by
          rw [← ih]
          simp
        simpa [Sign.count] using hlast
      | data => simp [Sign.count]

/-- After a connection was made, so many ticks have come since it was, or since the last data. -/
structure Listening (l : Link) (n : Nat) (m : Link) : Prop where
  link : m = { l.connectSucceeded with countdown := ⟨l.window - n, true⟩ }
  within : (n : Int) ≤ l.window

inductive Alarm (l : Link) : Demand → Prop
  | timedOut : l.retryEnabled = false → Alarm l .timeOut
  | redial : l.retryEnabled = true → 0 < l.retry.rule.maxRetries → Alarm l (.redial 1 (l.retry.rule.backoff 1))
  | gaveUp : l.retryEnabled = true → l.retry.rule.maxRetries = 0 → Alarm l .giveUp

namespace Listening

variable {l m : Link} {n : Nat}

theorem connectSucceeded (l : Link) : Listening l 0 l.connectSucceeded := by
  have hw := l.beat.one_le_ticksFor l.retry.rule.interval
  refine ⟨?_, Int.le_of_lt hw⟩
  rw [Int.natCast_zero, Int.sub_zero]
  rfl

theorem data (h : Listening l n m) : Listening l 0 m.dataReceived := by
  have hw := l.beat.one_le_ticksFor l.retry.rule.interval
  refine ⟨?_, Int.le_of_lt hw⟩
  rw [h.link, Int.natCast_zero, Int.sub_zero]
  rfl

theorem tick (h : Listening l n m) (hn : (n : Int) < l.window) : m.tick.1 = .nothing ∧ Listening l (n + 1) m.tick.2 := by
  have hmax := l.beat.ticksFor_le l.retry.rule.interval
  have hleft : saturate (l.window - n - 1) = l.window - (n + 1 : Nat) := by
    rw [saturate_of_mem (by omega) (by unfold window; omega)]
    omega
  have ht := m.ticked
  rw [h.link] at ht ⊢
  generalize Link.tick _ = ticked at ht ⊢
  obtain ⟨d, m'⟩ := ticked
  dsimp only at ht
  cases ht with
  | closing hp => cases hp
  | stopped _ hr => cases hr
  | counted => exact ⟨rfl, by rw [hleft], by omega⟩
  | timedOut _ _ hle => dsimp only at hle; omega
  | redialled _ _ hle => dsimp only at hle; omega
  | gaveUp _ _ hle => dsimp only at hle; omega

theorem alarm (h : Listening l n m) (hn : (n : Int) = l.window) :
    Alarm l m.tick.1 ∧ m.tick.2.phase = .disconnected := by
  have ht := m.ticked
  rw [h.link] at ht ⊢
  generalize Link.tick _ = ticked at ht ⊢
  obtain ⟨d, m'⟩ := ticked
  dsimp only at ht
  cases ht with
  | closing hp => cases hp
  | stopped _ hr => cases hr
  | counted _ _ hlt => dsimp only at hlt; omega
  | timedOut _ _ _ he => exact ⟨.timedOut he, rfl⟩
  | redialled _ _ _ he hmax => exact ⟨.redial he hmax, rfl⟩
  | gaveUp _ _ _ he hmax => exact ⟨.gaveUp he (Nat.le_zero.1 hmax), rfl⟩

end Listening

theorem phase_sign {m : Link} (h : m.phase = .disconnected) (x : Sign) : (m.act x.act).2.phase = .disconnected := by
  cases x with
  | tick =>
    rcases m.phase_tick with ⟨_, hp⟩ | ⟨_, hp⟩
    · exact hp.trans h
    · exact hp
  | data => exact h

/-- The connection is up as long as silence has not outlasted the window. -/
inductive Hearing (l : Link) (signs : List Sign) (m : Link) : Prop
  | up : ¬List.replicate (l.window.toNat + 1) .tick <:+: signs → Listening l (silence signs) m → Hearing l signs m
  | down : List.replicate (l.window.toNat + 1) .tick <:+: signs → m.phase = .disconnected → Hearing l signs m

theorem Hearing.sign {l m : Link} {signs : List Sign} (h : Hearing l signs m) (x : Sign) :
    Hearing l (signs ++ [x]) (m.act x.act).2 := by
  have hw := l.beat.one_le_ticksFor l.retry.rule.interval
  have hwindow : (l.window.toNat : Int) = l.window := Int.toNat_of_nonneg (by unfold window; omega)
  cases h with
  | down hlong hp => exact .down (List.infix_concat_iff.2 (.inr hlong)) (phase_sign hp x)
  | up hshort hl =>
    have hlong : List.replicate (l.window.toNat + 1) .tick <:+: signs ++ [x] ↔
        l.window.toNat + 1 ≤ silence (signs ++ [x]) := by
      rw [List.infix_concat_iff, replicate_suffix_iff]
      simp [hshort]
    have hwithin := hl.within
    rw [silence_concat] at hlong
    cases x with
    | data =>
      refine .up (fun hx => absurd (hlong.1 hx) (Nat.not_succ_le_zero _)) ?_
      rw [silence_concat]
      exact hl.data
    | tick =>
      by_cases hn : (silence signs : Int) = l.window
      · exact .down (hlong.2 (by rw [Sign.count]; omega)) (hl.alarm hn).2
      · refine .up (fun hx => ?_) ?_
        · have := hlong.1 hx
          rw [Sign.count] at this
          omega
        · rw [silence_concat]
          exact (hl.tick (by omega)).2

theorem hearing (l : Link) (signs : List Sign) : Hearing l signs (l.connectSucceeded.after (signs.map Sign.act)) := by
  induction signs using List.reverseRecOn with
  | nil => exact .up (by simp) (.connectSucceeded l)
  | append_singleton signs x ih =>
    rw [List.map_append, after_append]
    exact ih.sign x

/-- As long as the connection is up, a tick raises the alarm if and only if it is the one behind as many ticks
without data as the window has; the connection is up as long as none has. -/
theorem silence_noticed_exactly (l : Link) (signs : List Sign) :
    let w := (l.beat.ticksFor l.retry.rule.interval).toNat
    let m := l.connectSucceeded.after (signs.map Sign.act)
    (m.phase = .connected →
      (m.tick.1 ≠ .nothing ↔ silence (signs ++ [.tick]) = w + 1) ∧ (m.tick.1 ≠ .nothing → Alarm l m.tick.1)) ∧
      (m.phase = .connected ↔ ¬List.replicate (w + 1) .tick <:+: signs) ∧
      (¬List.replicate w .tick <:+: signs → m.phase = .connected) := by
  intro w m
  have hw := l.beat.one_le_ticksFor l.retry.rule.interval
  have hwindow : (w : Int) = l.window := Int.toNat_of_nonneg (by omega)
  have h : Hearing l signs m := hearing l signs
  have hiff : m.phase = .connected ↔ ¬List.replicate (w + 1) .tick <:+: signs := by
    cases h with
    | up hshort hl => exact ⟨fun _ => hshort, fun _ => by rw [hl.link]; rfl⟩
    | down hlong hp =>
      have hdown : m.phase ≠ .connected := by simp [hp]
      exact ⟨fun hup => absurd hup hdown, fun hshort => absurd hlong hshort⟩
  refine ⟨fun hup => ?_, hiff, fun hshort => hiff.2 fun hlong => hshort ?_⟩
  · cases h with
    | down _ hp => rw [hp] at hup; cases hup
    | up _ hl =>
      have hwithin := hl.within
      rw [silence_concat, Sign.count]
      by_cases hn : (silence signs : Int) = l.window
      · have halarm := (hl.alarm hn).1
        refine ⟨⟨fun _ => by omega, fun _ hnone => ?_⟩, fun _ => halarm⟩
        rw [hnone] at halarm
        cases halarm
      · have hnone := (hl.tick (by omega)).1
        exact ⟨⟨fun hx => absurd hnone hx, fun hx => by omega⟩, fun hx => absurd hnone hx⟩
  · have hinfix : List.replicate w Sign.tick <:+: List.replicate (w + 1) .tick := by
      rw [List.replicate_succ]
      exact (List.suffix_cons _ _).isInfix
    exact hinfix.trans hlong

theorem silence_noticed_exactly_of_late_data :
    let l := start (.on (.ofSeconds 5) 3) .everySecond
    let signs : List Sign := [.tick, .tick, .tick, .tick, .tick, .data, .tick, .tick, .tick, .tick, .tick]
    let m := l.connectSucceeded.after (signs.map Sign.act)
    m.phase = .connected ∧ m.tick.1 ≠ .nothing ∧ Alarm l m.tick.1 ∧ ¬List.replicate 6 .tick <:+: signs := by
  intro l signs m
  have hup : m.phase = .connected := by decide
  obtain ⟨htick, hshort, _⟩ := silence_noticed_exactly l signs
  obtain ⟨hiff, halarm⟩ := htick hup
  have hnoticed : m.tick.1 ≠ .nothing := hiff.2 (by decide)
  have hwindow : (l.beat.ticksFor l.retry.rule.interval).toNat + 1 = 6 := by decide
  exact ⟨hup, hnoticed, halarm hnoticed, hwindow ▸ hshort.1 hup⟩

/-- Once the connection is given up, ticks count for the next attempt or not at all. -/
theorem later_ticks_count_otherwise :
    let on := start (.on (.ofSeconds 5) 3) .everySecond
    let off := start .off .everySecond
    let ticks := List.replicate 16 Sign.tick
    let revived := List.replicate 6 Sign.tick ++ [.data] ++ List.replicate 5 .tick
    on.beat.ticksFor on.retry.rule.interval = 5 ∧ off.beat.ticksFor off.retry.rule.interval = 5 ∧
      silence (ticks ++ [.tick]) = 17 ∧
      (on.connectSucceeded.after (ticks.map Sign.act)).tick.1 = .redial 2 (.ofSeconds 20) ∧
      silence (revived ++ [.tick]) = 6 ∧ (off.connectSucceeded.after (revived.map Sign.act)).tick.1 = .nothing := by
  decide

end MarketTicker.Link
