import MarketTicker.Proofs.Liveness.Link

namespace MarketTicker

theorem saturate_neg_iff (n : Int) : saturate n < 0 ↔ n < 0 := by
  unfold saturate
  omega

theorem saturate_of_mem {n : Int} (h : 0 ≤ n) (h' : n ≤ 9223372036854775807) : saturate n = n := by
  unfold saturate
  omega

namespace Beat

theorem ticksIn_nonneg (b : Beat) (span : Span) : 0 ≤ b.ticksIn span := by
  unfold ticksIn saturate
  have := Int.natCast_nonneg (span.millis / b.millis)
  omega

theorem one_le_ticksFor (b : Beat) (window : Span) : 1 ≤ b.ticksFor window :=
  Int.le_max_left _ _

theorem ticksFor_le (b : Beat) (window : Span) : b.ticksFor window ≤ 9223372036854775807 := by
  unfold ticksFor ticksIn saturate
  omega

end Beat

namespace Link

def Demand.attempt? : Demand → Option Nat
  | .redial attempt _ => some attempt
  | _ => none

inductive Act where
  | beginConnect
  | connectSucceeded
  | connectFailed
  | dataReceived
  | connectionLost
  | tick
  | elapsed (span : Span)
  | close
  | enableRetry (interval : Span) (maxRetries : Nat)
  | disableRetry
  deriving DecidableEq

/-- What an act demands, and the link after it. Only a tick demands anything, and nothing begins where a
connection is made or held. -/
def act (l : Link) : Act → Demand × Link
  | .beginConnect => (.nothing, l.beginConnect?.getD l)
  | .connectSucceeded => (.nothing, l.connectSucceeded)
  | .connectFailed => (.nothing, l.connectFailed)
  | .dataReceived => (.nothing, l.dataReceived)
  | .connectionLost => (.nothing, l.connectionLost)
  | .tick => l.tick
  | .elapsed span => (.nothing, l.elapsed span)
  | .close => (.nothing, l.close)
  | .enableRetry interval maxRetries => (.nothing, l.enableRetry interval maxRetries)
  | .disableRetry => (.nothing, l.disableRetry)

def after (l : Link) : List Act → Link
  | [] => l
  | a :: as => (l.act a).2.after as

def demands (l : Link) : List Act → List Demand
  | [] => []
  | a :: as => (l.act a).1 :: (l.act a).2.demands as

theorem after_append (l : Link) (as bs : List Act) : l.after (as ++ bs) = (l.after as).after bs := by
  induction as generalizing l with
  | nil => rfl
  | cons a as ih => exact ih (l.act a).2

theorem armForRetry_eq (l : Link) : ∃ countdown, l.armForRetry = { l with countdown } := by
  unfold armForRetry
  split
  · exact ⟨_, rfl⟩
  · split
    · split
      · exact ⟨_, rfl⟩
      · exact ⟨_, rfl⟩
    · exact ⟨_, rfl⟩

def redialled (l : Link) : Link :=
  { l with
    phase := .disconnected, retry := { l.retry with count := l.retry.count + 1 }
    countdown := .start (l.beat.ticksFor (l.retry.rule.backoff (l.retry.count + 1))) }

@[simp] theorem phase_redialled (l : Link) : l.redialled.phase = .disconnected := rfl

inductive Ticked (l : Link) : Demand → Link → Prop
  | closing : l.phase = .closing → Ticked l .nothing { l with countdown := l.countdown.stop }
  | stopped : l.phase ≠ .closing → l.countdown.running = false → Ticked l .nothing l
  | counted : l.phase ≠ .closing → l.countdown.running = true → 0 < l.countdown.left →
      Ticked l .nothing { l with countdown := ⟨saturate (l.countdown.left - 1), true⟩ }
  | timedOut : l.phase ≠ .closing → l.countdown.running = true → l.countdown.left ≤ 0 →
      l.retryEnabled = false →
      Ticked l .timeOut
        { l with phase := .disconnected, countdown := ⟨saturate (l.countdown.left - 1), false⟩ }
  | redialled : l.phase ≠ .closing → l.countdown.running = true → l.countdown.left ≤ 0 →
      l.retryEnabled = true → l.retry.count < l.retry.rule.maxRetries →
      Ticked l (.redial (l.retry.count + 1) (l.retry.rule.backoff (l.retry.count + 1))) l.redialled
  | gaveUp : l.phase ≠ .closing → l.countdown.running = true → l.countdown.left ≤ 0 →
      l.retryEnabled = true → l.retry.rule.maxRetries ≤ l.retry.count →
      Ticked l .giveUp
        { l with
          phase := .disconnected, retry := l.retry.disable
          countdown := ⟨saturate (l.countdown.left - 1), false⟩ }

theorem ticked (l : Link) : Ticked l l.tick.1 l.tick.2 := by
  unfold tick
  split
  · rename_i hp
    exact .closing hp
  · rename_i hp
    unfold Countdown.tick
    cases hr : l.countdown.running with
    | false => exact .stopped hp hr
    | true =>
      by_cases hl : saturate (l.countdown.left - 1) < 0
      · have hle : l.countdown.left ≤ 0 := by
          have := (saturate_neg_iff _).1 hl
          omega
        simp only [Bool.not_true, Bool.false_eq_true, if_false, if_pos hl]
        cases he : l.retryEnabled with
        | false =>
          rw [expired]
          simp only [retryEnabled] at he
          simp only [retryEnabled, he]
          exact .timedOut hp hr hle he
        | true =>
          have he' : l.retry.rule.enabled = true := he
          by_cases hm : l.retry.rule.maxRetries ≤ l.retry.count
          · simp only [expired, retryEnabled, he', Retry.next, if_pos hm]
            exact .gaveUp hp hr hle he hm
          · simp only [expired, retryEnabled, he', Retry.next, if_neg hm]
            exact .redialled hp hr hle he (Nat.lt_of_not_le hm)
      · have hlt : 0 < l.countdown.left := by
          have := mt (saturate_neg_iff _).2 hl
          omega
        simp only [Bool.not_true, Bool.false_eq_true, if_false, if_neg hl]
        exact .counted hp hr hlt

theorem connectFailed_eq (l : Link) : ∃ phase countdown, l.connectFailed = { l with phase, countdown } := by
  unfold connectFailed
  split
  · obtain ⟨countdown, hc⟩ := armForRetry_eq { l with phase := .disconnected }
    exact ⟨_, countdown, hc⟩
  · obtain ⟨countdown, hc⟩ := armForRetry_eq l
    exact ⟨_, countdown, hc⟩

theorem connectionLost_eq (l : Link) : ∃ phase countdown, l.connectionLost = { l with phase, countdown } := by
  unfold connectionLost
  split
  · obtain ⟨countdown, hc⟩ := armForRetry_eq { l with phase := .disconnected }
    exact ⟨_, countdown, hc⟩
  · obtain ⟨countdown, hc⟩ := armForRetry_eq l
    exact ⟨_, countdown, hc⟩

theorem enableRetry_eq (l : Link) (interval : Span) (maxRetries : Nat) :
    ∃ countdown, l.enableRetry interval maxRetries =
      { l with retry := l.retry.enable interval maxRetries, countdown } := by
  unfold enableRetry
  dsimp only
  split
  · exact ⟨_, rfl⟩
  · exact ⟨_, rfl⟩

inductive Acted (l : Link) : Act → Demand → Link → Prop
  | tick {d : Demand} {l' : Link} : Ticked l d l' → Acted l .tick d l'
  | connected : Acted l .connectSucceeded .nothing l.connectSucceeded
  | enabled (interval : Span) (maxRetries : Nat) (countdown : Countdown) :
      Acted l (.enableRetry interval maxRetries) .nothing
        { l with retry := l.retry.enable interval maxRetries, countdown }
  | disabled (countdown : Countdown) :
      Acted l .disableRetry .nothing { l with retry := l.retry.disable, countdown }
  | passive {a : Act} (phase : Phase) (countdown : Countdown) : a ≠ .connectSucceeded →
      (∀ interval maxRetries, a ≠ .enableRetry interval maxRetries) →
      Acted l a .nothing { l with phase, countdown }

theorem acted (l : Link) (a : Act) : Acted l a (l.act a).1 (l.act a).2 := by
  cases a with
  | tick => exact .tick l.ticked
  | connectSucceeded => exact .connected
  | disableRetry => exact .disabled _
  | enableRetry interval maxRetries =>
    obtain ⟨countdown, hl⟩ := l.enableRetry_eq interval maxRetries
    rw [act, hl]
    exact .enabled interval maxRetries countdown
  | beginConnect =>
    cases hb : l.beginConnect? with
    | none =>
      rw [act, hb]
      exact .passive l.phase l.countdown (by simp) (by simp)
    | some l' =>
      obtain ⟨_, rfl⟩ := beginConnect?_eq_some hb
      rw [act, hb]
      exact .passive _ l.countdown (by simp) (by simp)
  | connectFailed =>
    obtain ⟨phase, countdown, hl⟩ := l.connectFailed_eq
    rw [act, hl]
    exact .passive phase countdown (by simp) (by simp)
  | connectionLost =>
    obtain ⟨phase, countdown, hl⟩ := l.connectionLost_eq
    rw [act, hl]
    exact .passive phase countdown (by simp) (by simp)
  | elapsed span =>
    unfold act elapsed
    dsimp only
    split
    · exact .passive l.phase l.countdown (by simp) (by simp)
    · exact .passive l.phase _ (by simp) (by simp)
  | dataReceived => exact .passive l.phase _ (by simp) (by simp)
  | close => exact .passive .closing _ (by simp) (by simp)

theorem connectFailed_of_running {l : Link} (hp : l.phase = .connecting) (he : l.retryEnabled = true)
    (hr : l.countdown.running = true) : l.connectFailed = { l with phase := .disconnected } := by
  have he' : ({ l with phase := .disconnected } : Link).retryEnabled = true := he
  unfold connectFailed armForRetry
  rw [if_pos hp, if_neg (by simp), if_pos he', if_pos hr]

theorem tick_redial {l : Link} {n : Nat} {backoff : Span} (hd : l.tick.1 = .redial n backoff) :
    l.tick.2 = l.redialled ∧ l.retry.count + 1 = n ∧ l.retry.rule.backoff n = backoff ∧ l.retryEnabled = true := by
  have ht := l.ticked
  generalize l.tick.1 = d at hd ht
  generalize l.tick.2 = l' at ht ⊢
  subst hd
  cases ht with
  | redialled _ _ _ he => exact ⟨rfl, rfl, rfl, he⟩

/-- No retry was made since the last connection, or none is allowed. -/
def Fresh (l : Link) : Prop :=
  l.retry.count = 0 ∨ l.retryEnabled = false

theorem Fresh.ticked {l l' : Link} {d : Demand} (h : l.Fresh) (ht : Ticked l d l')
    (hd : d.attempt? = none) : l'.Fresh := by
  cases ht with
  | closing => exact h
  | stopped => exact h
  | counted => exact h
  | timedOut => exact h
  | redialled => cases hd
  | gaveUp => exact .inr rfl

theorem Fresh.connectionLost {l : Link} (h : l.Fresh) : l.connectionLost.Fresh := by
  obtain ⟨phase, countdown, hl⟩ := l.connectionLost_eq
  rw [hl]
  exact h

end Link

end MarketTicker
