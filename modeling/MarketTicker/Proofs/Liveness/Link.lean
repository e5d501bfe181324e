import MarketTicker.Liveness.Link

namespace MarketTicker.Link

@[simp] theorem phase_connectSucceeded (l : Link) : l.connectSucceeded.phase = .connected := rfl

@[simp] theorem phase_close (l : Link) : l.close.phase = .closing := rfl

@[simp] theorem phase_disableRetry (l : Link) : l.disableRetry.phase = l.phase := rfl

@[simp] theorem phase_enableRetry (l : Link) (interval : Span) (maxRetries : Nat) :
    (l.enableRetry interval maxRetries).phase = l.phase := by
  unfold enableRetry
  dsimp only
  split
  · rfl
  · rfl

theorem running_enableRetry {l : Link} (h : l.connected = false) (interval : Span) (maxRetries : Nat) :
    (l.enableRetry interval maxRetries).countdown.running = l.countdown.running := by
  unfold enableRetry
  dsimp only
  split
  · rename_i hl
    exact absurd (h.symm.trans hl) (by simp)
  · rfl

@[simp] theorem phase_elapsed (l : Link) (span : Span) : (l.elapsed span).phase = l.phase := by
  unfold elapsed
  split
  · rfl
  · rfl

@[simp] theorem phase_armForRetry (l : Link) : l.armForRetry.phase = l.phase := by
  unfold armForRetry
  split
  · rfl
  · split
    · split
      · rfl
      · rfl
    · rfl

theorem phase_connectFailed (l : Link) :
    l.connectFailed.phase = if l.phase = .connecting then .disconnected else l.phase := by
  unfold connectFailed
  rw [phase_armForRetry]
  split
  · rfl
  · rfl

theorem running_connectFailed {l : Link} (h : l.phase = .connecting) :
    l.connectFailed.countdown.running = l.retryEnabled := by
  have hdown : ({ l with phase := .disconnected } : Link).phase ≠ .closing := by simp
  unfold connectFailed armForRetry
  rw [if_pos h, if_neg hdown]
  split
  · rename_i he
    split
    · rename_i hr
      exact hr.trans he.symm
    · exact he.symm
  · rename_i he
    exact (Bool.eq_false_iff.2 he).symm

theorem retry_connectFailed (l : Link) : l.connectFailed.retry = l.retry := by
  have harm (l : Link) : l.armForRetry.retry = l.retry := by
    unfold armForRetry
    split
    · rfl
    · split
      · split
        · rfl
        · rfl
      · rfl
  unfold connectFailed
  rw [harm]
  split
  · rfl
  · rfl

theorem retry_elapsed (l : Link) (span : Span) : (l.elapsed span).retry = l.retry := by
  unfold elapsed
  split
  · rfl
  · rfl

theorem running_elapsed (l : Link) (span : Span) : (l.elapsed span).countdown.running = l.countdown.running := by
  unfold elapsed
  split
  · rfl
  · unfold Countdown.advance
    dsimp only
    split
    · rfl
    · rfl

theorem phase_connectionLost (l : Link) :
    l.connectionLost.phase =
      if l.phase = .connected ∨ l.phase = .connecting then .disconnected else l.phase := by
  unfold connectionLost
  rw [phase_armForRetry]
  split
  · rfl
  · rfl

theorem phase_connectionLost_of_open {l : Link} (h : l.phase ≠ .closing) :
    l.connectionLost.phase = .disconnected := by
  rw [phase_connectionLost]
  cases hp : l.phase with
  | disconnected => simp
  | connecting => simp
  | connected => simp
  | closing => exact absurd hp h

theorem beginConnect?_eq_some {l l' : Link} (h : l.beginConnect? = some l') :
    (l.phase = .disconnected ∨ l.phase = .closing) ∧ l' = { l with phase := .connecting } := by
  unfold beginConnect? at h
  split at h
  · rename_i hp
    exact ⟨.inl hp, (Option.some.inj h).symm⟩
  · rename_i hp
    exact ⟨.inr hp, (Option.some.inj h).symm⟩
  · cases h
  · cases h

theorem beginConnect?_eq_none {l : Link} (h : l.beginConnect? = none) :
    l.phase = .connecting ∨ l.phase = .connected := by
  cases hp : l.phase with
  | disconnected => simp [beginConnect?, hp] at h
  | connecting => exact .inl rfl
  | connected => exact .inr rfl
  | closing => simp [beginConnect?, hp] at h

theorem beginConnect?_of_disconnected {l : Link} (h : l.phase = .disconnected) :
    l.beginConnect? = some { l with phase := .connecting } := by
  unfold beginConnect?
  rw [h]

theorem phase_expired (l : Link) : l.expired.2.phase = .disconnected := by
  unfold expired
  dsimp only
  split
  · rfl
  · split
    · rfl
    · rfl

theorem expired_ne_nothing (l : Link) : l.expired.1 ≠ .nothing := by
  unfold expired
  dsimp only
  split
  · simp
  · split
    · simp
    · simp

theorem tick_of_closing {l : Link} (h : l.phase = .closing) :
    l.tick = (.nothing, { l with countdown := l.countdown.stop }) := by
  simp [tick, h]

theorem tick_of_expired {l : Link} (hp : l.phase ≠ .closing) (he : l.countdown.tick.1 = .expired)
    (hoff : l.retryEnabled = false) : l.tick.1 = .timeOut := by
  rw [tick, if_neg hp]
  generalize l.countdown.tick = ticked at he
  obtain ⟨reading, countdown⟩ := ticked
  subst he
  have hoff' : ({ l with countdown, phase := .disconnected } : Link).retryEnabled = false := hoff
  simp [expired, hoff']

theorem phase_tick (l : Link) :
    l.tick.1 = .nothing ∧ l.tick.2.phase = l.phase ∨
      l.tick.1 ≠ .nothing ∧ l.tick.2.phase = .disconnected := by
  unfold tick
  split
  · exact .inl ⟨rfl, rfl⟩
  · split
    · exact .inr ⟨expired_ne_nothing _, phase_expired _⟩
    · exact .inl ⟨rfl, rfl⟩

end MarketTicker.Link
