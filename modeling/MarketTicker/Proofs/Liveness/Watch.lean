import MarketTicker.Proofs.Liveness.Act

namespace MarketTicker.Link

/-- The countdown of a link fits what the link is there for. -/
structure Watched (l : Link) : Prop where
  closing : l.phase = .closing → l.countdown.running = false
  bounds : l.countdown.running = true → 0 ≤ l.countdown.left ∧ l.countdown.left ≤ 9223372036854775807
  cause : l.countdown.running = true → l.retryEnabled = true ∨ l.phase = .connected
  connected : l.phase = .connected → l.retryEnabled = true → l.countdown.running = true

theorem watched_start (rule : RetryRule) (beat : Beat) : Watched (start rule beat) where
  closing := by simp [start]
  bounds := by simp [start, Countdown.idle]
  cause := by simp [start, Countdown.idle]
  connected := by simp [start]

theorem watched_of_stopped {l : Link} (h : l.countdown.running = false)
    (hc : l.phase = .connected → l.retryEnabled = false) : Watched l where
  closing _ := h
  bounds hr := by simp [h] at hr
  cause hr := by simp [h] at hr
  connected hp he := by simp [hc hp] at he

theorem watched_of_started {l : Link} {window : Span} (hl : l.countdown = .start (l.beat.ticksFor window))
    (hp : l.phase ≠ .closing) (hc : l.retryEnabled = true ∨ l.phase = .connected) : Watched l where
  closing h := absurd h hp
  bounds _ := by
    rw [hl]
    exact ⟨Int.le_of_lt (l.beat.one_le_ticksFor window), l.beat.ticksFor_le window⟩
  cause _ := hc
  connected _ _ := by rw [hl]; rfl

namespace Watched

variable {l : Link}

theorem armForRetry (h : l.phase = .closing → l.countdown.running = false)
    (hb : l.countdown.running = true → 0 ≤ l.countdown.left ∧ l.countdown.left ≤ 9223372036854775807) :
    Watched l.armForRetry := by
  unfold Link.armForRetry
  split
  · rename_i hp
    exact watched_of_stopped (h hp) (by simp [hp])
  · rename_i hp
    split
    · rename_i he
      split
      · rename_i hr
        exact ⟨fun hx => absurd hx hp, hb, fun _ => .inl he, fun _ _ => hr⟩
      · exact watched_of_started rfl hp (.inl he)
    · rename_i he
      exact watched_of_stopped rfl fun _ => Bool.eq_false_iff.2 he

theorem connectFailed (h : Watched l) : Watched l.connectFailed := by
  unfold Link.connectFailed
  split
  · exact armForRetry (by simp) h.bounds
  · exact armForRetry h.closing h.bounds

theorem connectionLost (h : Watched l) : Watched l.connectionLost := by
  unfold Link.connectionLost
  split
  · exact armForRetry (by simp) h.bounds
  · exact armForRetry h.closing h.bounds

theorem elapsed (h : Watched l) (span : Span) : Watched (l.elapsed span) := by
  have ht := l.beat.ticksIn_nonneg span
  unfold Link.elapsed Countdown.advance
  split
  · exact h
  · split
    · rename_i hr
      have hb := h.bounds hr
      refine ⟨h.closing, fun _ => ?_, h.cause, h.connected⟩
      dsimp only [saturate]
      omega
    · exact h

theorem beginConnect (h : Watched l) : Watched (l.act .beginConnect).2 := by
  unfold act
  cases hb : l.beginConnect? with
  | none => exact h
  | some l' =>
    obtain ⟨hp, rfl⟩ := beginConnect?_eq_some hb
    refine ⟨by simp, h.bounds, fun hr => ?_, by simp⟩
    rcases h.cause hr with he | hc
    · exact .inl he
    · rcases hp with hp | hp
      · simp [hp] at hc
      · simp [hp] at hc

theorem enableRetry (h : Watched l) (interval : Span) (maxRetries : Nat) :
    Watched (l.enableRetry interval maxRetries) := by
  unfold Link.enableRetry
  dsimp only
  split
  · rename_i hc
    have hp : l.phase = .connected := of_decide_eq_true hc
    exact watched_of_started rfl (by simp [hp]) (.inl rfl)
  · rename_i hc
    have hp : l.phase ≠ .connected := by simpa [Link.connected] using hc
    refine ⟨h.closing, fun hr => ?_, fun _ => .inl rfl, fun hx => absurd hx hp⟩
    exact ⟨Int.le_of_lt (l.beat.one_le_ticksFor _), l.beat.ticksFor_le _⟩

theorem ticked {d : Demand} {l' : Link} (h : Watched l) (ht : Ticked l d l') : Watched l' := by
  cases ht with
  | closing hp => exact watched_of_stopped rfl (by simp [hp])
  | stopped => exact h
  | counted hp hr hlt =>
    have hb := h.bounds hr
    refine ⟨fun hx => absurd hx hp, fun _ => ?_, fun _ => h.cause hr, fun _ _ => rfl⟩
    rw [saturate_of_mem (by omega) (by omega)]
    dsimp only
    omega
  | timedOut => exact watched_of_stopped rfl (by simp)
  | redialled _ _ _ he _ => exact watched_of_started rfl (by simp) (.inl he)
  | gaveUp => exact watched_of_stopped rfl (by simp)

theorem act (h : Watched l) (a : Act) : Watched (l.act a).2 := by
  cases a with
  | beginConnect => exact h.beginConnect
  | connectSucceeded => exact watched_of_started rfl (by simp [Link.act]) (.inr rfl)
  | connectFailed => exact h.connectFailed
  | dataReceived =>
    refine ⟨h.closing, fun _ => ?_, h.cause, h.connected⟩
    exact ⟨Int.le_of_lt (l.beat.one_le_ticksFor _), l.beat.ticksFor_le _⟩
  | connectionLost => exact h.connectionLost
  | tick => exact h.ticked l.ticked
  | elapsed span => exact h.elapsed span
  | close => exact watched_of_stopped rfl (by simp [Link.act])
  | enableRetry interval maxRetries => exact h.enableRetry interval maxRetries
  | disableRetry => exact watched_of_stopped rfl fun _ => rfl

theorem after (h : Watched l) (as : List Act) : Watched (l.after as) := by
  induction as generalizing l with
  | nil => exact h
  | cons a as ih => exact ih (h.act a)

end Watched

structure Armed (l : Link) : Prop where
  phase : l.phase ≠ .closing
  enabled : l.retryEnabled = true
  running : l.countdown.running = true

theorem armed_armForRetry {l : Link} (hp : l.phase ≠ .closing) (he : l.retryEnabled = true) :
    Armed l.armForRetry := by
  unfold armForRetry
  rw [if_neg hp, if_pos he]
  split
  · rename_i hr
    exact ⟨hp, he, hr⟩
  · exact ⟨hp, he, rfl⟩

theorem armed_connectFailed {l : Link} (hp : l.phase ≠ .closing) (he : l.retryEnabled = true) :
    Armed l.connectFailed := by
  unfold connectFailed
  split
  · exact armed_armForRetry (by simp) he
  · exact armed_armForRetry hp he

theorem armed_connectionLost {l : Link} (hp : l.phase ≠ .closing) (he : l.retryEnabled = true) :
    Armed l.connectionLost := by
  unfold connectionLost
  split
  · exact armed_armForRetry (by simp) he
  · exact armed_armForRetry hp he

/-- What puts the countdown to another attempt on: a connection that was not made or was lost, and an attempt. -/
inductive Arms (l : Link) : Act → Prop
  | failed : l.phase = .connecting → Arms l .connectFailed
  | lost : l.phase = .connected → Arms l .connectionLost
  | redialled {attempt : Nat} {backoff : Span} : l.tick.1 = .redial attempt backoff → Arms l .tick

theorem Arms.armed {l : Link} {a : Act} (h : Arms l a) (he : l.retryEnabled = true) : Armed (l.act a).2 := by
  cases h with
  | failed hp => exact armed_connectFailed (by simp [hp]) he
  | lost hp => exact armed_connectionLost (by simp [hp]) he
  | redialled hd =>
    have hl : (l.act .tick).2 = l.redialled := (l.tick_redial hd).1
    rw [hl]
    exact ⟨by simp, he, rfl⟩

namespace Armed

variable {l : Link}

theorem ticked {d : Demand} {l' : Link} (h : Armed l) (ht : Ticked l d l') (hd : d ≠ .giveUp) : Armed l' := by
  cases ht with
  | closing hp => exact absurd hp h.phase
  | stopped => exact h
  | counted => exact ⟨h.phase, h.enabled, rfl⟩
  | timedOut _ _ _ he => simp [h.enabled] at he
  | redialled => exact ⟨by simp, h.enabled, rfl⟩
  | gaveUp => exact absurd rfl hd

theorem enableRetry (h : Armed l) (interval : Span) (maxRetries : Nat) :
    Armed (l.enableRetry interval maxRetries) := by
  refine ⟨by simp [h.phase], ?_, ?_⟩
  · obtain ⟨countdown, hl⟩ := l.enableRetry_eq interval maxRetries
    rw [hl]
    rfl
  · unfold Link.enableRetry
    dsimp only
    split
    · rfl
    · exact h.running

theorem act (h : Armed l) {a : Act} (hc : a ≠ .close) (hd : a ≠ .disableRetry) (hg : (l.act a).1 ≠ .giveUp) :
    Armed (l.act a).2 := by
  cases a with
  | beginConnect =>
    unfold Link.act
    cases hb : l.beginConnect? with
    | none => exact h
    | some l' =>
      obtain ⟨_, rfl⟩ := beginConnect?_eq_some hb
      exact ⟨by simp, h.enabled, h.running⟩
  | connectSucceeded => exact ⟨by simp [Link.act], h.enabled, rfl⟩
  | connectFailed => exact armed_connectFailed h.phase h.enabled
  | dataReceived => exact ⟨h.phase, h.enabled, h.running⟩
  | connectionLost => exact armed_connectionLost h.phase h.enabled
  | tick => exact h.ticked l.ticked hg
  | elapsed span =>
    unfold Link.act elapsed Countdown.advance
    dsimp only
    rw [if_neg h.phase, if_pos h.running]
    exact ⟨h.phase, h.enabled, h.running⟩
  | close => exact absurd rfl hc
  | enableRetry interval maxRetries => exact h.enableRetry interval maxRetries
  | disableRetry => exact absurd rfl hd

theorem after (h : Armed l) {as : List Act} (hc : .close ∉ as) (hd : .disableRetry ∉ as)
    (hg : .giveUp ∉ l.demands as) : Armed (l.after as) := by
  induction as generalizing l with
  | nil => exact h
  | cons a as ih =>
    rw [demands] at hg
    simp only [List.mem_cons, not_or] at hc hd hg
    exact ih (h.act (Ne.symm hc.1) (Ne.symm hd.1) (Ne.symm hg.1)) hc.2 hd.2 hg.2

/-- The tick behind the last one of the countdown dials again or gives up, and the ticks up to it do nothing. -/
theorem demands_ticks (h : Armed l) {c : Nat} (hl : l.countdown.left = c) (hc : c ≤ 9223372036854775807) :
    ∃ d, l.demands (List.replicate (c + 1) .tick) = List.replicate c .nothing ++ [d] ∧
      (d = .giveUp ∨ ∃ attempt backoff, d = .redial attempt backoff) := by
  induction c generalizing l with
  | zero =>
    have ht := l.ticked
    refine ⟨l.tick.1, rfl, ?_⟩
    generalize l.tick.1 = d at ht ⊢
    generalize l.tick.2 = l' at ht
    cases ht with
    | closing hp => exact absurd hp h.phase
    | stopped _ hr => simp [h.running] at hr
    | counted _ _ hlt => omega
    | timedOut _ _ _ he => simp [h.enabled] at he
    | redialled => exact .inr ⟨_, _, rfl⟩
    | gaveUp => exact .inl rfl
  | succ c ih =>
    have ht := l.ticked
    have key : l.tick.1 = .nothing ∧ Armed l.tick.2 ∧ l.tick.2.countdown.left = c := by
      generalize l.tick.1 = d at ht ⊢
      generalize l.tick.2 = l' at ht ⊢
      cases ht with
      | closing hp => exact absurd hp h.phase
      | stopped _ hr => simp [h.running] at hr
      | counted =>
        refine ⟨rfl, ⟨h.phase, h.enabled, rfl⟩, ?_⟩
        dsimp only
        rw [saturate_of_mem (by omega) (by omega)]
        omega
      | timedOut _ _ hle => omega
      | redialled _ _ hle => omega
      | gaveUp _ _ hle => omega
    obtain ⟨hn, ha, hl'⟩ := key
    obtain ⟨d, hd, hlast⟩ := ih ha hl' (by omega)
    refine ⟨d, ?_, hlast⟩
    rw [List.replicate_succ, demands, Link.act, hn, hd]
    rfl

end Armed

/-- A countdown runs where it is needed and nowhere else, and it does not stop before its end. -/
theorem countdown_runs_where_needed (rule : RetryRule) (beat : Beat) (before : List Act) :
    let l := (start rule beat).after before
    (l.phase = .closing → l.countdown.running = false) ∧
      (l.countdown.running = true → 0 ≤ l.countdown.left ∧ (l.retryEnabled = true ∨ l.phase = .connected)) ∧
      (l.phase = .connected → l.retryEnabled = true → l.countdown.running = true) ∧
      (∀ a as, Arms l a → l.retryEnabled = true → .close ∉ as → .disableRetry ∉ as →
        .giveUp ∉ (l.act a).2.demands as →
        ((l.act a).2.after as).countdown.running = true ∧
          ∃ (c : Nat) (d : Demand), ((l.act a).2.after as).countdown.left = c ∧
            ((l.act a).2.after as).demands (List.replicate (c + 1) .tick) = List.replicate c .nothing ++ [d] ∧
            (d = .giveUp ∨ ∃ attempt backoff, d = .redial attempt backoff)) ∧
      (l.tick.1 = .timeOut →
        l.phase = .connected ∧ l.retryEnabled = false ∧ l.countdown.running = true ∧ l.countdown.left = 0 ∧
          l.tick.2.phase = .disconnected ∧ l.tick.2.countdown.running = false) := by
  intro l
  have h : Watched l := (watched_start rule beat).after before
  refine ⟨h.closing, fun hr => ⟨(h.bounds hr).1, h.cause hr⟩, h.connected, ?_, ?_⟩
  · intro a as ha he hc hd hg
    have harmed : Armed ((l.act a).2.after as) := (ha.armed he).after hc hd hg
    obtain ⟨h0, hmax⟩ := ((h.act a).after as).bounds harmed.running
    obtain ⟨c, hleft⟩ := Int.eq_ofNat_of_zero_le h0
    obtain ⟨d, hticks, hlast⟩ := harmed.demands_ticks hleft (by omega)
    exact ⟨harmed.running, c, d, hleft, hticks, hlast⟩
  · intro ht
    have hticked := l.ticked
    generalize l.tick.1 = d at ht hticked
    generalize l.tick.2 = l' at hticked ⊢
    subst ht
    cases hticked with
    | timedOut _ hr hle he =>
      refine ⟨(h.cause hr).resolve_left (by simp [he]), he, hr, ?_, rfl, rfl⟩
      have := (h.bounds hr).1
      omega

theorem countdown_runs_where_needed_of_refusal :
    let between : List Act := [.beginConnect, .connectFailed, .elapsed (.ofSeconds 2), .tick]
    let refused := (((start (.on (.ofSeconds 5) 3) .everySecond).after [.beginConnect]).act .connectFailed).2
    (refused.after between).countdown.running = true ∧
      (refused.after between).demands [.tick, .tick, .tick] = [.nothing, .nothing, .redial 1 (.ofSeconds 10)] ∧
      ((start .off .everySecond).after
        [.beginConnect, .connectSucceeded, .tick, .tick, .tick, .tick, .tick]).tick.1 = .timeOut ∧
      ((start .off .everySecond).after
        [.beginConnect, .connectSucceeded, .tick, .tick, .tick, .tick, .tick]).phase = .connected ∧
      ((start .off .everySecond).after [.beginConnect, .connectSucceeded, .close]).countdown.running = false := by
  obtain ⟨_, _, _, hstays, _⟩ := countdown_runs_where_needed (.on (.ofSeconds 5) 3) .everySecond [.beginConnect]
  obtain ⟨_, _, _, _, hend⟩ :=
    countdown_runs_where_needed .off .everySecond [.beginConnect, .connectSucceeded, .tick, .tick, .tick, .tick, .tick]
  obtain ⟨hclosing, _⟩ :=
    countdown_runs_where_needed .off .everySecond [.beginConnect, .connectSucceeded, .close]
  have htimeOut : ((start .off .everySecond).after
      [.beginConnect, .connectSucceeded, .tick, .tick, .tick, .tick, .tick]).tick.1 = .timeOut := by decide
  refine ⟨?_, ?_, htimeOut, (hend htimeOut).1, hclosing (by decide)⟩
  · exact (hstays .connectFailed [.beginConnect, .connectFailed, .elapsed (.ofSeconds 2), .tick] (.failed (by decide))
      (by decide) (by decide) (by decide) (by decide)).1
  · decide

end MarketTicker.Link
