import Mathlib.Algebra.Ring.Nat
import MarketTicker.Proofs.Liveness.Watch

namespace MarketTicker.Link

theorem attempts_demands (l : Link) {as : List Act} (h : .connectSucceeded ∉ as) :
    l.retry.count ≤ (l.after as).retry.count ∧
      (l.demands as).filterMap Demand.attempt? =
        List.range' (l.retry.count + 1) ((l.after as).retry.count - l.retry.count) := by
  induction as generalizing l with
  | nil => simp [after, demands]
  | cons a as ih =>
    have ha := l.acted a
    obtain ⟨hle, hn⟩ := ih (l.act a).2 fun hin => h (List.mem_cons_of_mem _ hin)
    rw [after, demands]
    generalize (l.act a).1 = d at ha ⊢
    generalize (l.act a).2 = l' at ha hle hn ⊢
    cases ha with
    | connected => exact absurd List.mem_cons_self h
    | enabled => exact ⟨hle, hn⟩
    | disabled => exact ⟨hle, hn⟩
    | passive => exact ⟨hle, hn⟩
    | tick ht =>
      cases ht with
      | redialled =>
        generalize hr : Link.after _ as = last at hle hn ⊢
        have hc : l.redialled.retry.count = l.retry.count + 1 := rfl
        rw [hc] at hle hn
        refine ⟨Nat.le_of_succ_le hle, ?_⟩
        rw [List.filterMap_cons, hn]
        have hd : last.retry.count - l.retry.count = last.retry.count - (l.retry.count + 1) + 1 := by omega
        rw [hd, List.range'_succ]
        rfl
      | closing => exact ⟨hle, hn⟩
      | stopped => exact ⟨hle, hn⟩
      | counted => exact ⟨hle, hn⟩
      | timedOut => exact ⟨hle, hn⟩
      | gaveUp => exact ⟨hle, hn⟩

theorem demands_of_disabled {l : Link} {as : List Act} (he : l.retryEnabled = false)
    (h : ∀ interval maxRetries, .enableRetry interval maxRetries ∉ as) :
    ∀ d ∈ l.demands as, d = .nothing ∨ d = .timeOut := by
  induction as generalizing l with
  | nil => simp [demands]
  | cons a as ih =>
    have hrest (interval : Span) (maxRetries : Nat) : .enableRetry interval maxRetries ∉ as :=
      fun hin => h interval maxRetries (List.mem_cons_of_mem _ hin)
    have key : ((l.act a).1 = .nothing ∨ (l.act a).1 = .timeOut) ∧ (l.act a).2.retryEnabled = false := by
      have ha := l.acted a
      generalize (l.act a).1 = d at ha ⊢
      generalize (l.act a).2 = l' at ha ⊢
      cases ha with
      | connected => exact ⟨.inl rfl, he⟩
      | enabled interval maxRetries => exact absurd List.mem_cons_self (h interval maxRetries)
      | disabled => exact ⟨.inl rfl, rfl⟩
      | passive => exact ⟨.inl rfl, he⟩
      | tick ht =>
        cases ht with
        | closing => exact ⟨.inl rfl, he⟩
        | stopped => exact ⟨.inl rfl, he⟩
        | counted => exact ⟨.inl rfl, he⟩
        | timedOut => exact ⟨.inr rfl, he⟩
        | redialled _ _ _ he' => simp [he] at he'
        | gaveUp _ _ _ he' => simp [he] at he'
    intro d hd
    rw [demands, List.mem_cons] at hd
    rcases hd with rfl | hd
    · exact key.1
    · exact ih key.2 hrest d hd

def Act.failing : Act → Bool
  | .beginConnect => true
  | .connectFailed => true
  | .tick => true
  | .elapsed _ => true
  | _ => false

/-- The attempts that are left, and giving up behind them. -/
def prospects (l : Link) : List Demand :=
  (List.range' (l.retry.count + 1) (l.retry.rule.maxRetries - l.retry.count)).map
    (fun n => .redial n (l.retry.rule.backoff n)) ++ [.giveUp]

def patience (l : Link) : Nat :=
  l.countdown.left.toNat + 1 +
    ((List.range' (l.retry.count + 1) (l.retry.rule.maxRetries - l.retry.count)).map
      fun n => (l.beat.ticksFor (l.retry.rule.backoff n)).toNat + 1).sum

theorem left_of_lt {l : Link} (h : l.retry.count < l.retry.rule.maxRetries) :
    List.range' (l.retry.count + 1) (l.retry.rule.maxRetries - l.retry.count) =
      (l.retry.count + 1) ::
        List.range' (l.redialled.retry.count + 1) (l.redialled.retry.rule.maxRetries - l.redialled.retry.count) := by
  obtain ⟨n, hn⟩ := Nat.exists_eq_succ_of_ne_zero (Nat.sub_ne_zero_of_lt h)
  have hn' : l.retry.rule.maxRetries - (l.retry.count + 1) = n := by omega
  rw [hn, List.range'_succ]
  simp only [redialled, hn']

theorem prospects_of_lt {l : Link} (h : l.retry.count < l.retry.rule.maxRetries) :
    l.prospects =
      .redial (l.retry.count + 1) (l.retry.rule.backoff (l.retry.count + 1)) :: l.redialled.prospects := by
  rw [prospects, left_of_lt h]
  rfl

theorem patience_of_lt {l : Link} (h : l.retry.count < l.retry.rule.maxRetries) (hl : l.countdown.left = 0) :
    l.patience = l.redialled.patience + 1 := by
  rw [patience, left_of_lt h, List.map_cons, List.sum_cons, hl, patience]
  dsimp only [redialled, Countdown.start]
  omega

def deeds (l : Link) (as : List Act) : List Demand :=
  (l.demands as).filter (· ≠ .nothing)

theorem deeds_cons_of_nothing {l : Link} {a : Act} (h : (l.act a).1 = .nothing) (as : List Act) :
    l.deeds (a :: as) = (l.act a).2.deeds as := by
  rw [deeds, demands, h]
  rfl

theorem act_of_failing {l : Link} {a : Act} (hr : l.countdown.running = l.retryEnabled)
    (h : a.failing = true) (ht : a ≠ .tick) :
    (l.act a).1 = .nothing ∧ ∃ phase left,
      (l.act a).2 = { l with phase, countdown := ⟨left, l.countdown.running⟩ } ∧
        (l.phase ≠ .closing → phase ≠ .closing) ∧
        (0 ≤ l.countdown.left → 0 ≤ left ∧ left ≤ l.countdown.left) := by
  have arm {l : Link} (hr : l.countdown.running = l.retryEnabled) : l.armForRetry = l := by
    unfold armForRetry
    split
    · rfl
    · split
      · rename_i he
        rw [if_pos (hr.trans he)]
      · rename_i he
        have hstop : l.countdown.stop = l.countdown := by
          rw [Bool.not_eq_true] at he
          unfold Countdown.stop
          rw [← hr.trans he]
        rw [hstop]
  cases a with
  | beginConnect =>
    cases hb : l.beginConnect? with
    | none =>
      rw [act, hb]
      exact ⟨rfl, l.phase, l.countdown.left, rfl, id, by omega⟩
    | some l' =>
      obtain ⟨_, rfl⟩ := beginConnect?_eq_some hb
      rw [act, hb]
      exact ⟨rfl, .connecting, l.countdown.left, rfl, by simp, by omega⟩
  | connectFailed =>
    refine ⟨rfl, ?_⟩
    unfold act connectFailed
    dsimp only
    split
    · rw [arm (l := { l with phase := .disconnected }) hr]
      exact ⟨.disconnected, l.countdown.left, rfl, by simp, by omega⟩
    · rw [arm hr]
      exact ⟨l.phase, l.countdown.left, rfl, id, by omega⟩
  | elapsed span =>
    have ht := l.beat.ticksIn_nonneg span
    refine ⟨rfl, ?_⟩
    unfold act elapsed Countdown.advance
    dsimp only
    split
    · exact ⟨l.phase, l.countdown.left, rfl, id, by omega⟩
    · split
      · refine ⟨l.phase, _, rfl, id, ?_⟩
        dsimp only [saturate]
        omega
      · exact ⟨l.phase, l.countdown.left, rfl, id, by omega⟩
  | tick => exact absurd rfl ht
  | connectSucceeded => cases h
  | dataReceived => cases h
  | connectionLost => cases h
  | close => cases h
  | enableRetry => cases h
  | disableRetry => cases h

theorem deeds_of_stopped {l : Link} {as : List Act} (he : l.retryEnabled = false)
    (hr : l.countdown.running = false) (h : ∀ a ∈ as, a.failing = true) : l.deeds as = [] := by
  induction as generalizing l with
  | nil => rfl
  | cons a as ih =>
    have has (b : Act) (hb : b ∈ as) : b.failing = true := h b (List.mem_cons_of_mem _ hb)
    by_cases ha : a = .tick
    · subst ha
      have ht := l.ticked
      have key : l.tick.1 = .nothing ∧ l.tick.2.retryEnabled = false ∧ l.tick.2.countdown.running = false := by
        generalize l.tick.1 = d at ht ⊢
        generalize l.tick.2 = l' at ht ⊢
        cases ht with
        | closing => exact ⟨rfl, he, rfl⟩
        | stopped => exact ⟨rfl, he, hr⟩
        | counted _ hr' => simp [hr] at hr'
        | timedOut _ hr' => simp [hr] at hr'
        | redialled _ hr' => simp [hr] at hr'
        | gaveUp _ hr' => simp [hr] at hr'
      rw [deeds_cons_of_nothing (a := .tick) key.1]
      exact ih key.2.1 key.2.2 has
    · obtain ⟨hn, phase, left, hl, _⟩ := act_of_failing (hr.trans he.symm) (h a List.mem_cons_self) ha
      rw [deeds_cons_of_nothing hn, hl]
      exact ih he hr has

/-- While handshakes fail, what is demanded is what the prospects say, and all of it once enough time has
gone by. -/
theorem deeds_of_failing {l : Link} {as : List Act} (ha : Armed l) (hb : 0 ≤ l.countdown.left)
    (hm : l.retry.count ≤ l.retry.rule.maxRetries) (h : ∀ a ∈ as, a.failing = true) :
    l.deeds as <+: l.prospects ∧ (l.patience ≤ as.count .tick → l.deeds as = l.prospects) := by
  induction as generalizing l with
  | nil =>
    refine ⟨List.nil_prefix, fun hp => ?_⟩
    unfold patience at hp
    rw [List.count_nil] at hp
    omega
  | cons a as ih =>
    have has (b : Act) (hb : b ∈ as) : b.failing = true := h b (List.mem_cons_of_mem _ hb)
    -- what demands nothing keeps the prospects, and takes a tick off the patience where it is one
    have quiet {l' : Link} {n : Nat} (hn : (l.act a).1 = .nothing) (hl : (l.act a).2 = l') (ha' : Armed l')
        (hb' : 0 ≤ l'.countdown.left) (hr : l'.retry = l.retry) (hbeat : l'.beat = l.beat)
        (hleft : l'.countdown.left.toNat + n ≤ l.countdown.left.toNat)
        (hcount : (a :: as).count .tick = as.count .tick + n) :
        l.deeds (a :: as) <+: l.prospects ∧
          (l.patience ≤ (a :: as).count .tick → l.deeds (a :: as) = l.prospects) := by
      obtain ⟨hpre, hall⟩ := ih ha' hb' (by rw [hr]; exact hm) has
      have hpros : l'.prospects = l.prospects := by rw [prospects, prospects, hr]
      rw [deeds_cons_of_nothing hn, hl, ← hpros]
      refine ⟨hpre, fun hp => hall ?_⟩
      unfold patience at hp ⊢
      rw [hr, hbeat]
      omega
    by_cases htick : a = .tick
    · subst htick
      have hcount : (Act.tick :: as).count .tick = as.count .tick + 1 := List.count_cons_self
      have hdeeds (hn : l.tick.1 ≠ .nothing) : l.deeds (.tick :: as) = l.tick.1 :: l.tick.2.deeds as :=
        List.filter_cons_of_pos (decide_eq_true hn)
      have ht := l.ticked
      generalize hd : l.tick.1 = d at ht hdeeds
      generalize hl : l.tick.2 = l' at ht hdeeds
      cases ht with
      | closing hp => exact absurd hp ha.phase
      | stopped _ hr => simp [ha.running] at hr
      | timedOut _ _ _ he => simp [ha.enabled] at he
      | counted hp hr hlt =>
        refine quiet (n := 1) hd hl ⟨hp, ha.enabled, rfl⟩ ?_ rfl rfl ?_ hcount
        · dsimp only [saturate]
          omega
        · dsimp only [saturate]
          omega
      | gaveUp _ _ _ _ hmax =>
        have hpros : l.prospects = [.giveUp] := by rw [prospects, Nat.sub_eq_zero_of_le hmax]; rfl
        have hrest : l.deeds (.tick :: as) = [.giveUp] := by
          rw [hdeeds (by simp), deeds_of_stopped rfl rfl has]
        rw [hrest, hpros]
        exact ⟨List.prefix_rfl, fun _ => rfl⟩
      | redialled hp hr hle he hlt =>
        obtain ⟨hpre, hall⟩ := ih (l := l.redialled) ⟨by simp [redialled], he, rfl⟩
          (Int.le_of_lt (l.beat.one_le_ticksFor _)) hlt has
        rw [hdeeds (by simp), prospects_of_lt hlt, patience_of_lt hlt (by omega), hcount]
        refine ⟨(List.prefix_cons_inj _).2 hpre, fun hp => ?_⟩
        exact congrArg (List.cons _) (hall (Nat.le_of_succ_le_succ hp))
    · obtain ⟨hn, phase, left, hl, hp, hle⟩ :=
        act_of_failing (ha.running.trans ha.enabled.symm) (h a List.mem_cons_self) htick
      obtain ⟨h0, hle⟩ := hle hb
      refine quiet (n := 0) hn hl ⟨hp ha.phase, ha.enabled, ha.running⟩ h0 rfl rfl ?_ ?_
      · dsimp only
        omega
      · exact List.count_cons_of_ne htick

/-- Attempts are numbered without a gap since the last connection, within the limit that is in force, and
giving up is the end until retries are allowed again. -/
theorem retries_accounted (rule : RetryRule) (beat : Beat) (before as : List Act) :
    let l := (start rule beat).after before
    (before = [] ∨ before.getLast? = some .connectSucceeded → .connectSucceeded ∉ as →
        (l.demands as).filterMap Demand.attempt? = List.range' 1 (l.after as).retry.count) ∧
      (∀ n delay, l.tick.1 = .redial n delay → n ≤ l.retry.rule.maxRetries) ∧
      (l.tick.1 = .giveUp → l.retry.rule.maxRetries ≤ l.retry.count ∧
        ((∀ interval maxRetries, .enableRetry interval maxRetries ∉ as) →
          ∀ d ∈ l.tick.2.demands as, d = .nothing ∨ d = .timeOut)) ∧
      (l.retry.count = 0 → l.retryEnabled = true → l.countdown.running = true →
        (∀ a ∈ as, a.failing = true) →
        let all := (List.range' 1 l.retry.rule.maxRetries).map
          (fun n => Demand.redial n (l.retry.rule.backoff n)) ++ [.giveUp]
        l.deeds as <+: all ∧ (l.patience ≤ as.count .tick → l.deeds as = all)) := by
  intro l
  have hw : Watched l := (watched_start rule beat).after before
  have ht := l.ticked
  refine ⟨fun hbefore has => ?_, fun n delay hd => ?_, fun hd => ?_, fun hc he hr has => ?_⟩
  · have hzero : l.retry.count = 0 := by
      rcases hbefore with rfl | hlast
      · rfl
      · obtain ⟨first, rfl⟩ := List.getLast?_eq_some_iff.1 hlast
        have hl : l = ((start rule beat).after first).connectSucceeded := after_append _ first _
        rw [hl]
        rfl
    have h := (l.attempts_demands has).2
    rwa [hzero] at h
  · generalize l.tick.1 = d at hd ht
    generalize l.tick.2 = l' at ht
    subst hd
    cases ht with
    | redialled _ _ _ _ hlt => exact hlt
  · generalize l.tick.1 = d at hd ht
    generalize l.tick.2 = l' at ht ⊢
    subst hd
    cases ht with
    | gaveUp _ _ _ _ hle => exact ⟨hle, demands_of_disabled rfl⟩
  · have hp : l.phase ≠ .closing := fun hx => by simp [hw.closing hx] at hr
    have h := deeds_of_failing ⟨hp, he, hr⟩ (hw.bounds hr).1 (hc ▸ Nat.zero_le _) has
    rwa [prospects, hc] at h

theorem retries_accounted_of_two_failures :
    let failures : List Act :=
      [.tick, .tick, .beginConnect, .connectFailed, .elapsed (.ofSeconds 10), .tick, .tick, .beginConnect,
        .connectFailed, .elapsed (.ofSeconds 20), .tick, .tick, .tick]
    let connected := (start (.on (.ofSeconds 5) 2) ⟨.ofSeconds 60⟩).after [.beginConnect, .connectSucceeded]
    let last := (start (.on (.ofSeconds 5) 2) ⟨.ofSeconds 60⟩).after
      [.connectFailed, .tick, .tick, .tick, .tick, .tick]
    connected.deeds failures = [.redial 1 (.ofSeconds 10), .redial 2 (.ofSeconds 20), .giveUp] ∧
      (connected.demands failures).filterMap Demand.attempt? = [1, 2] ∧
      (connected.act .tick).2.tick.1 = .redial 1 (.ofSeconds 10) ∧ 1 ≤ connected.retry.rule.maxRetries ∧
      last.tick.1 = .giveUp ∧
      ∀ d ∈ last.tick.2.demands [.beginConnect, .connectSucceeded, .tick, .tick], d = .nothing ∨ d = .timeOut := by
  intro failures connected last
  obtain ⟨hnumbers, _, _, hall⟩ :=
    retries_accounted (.on (.ofSeconds 5) 2) ⟨.ofSeconds 60⟩ [.beginConnect, .connectSucceeded] failures
  obtain ⟨_, hlimit, _, _⟩ :=
    retries_accounted (.on (.ofSeconds 5) 2) ⟨.ofSeconds 60⟩ [.beginConnect, .connectSucceeded, .tick] []
  obtain ⟨_, _, hend, _⟩ :=
    retries_accounted (.on (.ofSeconds 5) 2) ⟨.ofSeconds 60⟩
      [.connectFailed, .tick, .tick, .tick, .tick, .tick] [.beginConnect, .connectSucceeded, .tick, .tick]
  have hredial : (connected.act .tick).2.tick.1 = .redial 1 (.ofSeconds 10) := by decide
  have hgiveUp : last.tick.1 = .giveUp := by decide
  refine ⟨?_, ?_, hredial, hlimit 1 (.ofSeconds 10) hredial, hgiveUp, ?_⟩
  · exact (hall (by decide) (by decide) (by decide) (by decide)).2 (by decide)
  · exact hnumbers (.inr rfl) (by decide)
  · exact (hend hgiveUp).2 (by simp)

end MarketTicker.Link
