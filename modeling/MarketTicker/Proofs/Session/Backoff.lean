import MarketTicker.Proofs.Session.Pause
import MarketTicker.Proofs.Session.Scenario

namespace MarketTicker

namespace Pause

open Session

variable {p : Pause} {s t : Session}

/-- A handshake that begins at the start of the pause is under way, or has failed at once. -/
theorem Dialling.dial (h : p.Dialling s) (hnow : s.now = p.start) {limit : Span}
    (hlimit : limit.nanos = p.limit * 1000000) (hopen : (s.dial (.retry p.start) limit).closing = false) :
    p.Between (s.dial (.retry p.start) limit) := by
  rcases dial_cases s (.retry p.start) limit with ⟨fault, hh⟩ | ⟨_, _, hh⟩
  · obtain ⟨c, hc⟩ := h.failed fault
    exact .waiting (hc.congr (congrArg Session.activity hh :) (congrArg Session.link hh :)
      (congrArg Session.connection hh :) (congrArg Session.now hh :) (congrArg Session.due hh :)) hopen
  · refine .dialling (h.congr (congrArg Session.link hh :) (congrArg Session.connection hh :)
      (congrArg Session.now hh :) (congrArg Session.due hh :)) (congrArg Session.activity hh :) rfl ?_ hopen
    change s.deadlineAfter limit = _
    unfold deadlineAfter nanos
    rw [hlimit, hnow]
    omega

theorem dialling_of_redial {v : Session} {backoff : Span} (hv : v.helm = s.afterExpiry)
    (hd : s.link.tick.1 = .redial p.attempt backoff) (hbeat : s.link.beat.millis = p.tick)
    (hticks : s.link.beat.ticksFor backoff = p.ticks) (hnow : s.now = p.start)
    (hdue : s.dueMillis ≤ p.start + p.tick) :
    p.Dialling ({ v with link := { v.link with phase := .connecting } } : Session).publish := by
  obtain ⟨hl, hcount, hbackoff, he⟩ := s.link.tick_redial hd
  have hlink : v.link = s.link.redialled := (congrArg Session.link hv :).trans hl
  have hvnow : v.now = s.now := (congrArg Session.now hv :)
  have hvdue : v.dueMillis = s.dueMillis := (congrArg Session.dueMillis hv :)
  rw [hlink]
  constructor
  case phase => rfl
  case connection => exact (congrArg Session.connection hv :)
  case counting =>
    refine ⟨?_, he, hcount, hbeat⟩
    change Countdown.start (s.link.beat.ticksFor (s.link.retry.rule.backoff (s.link.retry.count + 1))) = _
    rw [hcount, hbackoff, hticks]
    rfl
  case began =>
    change p.start ≤ v.now
    omega
  case ends =>
    change v.now ≤ _
    omega
  case due =>
    change v.dueMillis ≤ _
    omega

theorem between_of_redial {backoff : Span} (hopen : s.closing = false)
    (hd : s.link.tick.1 = .redial p.attempt backoff) (hbeat : s.link.beat.millis = p.tick)
    (hticks : s.link.beat.ticksFor backoff = p.ticks) (hnow : s.now = p.start) (hdue : s.dueMillis ≤ p.start + p.tick)
    (hlimit : (s.setup.connectTimeout.shorter backoff).nanos = p.limit * 1000000)
    (ht : s.onTick.closing = false) : p.Between s.onTick := by
  have hh := helm_retrying s p.attempt backoff
  rw [onTick_of_redial hopen hd, hnow] at ht ⊢
  generalize s.retrying p.attempt backoff = v at hh ht ⊢
  have hlink : v.link = s.link.redialled := (congrArg Session.link hh :).trans (s.link.tick_redial hd).1
  have hphase : v.link.phase = .disconnected := by
    rw [hlink]
    rfl
  have hnone : v.closing = false := by
    by_cases hv : v.closing = true
    · rwa [if_pos hv] at ht
    · exact Bool.eq_false_iff.2 hv
  have hvnow : v.now = s.now := (congrArg Session.now hh :)
  rw [if_neg (by simp [hnone]), attempt_of_some (Link.beginConnect?_of_disconnected hphase)] at ht ⊢
  exact (dialling_of_redial hh hd hbeat hticks hnow hdue).dial (hvnow.trans hnow) hlimit ht

theorem between_of_announces {m : Move} (hs : s.Reachable) (hst : Timely m s t) (hstart : s.now = p.start)
    (hann : Announces p.attempt s t) (hq : t.queue = []) (hi : s.setup.beat.interval.nanos = p.tick * 1000000)
    (hticks : s.setup.beat.ticksFor (s.link.retry.rule.backoff p.attempt) = p.ticks)
    (hlimit : (s.setup.connectTimeout.shorter (s.link.retry.rule.backoff p.attempt)).nanos = p.limit * 1000000) :
    p.Between t := by
  obtain ⟨rfl, hopen, backoff, hd⟩ := hst.step.announces_iff.1 hann
  have hnow := reckoned_le (hst.tick rfl)
  obtain ⟨_, _, hbackoff, _⟩ := s.link.tick_redial hd
  rw [hbackoff] at hticks hlimit
  have hbeat : s.link.beat.millis = p.tick := by rw [hs.beat, Beat.millis_of_nanos p.tick_pos hi]
  cases hst.step with
  | driver hw =>
    have hclosing := (Step.driver hw).closing_of_queue (by simp) hw.underWay hq
    cases hw with
    | tick =>
      have hdue := dueMillis_nextDue hi
      refine between_of_redial hopen hd hbeat (hs.beat ▸ hticks) hstart ?_ hlimit (hclosing.trans hopen)
      omega

theorem Between.dialing (h : p.Between s) (hd : s.activity.isDialing = true) :
    s.now ≤ p.start + p.limit ∧
      (s.now = p.start + p.limit → ∃ t, s.driverStep? = some t ∧ t.activity.isDialing = false) := by
  cases h with
  | @dialling d h hdial _ hend _ =>
    refine ⟨h.ends, fun hnow => ?_⟩
    unfold driverStep?
    rw [hdial]
    exact settleDial_of_late (by omega)
  | waiting h => rw [h.activity] at hd; cases hd
  | ended h => rw [h.dialing] at hd; cases hd

theorem Between.next {m : Move} (h : p.Between s) (hst : Timely m s t) (hfirst : 0 < p.attempt)
    (hann : Announces (p.attempt + 1) s t) :
    p.start + p.ticks * p.tick ≤ t.now + 5 ∧ t.now ≤ p.start + (p.ticks + 1) * p.tick := by
  obtain ⟨rfl, _, backoff, hd⟩ := hst.step.announces_iff.1 hann
  obtain ⟨_, hcount, _, he⟩ := s.link.tick_redial hd
  have hdue := hst.tick rfl
  cases hst.step with
  | driver hw =>
    have hnow := hw.now
    have hidle : s.activity = .idle := by
      cases hw with
      | tick hi => exact hi
    cases h with
    | dialling _ hdial => rw [hidle] at hdial; cases hdial
    | ended h =>
      rcases h.fresh with hx | hx | hx
      · rw [hidle] at hx
        cases hx
      · omega
      · rw [he] at hx
        cases hx
    | @waiting c h =>
      cases c with
      | succ c =>
        have hmax := p.ticks_le
        have hleft := h.left
        obtain ⟨hn, _⟩ := h.counting.tick_succ (by simp [h.phase]) (by omega)
        rw [hn] at hd
        cases hd
      | zero =>
        have hreckoned := reckoned_le hdue
        have hearly := h.early
        have hby := h.now
        omega

end Pause

namespace Session

/-- Attempts to connect again are kept apart by their backoff: the handshake is over in time, and the next attempt
comes when the ticks of the backoff have gone by, neither earlier than a late timer makes up for nor later than one
tick more. -/
theorem attempts_spaced_by_backoff {m : Move} {s t u : Session} {k T I C : Nat} (hs : s.Reachable)
    (htick : s.setup.beat.interval.nanos = T * 1000000) (hT : 1 ≤ T)
    (hinterval : s.link.retry.rule.interval.nanos = I * 1000000) (hI : 0 < I ∨ k < 32)
    (htimeout : s.setup.connectTimeout.nanos = C * 1000000) (hcap : s.setup.rule.maxDelay = RetryRule.longestDelay)
    (hst : Timely m s t) (hann : Announces k s t) (hlull : Lull t u) :
    let b := s.link.retry.rule.backoff k
    let n := s.setup.beat.ticksFor b
    b.nanos = min (2 ^ k * I) 60000 * 1000000 ∧
      (u.activity.isDialing = true →
        u.now ≤ s.now + min C b.millis ∧
          (u.now = s.now + min C b.millis → ∃ v, u.driverStep? = some v ∧ v.activity.isDialing = false)) ∧
      ∀ m' v, Timely m' u v → Announces (k + 1) u v →
        s.now + n * T - 5 ≤ (v.now : Int) ∧ v.now ≤ s.now + (n + 1) * T := by
  intro b n
  have hcap' : s.link.retry.rule.maxDelay = RetryRule.longestDelay := hs.maxDelay.trans hcap
  have hlongest : RetryRule.longestDelay.nanos = 60000 * 1000000 := rfl
  -- nothing doubled is nothing, but from the 32nd attempt on the cap would stand in for it
  have hb : b.nanos = min (2 ^ k * I) 60000 * 1000000 := by
    have hformula := s.link.retry.rule.nanos_backoff (k := k) (by rw [hcap', hinterval, hlongest]; omega)
    rw [hcap', hinterval, hlongest, ← Nat.mul_assoc, Nat.mul_min_mul_right] at hformula
    exact hformula
  have hmillis : b.millis = min (2 ^ k * I) 60000 := by
    rw [Span.millis, hb, Nat.mul_div_cancel _ (by decide)]
  have hticks : n = (max 1 (b.millis / T) : Nat) := by
    rw [← Beat.millis_of_nanos hT htick]
    exact Beat.ticksFor_of_millis (by omega)
  have hshort : (s.setup.connectTimeout.shorter b).nanos = min C b.millis * 1000000 := by
    rw [Span.nanos_shorter, htimeout, hb, hmillis, Nat.mul_min_mul_right]
  have hdiv := Nat.div_add_mod b.millis T
  have hmod := Nat.mod_lt b.millis hT
  have hdivle := Nat.div_le_self b.millis T
  let p : Pause :=
    { attempt := k, start := s.now, limit := min C b.millis, tick := T, ticks := max 1 (b.millis / T)
      tick_pos := hT, limit_le := by omega, ticks_le := by omega
      limit_lt := by
        have hle := Nat.mul_le_mul_right T (Nat.le_max_right 1 (b.millis / T))
        rw [Nat.mul_comm] at hdiv
        rw [Nat.add_one_mul]
        omega }
  have hbetween : p.Between t := p.between_of_announces hs hst rfl hann hlull.first htick hticks hshort
  have hsetup := hst.step.steers.1
  obtain ⟨hu, hp⟩ := hbetween.lull (hsetup ▸ htick) hlull
  refine ⟨hb, hu.dialing, fun m' v hst' hann' => ?_⟩
  have hfirst : 0 < k := by
    obtain ⟨_, _, backoff, hd⟩ := hst.step.announces_iff.1 hann
    have := (s.link.tick_redial hd).2.1
    omega
  have hnext : s.now + max 1 (b.millis / T) * T ≤ v.now + 5 ∧ v.now ≤ s.now + (max 1 (b.millis / T) + 1) * T :=
    hu.next hst' hfirst hann'
  rw [hticks]
  generalize max 1 (b.millis / T) = ticks at hnext
  have hmul := Int.natCast_mul ticks T
  have hmul' := Int.natCast_mul (ticks + 1) T
  rw [Int.natCast_succ] at hmul'
  omega

theorem attempts_spaced_by_backoff_of_timeout :
    ∃ s t u v : Session, s.Reachable ∧ Announces 1 s t ∧ Lull t u ∧ Announces 2 u v ∧ t.activity.isDialing = true ∧
      t.now ≤ s.now + 10000 ∧ (s.now : Int) + 1 * 10000 - 5 ≤ v.now ∧ (v.now : Int) ≤ s.now + 2 * 10000 := by
  -- the second handshake hangs for the ten seconds of its backoff, which are one tick
  have first := Run.nil (start { Setup.standard with rule := .on (.ofSeconds 5) 3, beat := ⟨.ofSeconds 10⟩ }
    ⟨"key", "token"⟩ .none (.start [⟨.refuse .closed, 0⟩] ⟨.hang, 0⟩) fun _ => none)
  have asked := (first.append (.single (.call .connect _))).append
    (.single (@Step.connect _ 1 (by simp [call, requestConnect, start])))
  have refused := (asked.append (.single (.driver (.command rfl rfl rfl)))).append
    (.single (.driver (.handshake rfl rfl)))
  have ticked := (refused.append (.single (@Step.wait _ 10000 (by decide)))).append (.single (.driver (.tick rfl rfl)))
  have waited := ticked.append (.single (@Step.wait _ 20000 (by decide)))
  have tick {ms : List Move} {s t : Session} (_ : Run ms s t) (hi : t.activity = .idle) (hf : t.timerFails = false)
      (hdue : t.dueMillis ≤ t.now) := timely_onTick hi hf hdue
  have begun {m : Move} {s t : Session} (_ : Timely m s t) (hq : t.queue = []) := Lull.refl hq
  have retry := tick waited rfl rfl (by decide)
  have hanging := begun retry rfl
  have failed := (hanging.wait (@Nat.le_of_ble_eq_true _ 30000 rfl) (by decide +kernel) rfl (by decide) rfl).works
    (.handshake rfl (settleDial_of_hang rfl rfl (by decide +kernel))) (by decide) rfl
  have late {s t : Session} (_ : Lull s t) (hi : t.activity = .idle) (hf : t.timerFails = false)
      (hdue : t.dueMillis ≤ t.now) := timely_onTick hi hf hdue
  have again := late failed rfl rfl (by decide +kernel)
  have hs : Reachable _ := ⟨_, _, _, _, _, _, waited⟩
  have announced : Announces 1 _ _ := retry.step.announces_iff.2 ⟨rfl, rfl, _, rfl⟩
  have announced' : Announces 2 _ _ := again.step.announces_iff.2 ⟨rfl, rfl, _, rfl⟩
  obtain ⟨_, hdial, _⟩ := attempts_spaced_by_backoff (T := 10000) (I := 5000) (C := 30000) hs rfl (by decide) rfl
    (by decide) rfl rfl retry announced hanging
  obtain ⟨_, _, hnext⟩ := attempts_spaced_by_backoff (T := 10000) (I := 5000) (C := 30000) hs rfl (by decide) rfl
    (by decide) rfl rfl retry announced failed
  exact ⟨_, _, _, _, hs, announced, failed, announced', rfl, (hdial rfl).1, hnext _ _ again announced'⟩

end Session

end MarketTicker
