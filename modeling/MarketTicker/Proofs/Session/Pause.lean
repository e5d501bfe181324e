import MarketTicker.Proofs.Liveness.Backoff
import MarketTicker.Proofs.Session.Acts
import MarketTicker.Proofs.Session.Timed

namespace MarketTicker

/-- The time from an attempt to the next, in milliseconds: when the attempt was announced, how long its handshake
may take, how long a tick is, and how many of them are to go by. -/
structure Pause where
  attempt : Nat
  start : Nat
  limit : Nat
  tick : Nat
  ticks : Nat
  tick_pos : 0 < tick
  limit_lt : limit < (ticks + 1) * tick
  limit_le : limit ≤ 60000
  ticks_le : ticks ≤ 60000

namespace Pause

open Session

structure Counting (p : Pause) (c : Nat) (l : Link) : Prop where
  countdown : l.countdown = ⟨c, true⟩
  enabled : l.retryEnabled = true
  count : l.retry.count = p.attempt
  beat : l.beat.millis = p.tick

structure Dialling (p : Pause) (s : Session) : Prop where
  phase : s.link.phase = .connecting
  connection : s.connection = none
  counting : p.Counting p.ticks s.link
  began : p.start ≤ s.now
  ends : s.now ≤ p.start + p.limit
  due : s.dueMillis ≤ p.start + p.tick

structure Waiting (p : Pause) (c : Nat) (s : Session) : Prop where
  activity : s.activity = .idle
  phase : s.link.phase = .disconnected
  connection : s.connection = none
  counting : p.Counting c s.link
  left : c ≤ p.ticks
  now : s.now + c * p.tick ≤ p.start + (p.ticks + 1) * p.tick
  due : s.dueMillis + c * p.tick ≤ p.start + (p.ticks + 1) * p.tick
  early : p.start + p.ticks * p.tick ≤ s.reckoned + c * p.tick + 5

/-- The handshake is over, and the attempt that follows can be none but a first one. -/
structure Over (s : Session) : Prop where
  dialing : s.activity.isDialing = false
  fresh : s.activity = .stopped ∨ s.link.Fresh

inductive Between (p : Pause) (s : Session) : Prop
  | dialling {d : Dial} : p.Dialling s → s.activity = .dialing d → d.cause = .retry p.start →
      d.deadline = p.start + p.limit → s.closing = false → Between p s
  | waiting {c : Nat} : p.Waiting c s → s.closing = false → Between p s
  | ended : Over s → Between p s

variable {p : Pause} {s t u : Session} {c : Nat}

theorem Counting.elapsed {l : Link} {span : Span} (h : p.Counting p.ticks l) (hp : l.phase ≠ .closing)
    (hq : span.millis / p.tick ≤ p.ticks) : p.Counting (p.ticks - span.millis / p.tick) (l.elapsed span) := by
  have hmax := p.ticks_le
  unfold Link.elapsed Countdown.advance Beat.ticksIn
  rw [if_neg hp, h.countdown, h.beat, if_pos rfl]
  refine ⟨?_, h.enabled, h.count, h.beat⟩
  generalize span.millis / p.tick = q at hq
  have hused : saturate q = q := saturate_of_mem (by omega) (by omega)
  have hleft : saturate (p.ticks - q) = (p.ticks - q : Nat) := by
    rw [saturate_of_mem (by omega) (by omega)]
    omega
  dsimp only
  rw [hused, hleft]
  simp

theorem div_le_ticks (p : Pause) {spent : Nat} (h : spent ≤ p.limit) : spent / p.tick ≤ p.ticks := by
  apply Nat.le_of_lt_succ
  rw [Nat.div_lt_iff_lt_mul p.tick_pos]
  exact Nat.lt_of_le_of_lt h p.limit_lt

/-- A handshake that fails at any time leaves the ticks of which it has not used up the time. -/
theorem Dialling.failed (h : p.Dialling s) (fault : ConnectFault) :
    ∃ c, p.Waiting c (s.attemptFailed (.retry p.start) fault) := by
  have hh := helm_attemptFailed s (.retry p.start) fault
  have hbegan := h.began
  have hends := h.ends
  have hlimit := p.limit_le
  have hspent : (s.elapsedSince p.start).millis = s.now - p.start := millis_elapsedSince (by omega)
  have hq : (s.elapsedSince p.start).millis / p.tick ≤ p.ticks := by
    apply p.div_le_ticks
    omega
  have hfailed : s.link.connectFailed = { s.link with phase := .disconnected } :=
    Link.connectFailed_of_running h.phase h.counting.enabled (by rw [h.counting.countdown])
  have hdown : p.Counting p.ticks s.link.connectFailed := by
    rw [hfailed]
    exact ⟨h.counting.countdown, h.counting.enabled, h.counting.count, h.counting.beat⟩
  have hlink : (s.attemptFailed (.retry p.start) fault).link = s.link.connectFailed.elapsed (s.elapsedSince p.start) :=
    (congrArg Session.link hh :)
  have hnow : (s.attemptFailed (.retry p.start) fault).now = s.now := (congrArg Session.now hh :)
  have hdue : (s.attemptFailed (.retry p.start) fault).dueMillis = s.dueMillis :=
    (congrArg Session.dueMillis hh :)
  have hreckoned : (s.attemptFailed (.retry p.start) fault).reckoned = s.reckoned :=
    (congrArg Session.reckoned hh :)
  have hsplit : (s.now - p.start) / p.tick * p.tick + (p.ticks - (s.now - p.start) / p.tick) * p.tick =
      p.ticks * p.tick := by
    rw [← Nat.add_mul, Nat.add_sub_cancel' (hspent ▸ hq)]
  have hdiv := Nat.div_add_mod (s.now - p.start) p.tick
  have hmod := Nat.mod_lt (s.now - p.start) p.tick_pos
  rw [Nat.mul_comm] at hdiv
  have hnext := Nat.add_one_mul p.ticks p.tick
  have hlate := s.now_le_reckoned
  have hdueby := h.due
  refine ⟨p.ticks - (s.now - p.start) / p.tick, ?_⟩
  constructor
  case activity => exact (congrArg Session.activity hh :)
  case phase => rw [hlink, Link.phase_elapsed, hfailed]
  case connection => exact (congrArg Session.connection hh :).trans h.connection
  case counting =>
    rw [hlink, ← hspent]
    exact hdown.elapsed (by simp [hfailed]) hq
  case left => exact Nat.sub_le _ _
  case now =>
    rw [hnow]
    omega
  case due =>
    rw [hdue]
    omega
  case early =>
    rw [hreckoned]
    omega

theorem Counting.tick_succ {l : Link} (h : p.Counting (c + 1) l) (hp : l.phase ≠ .closing)
    (hc : c ≤ 60000) : l.tick.1 = .nothing ∧ l.tick.2 = { l with countdown := ⟨c, true⟩ } := by
  have ht := l.ticked
  have hl := h.countdown
  generalize l.tick.1 = d at ht ⊢
  generalize l.tick.2 = l' at ht ⊢
  cases ht with
  | closing hx => exact absurd hx hp
  | stopped _ hr => simp [hl] at hr
  | counted =>
    have hc' : saturate ((c + 1 : Nat) - 1) = c := by
      rw [saturate_of_mem (by omega) (by omega)]
      omega
    rw [hl, hc']
    exact ⟨rfl, rfl⟩
  | timedOut _ _ hle => rw [hl] at hle; dsimp only at hle; omega
  | redialled _ _ hle => rw [hl] at hle; dsimp only at hle; omega
  | gaveUp _ _ hle => rw [hl] at hle; dsimp only at hle; omega

theorem Counting.tick_zero {l : Link} (h : p.Counting 0 l) (hp : l.phase ≠ .closing) :
    (∃ backoff, l.tick.1 = .redial (p.attempt + 1) backoff) ∨ l.tick.1 = .giveUp ∧ l.tick.2.retryEnabled = false := by
  have ht := l.ticked
  generalize l.tick.1 = d at ht ⊢
  generalize l.tick.2 = l' at ht ⊢
  cases ht with
  | closing hx => exact absurd hx hp
  | stopped _ hr => simp [h.countdown] at hr
  | counted _ _ hlt => simp [h.countdown] at hlt
  | timedOut _ _ _ he => simp [h.enabled] at he
  | redialled =>
    rw [h.count]
    exact .inl ⟨_, rfl⟩
  | gaveUp => exact .inr ⟨rfl, rfl⟩

/-- The time that the driver keeps: it ticks as the pause says, and no command waits. -/
structure Paced (p : Pause) (s : Session) : Prop where
  interval : s.setup.beat.interval.nanos = p.tick * 1000000
  queue : s.queue = []

theorem Counting.onTick_succ (h : p.Counting (c + 1) s.link) (hopen : s.closing = false)
    (hp : s.link.phase ≠ .closing) (hc : c ≤ 60000) :
    s.onTick = { s with link := { s.link with countdown := ⟨c, true⟩ } } := by
  obtain ⟨hd, hl⟩ := h.tick_succ hp hc
  rw [onTick_of_nothing hopen hd, hl]

theorem Counting.onTick_zero (h : p.Counting 0 s.link) (hopen : s.closing = false)
    (hp : s.link.phase ≠ .closing) (hi : s.activity = .idle) (hn : ∀ n, ¬Announces n s s.onTick) : Over s.onTick := by
  rcases h.tick_zero hp with ⟨backoff, hd⟩ | ⟨hd, he⟩
  · exact absurd (announces_of_redial (by rw [hi]; rfl) hopen hd) (hn _)
  · have hh := helm_onTick_of_end hopen (.inl hd)
    have ha : s.onTick.activity = s.activity := (congrArg Session.activity hh :)
    have hl : s.onTick.link = s.link.tick.2 := (congrArg Session.link hh :)
    exact ⟨by rw [ha, hi]; rfl, .inr (.inr (by rw [hl, he]))⟩

theorem Waiting.tick (h : p.Waiting c s) (hopen : s.closing = false) (hp : p.Paced s) (hdue : s.dueMillis ≤ s.now)
    (hn : ∀ n, ¬Announces n s ({ s with due := s.nextDue } : Session).onTick) :
    p.Between ({ s with due := s.nextDue } : Session).onTick := by
  have hphase : s.link.phase ≠ .closing := by simp [h.phase]
  cases c with
  | zero =>
    exact .ended (Counting.onTick_zero h.counting hopen hphase h.activity fun n hx => hn n (hx.of_trace_eq rfl))
  | succ c =>
    have hmax := p.ticks_le
    have hleft := h.left
    have hs : ({ s with due := s.nextDue } : Session).onTick = _ :=
      Counting.onTick_succ h.counting hopen hphase (by omega)
    rw [hs]
    have hnext := dueMillis_nextDue hp.interval
    have hreckoned := reckoned_le hdue
    have hlater := dueMillis_le_reckoned { s with due := s.nextDue }
    have hsucc := Nat.add_one_mul c p.tick
    have hnow := h.now
    have hearly := h.early
    have hcounting : p.Counting c { s.link with countdown := ⟨c, true⟩ } :=
      ⟨rfl, h.counting.enabled, h.counting.count, h.counting.beat⟩
    refine .waiting ⟨h.activity, h.phase, h.connection, hcounting, by omega, ?_, ?_, ?_⟩ hopen
    · change s.now + c * p.tick ≤ _
      omega
    · change dueMillis { s with due := s.nextDue } + c * p.tick ≤ _
      omega
    · change _ ≤ reckoned { s with due := s.nextDue } + c * p.tick + 5
      omega

section

variable (h : Over s) (hrun : s.activity.underWay = true)

include h hrun

theorem Over.link : s.link.Fresh := by
  rcases h.fresh with hx | hf
  · simp [hx, Activity.underWay] at hrun
  · exact hf

theorem Over.of_helm_eq (ht : t.helm = u) (ha : u.activity = s.activity ∨ u.activity = .idle) (hl : u.link = s.link) :
    Over t := by
  subst ht
  refine ⟨?_, .inr (hl ▸ h.link hrun)⟩
  change t.helm.activity.isDialing = false
  rcases ha with ha | ha
  · rw [ha]
    exact h.dialing
  · rw [ha]
    rfl

theorem Over.onTick (hn : ∀ n, ¬Announces n s s.onTick) : Over s.onTick := by
  by_cases hcl : s.closing = true
  · unfold Session.onTick
    rw [if_pos hcl]
    exact h
  · rw [Bool.not_eq_true] at hcl
    have key (hd : s.link.tick.1.attempt? = none) (ha : s.onTick.activity = s.activity)
        (hl : s.onTick.link = s.link.tick.2) : Over s.onTick := by
      refine ⟨by rw [ha, h.dialing], .inr ?_⟩
      rw [hl]
      exact (h.link hrun).ticked s.link.ticked hd
    cases hd : s.link.tick.1 with
    | redial n backoff => exact absurd (announces_of_redial hrun hcl hd) (hn n)
    | nothing =>
      have hs := onTick_of_nothing hcl hd
      exact key (by rw [hd]; rfl) (by rw [hs]) (by rw [hs])
    | giveUp =>
      have hs := helm_onTick_of_end hcl (.inl hd)
      exact key (by rw [hd]; rfl) (congrArg Session.activity hs :) (congrArg Session.link hs :)
    | timeOut =>
      have hs := helm_onTick_of_end hcl (.inr hd)
      exact key (by rw [hd]; rfl) (congrArg Session.activity hs :) (congrArg Session.link hs :)

theorem Over.receive (d : Delivery) : Over (s.receive d) := by
  rcases helm_receive s d with ht | ⟨fault?, ht⟩
  · have hl : Over { s with link := s.link.dataReceived } := ⟨h.dialing, .inr (h.link hrun)⟩
    exact hl.of_helm_eq hrun ht (.inl rfl) rfl
  · rw [ht]
    have hh := helm_connectionLost s fault?
    rw [helm_dropConnection] at hh
    split at hh
    · exact h.of_helm_eq hrun hh (.inl rfl) rfl
    · have hl : Over { s with link := s.link.connectionLost } := ⟨h.dialing, .inr (h.link hrun).connectionLost⟩
      exact hl.of_helm_eq hrun hh (.inl rfl) rfl

theorem Over.send (c : Control) : Over (s.send c) := by
  rcases helm_send s c with ht | ⟨wire, _, ht⟩
  · exact h.of_helm_eq hrun ht (.inl rfl) rfl
  · exact h.of_helm_eq hrun ht (.inl rfl) rfl

end

theorem Over.works {task : Task} (h : Over s) (hw : Works task s t) (hq : s.queue = [])
    (hn : ∀ n, ¬Announces n s t) : Over t := by
  have hrun := hw.underWay
  cases hw with
  | command _ _ hc => rw [hq] at hc; cases hc
  | tick =>
    have hd : Over { s with due := s.nextDue } := ⟨h.dialing, h.fresh⟩
    exact hd.onTick hrun fun n hx => hn n (hx.of_trace_eq rfl)
  | delivery _ _ hd =>
    obtain ⟨wire, rest, _, _, rfl⟩ := takeDelivery?_eq_some hd
    have hnet : Over { s with net := s.net.update wire fun w => { w with inbox := rest } } := ⟨h.dialing, h.fresh⟩
    exact hnet.receive hrun _
  | handshake hd => simpa [hd, Activity.isDialing] using h.dialing
  | @restore _ c rest sequel _ =>
    have ha : Over { s with activity := .restoring rest sequel } := ⟨rfl, .inr (h.link hrun)⟩
    exact ha.send rfl c
  | @conclude _ sequel _ => exact h.of_helm_eq hrun (helm_conclude s sequel) (.inr rfl) rfl
  | @hungUp _ wire previous _ _ => exact h.of_helm_eq hrun (helm_hungUp s wire previous) (.inr rfl) rfl
  | @hangUpLate _ wire previous _ _ _ => exact h.of_helm_eq hrun (helm_hungUp _ wire previous) (.inr rfl) rfl
  | collapse => exact ⟨rfl, .inl rfl⟩
  | stop =>
    have ha : s.stop.activity = .stopped := (congrArg Session.activity (helm_stop s) :)
    exact ⟨by rw [ha]; rfl, .inl ha⟩

theorem over_attemptSucceeded (s : Session) (cause : Cause) (manner : Manner) :
    Over (s.attemptSucceeded cause manner) := by
  have hh := helm_attemptSucceeded s cause manner
  have ha : (s.attemptSucceeded cause manner).activity = _ := (congrArg Session.activity hh :)
  have hl : (s.attemptSucceeded cause manner).link = s.link.connectSucceeded := (congrArg Session.link hh :)
  exact ⟨by rw [ha]; rfl, .inr (.inl (by rw [hl]; rfl))⟩

theorem Between.works {task : Task} (h : p.Between s) (hp : p.Paced s) (hw : Works task s t)
    (hdue : task = .tick → s.dueMillis ≤ s.now) (ht : t.queue = []) (hn : ∀ n, ¬Announces n s t) :
    p.Between t := by
  have hclosing : t.closing = s.closing := (Step.driver hw).closing_of_queue (by simp) hw.underWay ht
  cases h with
  | ended h => exact .ended (h.works hw hp.queue hn)
  | waiting h hopen =>
    cases hw with
    | command _ _ hc => rw [hp.queue] at hc; cases hc
    | tick => exact h.tick hopen hp (hdue rfl) hn
    | delivery _ _ hd =>
      obtain ⟨_, _, hc, _⟩ := takeDelivery?_eq_some hd
      rw [h.connection] at hc
      cases hc
    | handshake hd => rw [h.activity] at hd; cases hd
    | restore hr => rw [h.activity] at hr; cases hr
    | conclude hr => rw [h.activity] at hr; cases hr
    | hungUp hh => rw [h.activity] at hh; cases hh
    | hangUpLate hh => rw [h.activity] at hh; cases hh
    | collapse => exact .ended ⟨rfl, .inl rfl⟩
    | stop =>
      have ha : s.stop.activity = .stopped := (congrArg Session.activity (helm_stop s) :)
      exact .ended ⟨by rw [ha]; rfl, .inl ha⟩
  | @dialling d h hd hcause hend hopen =>
    obtain ⟨_, hs⟩ := hw.settles hd
    rcases settleDial_eq_some hs with ⟨fault, rfl⟩ | ⟨_, manner, rfl⟩
    · rw [hcause] at hclosing ⊢
      obtain ⟨c, hc⟩ := h.failed fault
      exact .waiting hc (hclosing.trans hopen)
    · exact .ended (over_attemptSucceeded _ _ _)

theorem Dialling.congr (h : p.Dialling s) (hl : t.link = s.link) (hc : t.connection = s.connection)
    (hn : t.now = s.now) (hd : t.due = s.due) : p.Dialling t where
  phase := by rw [hl, h.phase]
  connection := by rw [hc, h.connection]
  counting := hl ▸ h.counting
  began := hn ▸ h.began
  ends := hn ▸ h.ends
  due := by
    rw [dueMillis, hd]
    exact h.due

theorem Waiting.congr (h : p.Waiting c s) (ha : t.activity = s.activity) (hl : t.link = s.link)
    (hc : t.connection = s.connection) (hn : t.now = s.now) (hd : t.due = s.due) : p.Waiting c t := by
  have hdue : t.dueMillis = s.dueMillis := by rw [dueMillis, dueMillis, hd]
  have hreckoned : t.reckoned = s.reckoned := by rw [reckoned, reckoned, nanos, nanos, hd, hn, hdue]
  constructor
  case activity => rw [ha, h.activity]
  case phase => rw [hl, h.phase]
  case connection => rw [hc, h.connection]
  case counting => exact hl ▸ h.counting
  case left => exact h.left
  case now => exact hn ▸ h.now
  case due => exact hdue ▸ h.due
  case early => exact hreckoned ▸ h.early

theorem Between.congr (h : p.Between s) (hl : t.link = s.link) (hc : t.connection = s.connection)
    (ha : t.activity = s.activity) (hn : t.now = s.now) (hd : t.due = s.due) (hcl : t.closing = s.closing) :
    p.Between t := by
  cases h with
  | dialling h hdial hcause hend hopen =>
    exact .dialling (h.congr hl hc hn hd) (ha.trans hdial) hcause hend (hcl.trans hopen)
  | waiting h hopen => exact .waiting (h.congr ha hl hc hn hd) (hcl.trans hopen)
  | ended h =>
    refine .ended ⟨?_, ?_⟩
    · rw [ha, h.dialing]
    · rw [ha, hl]
      exact h.fresh

theorem Between.wait (h : p.Between s) {now : Nat} (hle : s.now ≤ now)
    (hwake : ∀ wake, s.nextWake? = some wake → now ≤ wake) : p.Between { s with now } := by
  cases h with
  | @dialling d h hdial hcause hend hopen =>
    have hnow : now ≤ d.deadline := by
      unfold nextWake? at hwake
      rw [hdial] at hwake
      have hwake := hwake _ rfl
      split at hwake
      · exact hwake
      · omega
    refine .dialling ⟨h.phase, h.connection, h.counting, ?_, ?_, h.due⟩ hdial hcause hend hopen
    · exact Nat.le_trans h.began hle
    · exact hend ▸ hnow
  | @waiting c h hopen =>
    have hnow : now ≤ s.dueMillis := by
      apply hwake
      unfold nextWake?
      rw [h.activity]
    have hdue := h.due
    have hearly := h.early
    have hlater : reckoned { s with now } = s.dueMillis := reckoned_of_le hnow
    rw [reckoned_of_le (Nat.le_trans hle hnow)] at hearly
    refine .waiting ⟨h.activity, h.phase, h.connection, h.counting, h.left, ?_, h.due, ?_⟩ hopen
    · change now + c * p.tick ≤ _
      omega
    · rw [hlater]
      exact hearly
  | ended h => exact .ended ⟨h.dialing, h.fresh⟩

theorem Between.step {m : Move} (h : p.Between s) (hp : p.Paced s) (hst : Timely m s t) (hm : ∀ c, m ≠ .call c)
    (hm' : ∀ id, m ≠ .connect id) (ht : t.queue = []) (hn : ∀ n, ¬Announces n s t) : p.Between t := by
  have hwait := hst.wait
  have htick := hst.tick
  cases hst.step with
  | driver hw => exact h.works hp hw (fun hx => htick (by rw [hx])) ht hn
  | call c => exact absurd rfl (hm c)
  | @connect _ id => exact absurd rfl (hm' id)
  | returned => exact h.congr rfl rfl rfl rfl rfl rfl
  | wait hle => exact h.wait hle (hwait rfl).2
  | push wire d =>
    obtain ⟨net, hpush, _⟩ := push_eq s wire d
    rw [hpush]
    exact h.congr rfl rfl rfl rfl rfl rfl
  | listen => exact h.congr rfl rfl rfl rfl rfl rfl
  | drop => exact h.congr rfl rfl rfl rfl rfl rfl

theorem Between.lull (h : p.Between s) (hi : s.setup.beat.interval.nanos = p.tick * 1000000) (hl : Lull s t) :
    p.Between t ∧ p.Paced t := by
  induction hl with
  | refl hq => exact ⟨h, hi, hq⟩
  | step _ ht hm hm' hq hn ih =>
    obtain ⟨hb, hp⟩ := ih h hi
    have hsetup := ht.step.steers.1
    exact ⟨hb.step hp ht hm hm' hq hn, by rw [hsetup, hp.interval], hq⟩

end Pause

end MarketTicker
