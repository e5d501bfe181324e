import MarketTicker.Proofs.Session.Acts
import MarketTicker.Proofs.Session.Scenario
import MarketTicker.Proofs.Session.Timed

namespace MarketTicker

namespace Link

def Forbears (l l' : Link) : Prop :=
  l'.connected = true → l'.countdown.running = true →
    l'.countdown.left = l'.window ∨ l.connected = true ∧ l'.countdown = l.countdown ∧ l'.window = l.window

variable {l l' : Link}

theorem forbears_refl (l : Link) : Forbears l l :=
  fun hc _ => .inr ⟨hc, rfl, rfl⟩

theorem forbears_of_down (h : l'.phase ≠ .connected) : Forbears l l' := by
  intro hc
  exact absurd (of_decide_eq_true hc) h

theorem forbears_of_full (h : l'.countdown.left = l'.window) : Forbears l l' :=
  fun _ _ => .inl h

theorem forbears_of_stopped (h : l'.countdown.running = false) : Forbears l l' := by
  intro _ hr
  rw [h] at hr
  cases hr

theorem Forbears.trans {l'' : Link} (h : Forbears l l') (h' : Forbears l' l'') : Forbears l l'' := by
  intro hc hr
  rcases h' hc hr with hfull | ⟨hc', hcount', hwindow'⟩
  · exact .inl hfull
  · rcases h hc' (hcount' ▸ hr) with hfull | ⟨hc, hcount, hwindow⟩
    · exact .inl (by rw [hcount', hwindow', hfull])
    · exact .inr ⟨hc, hcount'.trans hcount, hwindow'.trans hwindow⟩

theorem left_enableRetry (l : Link) (interval : Span) (maxRetries : Nat) :
    (l.enableRetry interval maxRetries).countdown.left = (l.enableRetry interval maxRetries).window := by
  unfold enableRetry
  dsimp only
  split
  · rfl
  · rfl

theorem down_connectFailed (h : l.phase ≠ .connected) : l.connectFailed.phase ≠ .connected := by
  rw [phase_connectFailed]
  split
  · simp
  · exact h

end Link

namespace Session

variable {s t u v : Session}

structure Steady (s t : Session) : Prop where
  due : t.due = s.due
  link : s.link.Forbears t.link

namespace Steady

theorem trans (h : Steady s t) (h' : Steady t u) : Steady s u :=
  ⟨h'.due.trans h.due, h.link.trans h'.link⟩

theorem keep (hd : t.due = s.due) (hl : t.link = s.link) : Steady s t :=
  ⟨hd, hl ▸ Link.forbears_refl s.link⟩

theorem of_helm (h : t.helm = s.helm) : Steady s t :=
  keep (congrArg Session.due h :) (congrArg Session.link h :)

theorem of_helm_eq (h : t.helm = u) (hu : Steady s u) : Steady s t := by
  subst h
  exact ⟨hu.due, hu.link⟩

end Steady

theorem down_attemptFailed (h : s.link.phase ≠ .connected) (cause : Cause) (fault : ConnectFault) :
    (s.attemptFailed cause fault).link.phase ≠ .connected := by
  have hl : (s.attemptFailed cause fault).link = _ := (congrArg Session.link (helm_attemptFailed s cause fault) :)
  rw [hl, phase_settled]
  exact Link.down_connectFailed h

theorem steady_attemptFailed (h : s.link.phase ≠ .connected) (cause : Cause) (fault : ConnectFault) :
    Steady s (s.attemptFailed cause fault) :=
  ⟨(congrArg Session.due (helm_attemptFailed s cause fault) :), Link.forbears_of_down (down_attemptFailed h cause fault)⟩

theorem steady_attempt (s : Session) (cause : Cause) (limit : Span) : Steady s (s.attempt cause limit) := by
  cases hb : s.link.beginConnect? with
  | none => exact .of_helm_eq (helm_attempt_of_none hb) (.keep rfl rfl)
  | some l =>
    obtain ⟨_, rfl⟩ := Link.beginConnect?_eq_some hb
    have hbegun : Steady s ({ s with link := { s.link with phase := .connecting } } : Session).publish :=
      ⟨rfl, Link.forbears_of_down (by simp [publish, record, note])⟩
    rw [attempt_of_some hb]
    apply hbegun.trans
    rcases helm_dial ({ s with link := { s.link with phase := .connecting } } : Session).publish cause limit with
      ⟨fault, h⟩ | ⟨_, _, d, _, _, h⟩
    · exact (steady_attemptFailed (by simp [publish, record, note]) cause fault).trans (.of_helm h)
    · exact .of_helm_eq h (.keep rfl rfl)

theorem steady_connectionLost (s : Session) (fault? : Option TransportFault) : Steady s (s.connectionLost fault?) := by
  have h := helm_connectionLost s fault?
  rw [helm_dropConnection] at h
  split at h
  · exact .of_helm_eq h (.keep rfl rfl)
  · rename_i hp
    refine .of_helm_eq h ⟨rfl, Link.forbears_of_down ?_⟩
    dsimp only
    rw [Link.phase_connectionLost_of_open hp]
    simp

theorem steady_shut (s : Session) : Steady s s.shut := by
  have hdown : s.link.Forbears s.link.close := Link.forbears_of_down (by simp)
  cases hc : s.connection with
  | none => exact .of_helm_eq (helm_shut_of_none hc) ⟨rfl, hdown⟩
  | some wire =>
    rcases helm_shut_of_some hc with h | h
    · exact .of_helm_eq h ⟨rfl, hdown⟩
    · exact .of_helm_eq h ⟨rfl, hdown⟩

theorem steady_send (s : Session) (c : Control) : Steady s (s.send c) := by
  rcases helm_send s c with h | ⟨wire, _, h⟩
  · exact .of_helm h
  · exact .of_helm_eq h (.keep rfl rfl)

theorem steady_handleCommand (s : Session) (c : Command) : Steady s (s.handleCommand c) := by
  cases c with
  | connect caller => exact steady_attempt s _ _
  | send control => exact steady_send s control
  | resubscribe => exact .of_helm_eq (helm_restore s _) (.keep rfl rfl)
  | enableRetry interval maxRetries => exact ⟨rfl, Link.forbears_of_full (s.link.left_enableRetry interval maxRetries)⟩
  | disableRetry => exact ⟨rfl, Link.forbears_of_stopped rfl⟩
  | close => exact steady_shut s

theorem steady_receive (s : Session) (d : Delivery) : Steady s (s.receive d) := by
  rcases helm_receive s d with h | ⟨fault?, h⟩
  · exact .of_helm_eq h ⟨rfl, Link.forbears_of_full rfl⟩
  · rw [h]
    exact steady_connectionLost s fault?

theorem steady_onTick (s : Session) :
    Steady s s.onTick ∨
      s.link.tick.1 = .nothing ∧ s.onTick.due = s.due ∧ s.onTick.link = s.link.tick.2 := by
  rcases helm_onTick s with h | ⟨hd, h⟩ | ⟨hd, h⟩
  · exact .inl (.of_helm h)
  · exact .inr ⟨hd, (congrArg Session.due h :), (congrArg Session.link h :)⟩
  · have hp : s.link.tick.2.phase = .disconnected := by simpa [hd] using s.link.phase_tick
    have hdown : Steady s s.afterExpiry := ⟨rfl, Link.forbears_of_down (by simp [afterExpiry, hp])⟩
    rcases h with h | ⟨t, since, limit, ht, _, h⟩
    · exact .inl (.of_helm_eq h hdown)
    · rw [h]
      exact .inl ((Steady.of_helm_eq ht hdown).trans (steady_attempt t (.retry since) limit))

theorem Works.steady {task : Task} (hw : Works task s t) (ht : task ≠ .tick) (hc : s.Coherent) : Steady s t := by
  cases hw with
  | @command _ c rest _ _ _ =>
    have hq : Steady s { s with queue := rest } := .keep rfl rfl
    exact hq.trans (steady_handleCommand _ c)
  | tick => exact absurd rfl ht
  | delivery _ _ hd =>
    obtain ⟨wire, rest, _, _, rfl⟩ := takeDelivery?_eq_some hd
    have hn : Steady s { s with net := s.net.update wire fun w => { w with inbox := rest } } := .keep rfl rfl
    exact hn.trans (steady_receive _ _)
  | @handshake _ _ d hd h =>
    have hp : s.link.phase = .connecting := hc.dialing.2 (by rw [hd]; rfl)
    rcases settleDial_eq_some h with ⟨fault, rfl⟩ | ⟨_, manner, rfl⟩
    · exact steady_attemptFailed (by simp [hp]) _ _
    · exact .of_helm_eq (helm_attemptSucceeded s d.cause manner) ⟨rfl, Link.forbears_of_full rfl⟩
  | @restore _ c rest sequel _ =>
    have ha : Steady s { s with activity := .restoring rest sequel } := .keep rfl rfl
    exact ha.trans (steady_send _ c)
  | conclude => exact .of_helm_eq (helm_conclude s _) (.keep rfl rfl)
  | hungUp => exact .of_helm_eq (helm_hungUp s _ _) (.keep rfl rfl)
  | hangUpLate => exact .of_helm_eq (helm_hungUp _ _ _) (.keep rfl rfl)
  | collapse => exact .keep rfl rfl
  | stop => exact .of_helm_eq (helm_stop s) (.keep rfl rfl)

theorem Works.started {task : Task} (hw : Works task s t) : t.activity ≠ .unstarted := by
  by_cases ht : task = .stop
  · subst ht
    cases hw with
    | collapse => simp [Session.collapse]
    | stop =>
      have ha : s.stop.activity = .stopped := (congrArg Session.activity (helm_stop s) :)
      simp [ha]
  · intro hu
    have hbusy := (hw.course_any ht).underWay
    have hs : (taken task s).activity = s.activity := by cases task <;> rfl
    rw [hu, hs, hw.underWay] at hbusy
    cases hbusy

theorem due_beginConnect (h : s.activity ≠ .unstarted) (id : Nat) : (s.beginConnect id).due = s.due := by
  have hr : s.clearClosing.renewGeneration.due = s.due ∧ s.clearClosing.renewGeneration.activity = s.activity := by
    unfold renewGeneration
    split
    · exact ⟨rfl, rfl⟩
    · exact ⟨rfl, rfl⟩
  have hl : s.clearClosing.renewGeneration.launch.due = s.due := by
    unfold launch
    rw [if_neg (hr.2 ▸ h)]
    exact hr.1
  unfold beginConnect enqueue
  dsimp only
  split
  · exact hl
  · split
    · exact hl
    · exact hl

/-- What the silence of a connection is counted from: that it was made, that it brought data, and that retries
were allowed. -/
inductive Renewal : Move → Session → Session → Prop
  | connected {s t : Session} : t.link.connected = true → Renewal (.driver .handshake) s t
  | binary {s t u : Session} {data : List UInt8} :
      s.takeDelivery? = some (.binary data, u) → Renewal (.driver .delivery) s t
  | text {s t u : Session} {text : String} :
      s.takeDelivery? = some (.text text, u) → Renewal (.driver .delivery) s t
  | allowed {s t : Session} {interval : Span} {maxRetries : Nat} {rest : List Command} :
      s.queue = .enableRetry interval maxRetries :: rest → Renewal (.driver .command) s t

theorem Renewal.ne_tick {task : Task} (h : Renewal (.driver task) s t) : task ≠ .tick := by
  cases h with
  | connected => simp
  | binary => simp
  | text => simp
  | allowed => simp

theorem full_of_helm (h : t.helm = u) (hu : u.link.countdown.left = u.link.window) :
    t.link.countdown.left = t.link.window := by
  subst h
  exact hu

theorem Renewal.full {task : Task} (h : Renewal (.driver task) s t) (hw : Works task s t) (hc : s.Coherent)
    (hup : t.link.connected = true) : t.link.countdown.left = t.link.window := by
  cases h with
  | connected =>
    cases hw with
    | @handshake _ _ d hd hsettle =>
      have hp : s.link.phase = .connecting := hc.dialing.2 (by rw [hd]; rfl)
      rcases settleDial_eq_some hsettle with ⟨fault, rfl⟩ | ⟨_, manner, rfl⟩
      · exact absurd (of_decide_eq_true hup) (down_attemptFailed (by simp [hp]) _ _)
      · exact full_of_helm (helm_attemptSucceeded s d.cause manner) rfl
  | @binary _ _ u data hd =>
    cases hw with
    | delivery _ _ hd' =>
      obtain ⟨rfl, rfl⟩ := Prod.mk.inj (Option.some.inj (hd'.symm.trans hd))
      exact full_of_helm (helm_onBinary _ data) rfl
  | @text _ _ u text hd =>
    cases hw with
    | delivery _ _ hd' =>
      obtain ⟨rfl, rfl⟩ := Prod.mk.inj (Option.some.inj (hd'.symm.trans hd))
      exact full_of_helm (helm_onText _ text) rfl
  | allowed hq =>
    cases hw with
    | command _ _ hq' =>
      obtain ⟨rfl, rfl⟩ := List.cons.inj (hq'.symm.trans hq)
      exact s.link.left_enableRetry _ _

inductive Passage : Session → Session → Prop
  | refl (s : Session) : Passage s s
  | step {m : Move} {s t u : Session} : Passage s t → Timely m t u → Passage s u

theorem Passage.run (h : Passage s t) : ∃ ms, Run ms s t := by
  induction h with
  | refl => exact ⟨[], .nil _⟩
  | step _ hst ih =>
    obtain ⟨ms, hr⟩ := ih
    exact ⟨ms ++ [_], hr.append (.single hst.step)⟩

theorem Passage.reachable (h : Passage s t) (hs : s.Reachable) : t.Reachable := by
  obtain ⟨_, hr⟩ := h.run
  exact hs.run hr

theorem timely_works {task : Task} (hw : Works task s t) (ht : task ≠ .tick) : Timely (.driver task) s t :=
  ⟨.driver hw, fun hx => absurd (Move.driver.inj hx) ht, by simp⟩

namespace Passage

theorem works {task : Task} (h : Passage s t) (hw : Works task t u) (ht : task ≠ .tick) : Passage s u :=
  h.step (timely_works hw ht)

theorem step_of_ne {m : Move} (h : Passage s t) (hst : Step m t u) (ht : m ≠ .driver .tick) (hw : m ≠ .wait) :
    Passage s u :=
  h.step ⟨hst, fun hx => absurd hx ht, fun hx => absurd hx hw⟩

theorem wait {now wake : Nat} (h : Passage s t) (hle : t.now ≤ now) (hrest : t.driverStep?.isNone = true)
    (hwake : t.nextWake? = some wake) (hnow : now ≤ wake) : Passage s { t with now } := by
  refine h.step ⟨.wait hle, by simp, fun _ => ⟨Option.isNone_iff_eq_none.1 hrest, fun later hlater => ?_⟩⟩
  obtain rfl : wake = later := Option.some.inj (hwake.symm.trans hlater)
  exact hnow

theorem onTick (h : Passage s t) (hi : t.activity = .idle) (hf : t.timerFails = false) (hdue : t.dueMillis ≤ t.now) :
    Passage s ({ t with due := t.nextDue } : Session).onTick :=
  h.step (timely_onTick hi hf hdue)

end Passage

structure Expiring (s : Session) : Prop where
  opened : s.closing = false
  up : s.link.connected = true
  demand : s.link.tick.1 ≠ .nothing

/-- On some run in time, a connection is given up so many nanoseconds after its silence was renewed. -/
def GivesUpAfter (elapsed : Nat) (o : Session) : Prop :=
  ∃ m s t u v, Passage o s ∧ Timely m s t ∧ Renewal m s t ∧ Passage t u ∧ u.Expiring ∧
    Timely (.driver .tick) u v ∧ v.nanos - s.nanos = elapsed

/-- Each tick that was counted since a time has taken its own. Times are in nanoseconds. -/
structure Reckoned (base : Nat) (s : Session) : Prop where
  started : s.activity ≠ .unstarted
  since : base ≤ s.due ∨ base + 5000000 ≤ s.nanos
  counted : s.link.connected = true → s.link.countdown.running = true →
    ∃ k : Nat, s.link.countdown.left + k = s.link.window ∧
      (k = 0 ∨ base + k * s.setup.beat.interval.nanos ≤ s.due)

namespace Reckoned

variable {base : Nat}

theorem nextDue (h : Reckoned base s) {k : Nat} (hk : k = 0 ∨ base + k * s.setup.beat.interval.nanos ≤ s.due) :
    base + (k + 1) * s.setup.beat.interval.nanos ≤ s.nextDue := by
  have hsince := h.since
  have hmul := Nat.add_one_mul k s.setup.beat.interval.nanos
  unfold Session.nextDue
  rcases hk with rfl | hk
  · split <;> omega
  · split <;> omega

theorem le_nextDue (s : Session) : s.due ≤ s.nextDue := by
  unfold Session.nextDue
  split <;> omega

theorem steady (h : Reckoned base s) (hs : Steady s t) (hsetup : t.setup = s.setup) (hnow : s.now ≤ t.now)
    (ht : t.activity ≠ .unstarted) : Reckoned base t where
  started := ht
  since := by
    have hsince := h.since
    have hnanos : s.nanos ≤ t.nanos := Nat.mul_le_mul_right _ hnow
    rw [hs.due]
    omega
  counted := by
    intro hc hr
    rcases hs.link hc hr with hfull | ⟨hc', hcount, hwindow⟩
    · exact ⟨0, by simp [hfull], .inl rfl⟩
    · rw [hcount] at hr
      rw [hcount, hwindow, hsetup, hs.due]
      exact h.counted hc' hr

theorem postponed (h : Reckoned base s) : Reckoned base { s with due := s.nextDue } where
  started := h.started
  since := by
    have hle := le_nextDue s
    have hsince := h.since
    unfold nanos at hsince ⊢
    dsimp only
    omega
  counted := by
    intro hc hr
    obtain ⟨k, hk, hdue⟩ := h.counted hc hr
    exact ⟨k, hk, hdue.imp_right fun hd => Nat.le_trans hd (le_nextDue s)⟩

theorem tick (h : Reckoned base s) (hw : Works .tick s t) : Reckoned base t := by
  have hsetup := hw.steers.1
  have hnow := hw.now
  have hstarted := hw.started
  cases hw with
  | tick =>
    rcases steady_onTick { s with due := s.nextDue } with hs | ⟨hd, hdue, hl⟩
    · exact h.postponed.steady hs hsetup (Nat.le_of_eq hnow.symm) hstarted
    · refine ⟨hstarted, ?_, ?_⟩
      · rw [hdue, nanos, hnow]
        exact h.postponed.since
      · intro hc hr
        rw [hdue, hsetup]
        rw [hl] at hc hr ⊢
        have ht := s.link.ticked
        dsimp only at hd hc hr ⊢
        generalize s.link.tick = ticked at ht hd hc hr ⊢
        obtain ⟨d, l⟩ := ticked
        dsimp only at ht hd hc hr ⊢
        subst hd
        cases ht with
        | closing => cases hr
        | stopped _ hstopped => rw [hstopped] at hr; cases hr
        | counted _ hrunning hleft =>
          obtain ⟨k, hk, hdue⟩ := h.counted hc hrunning
          have hmax : s.link.window ≤ 9223372036854775807 := s.link.beat.ticksFor_le _
          refine ⟨k + 1, ?_, .inr (h.nextDue hdue)⟩
          rw [saturate_of_mem (by omega) (by omega)]
          change s.link.countdown.left - 1 + (k + 1 : Nat) = s.link.window
          omega

theorem step {m : Move} (h : Reckoned base s) (hst : Step m s t) (hs : s.Reachable) : Reckoned base t := by
  have hsetup := hst.steers.1
  cases hst with
  | @driver task _ _ hw =>
    have hc := hs.coherent hw.running
    by_cases ht : task = .tick
    · subst ht
      exact h.tick hw
    · exact h.steady (hw.steady ht hc) hsetup (Nat.le_of_eq hw.now.symm) hw.started
  | call c =>
    have hh := (Called.call s c).helm
    have hnow : (s.call c).now = s.now := (congrArg Session.now hh :)
    exact h.steady (.of_helm hh) hsetup (Nat.le_of_eq hnow.symm) (activity_of_helm hh ▸ h.started)
  | @connect _ id =>
    have hl : (s.beginConnect id).link = s.link := by
      obtain ⟨_, _, _, _, hb, _⟩ := beginConnect_eq s id
      rw [hb]
    refine h.steady (.keep (due_beginConnect h.started id) hl) hsetup (Nat.le_of_eq (now_beginConnect s id).symm) ?_
    rw [activity_beginConnect, if_neg h.started]
    exact h.started
  | returned => exact h.steady (.keep rfl rfl) rfl (Nat.le_refl _) h.started
  | wait hle => exact h.steady (.keep rfl rfl) rfl hle h.started
  | push wire d =>
    obtain ⟨_, hp, _⟩ := push_eq s wire d
    rw [hp]
    exact h.steady (.keep rfl rfl) rfl (Nat.le_refl _) h.started
  | listen => exact h.steady (.keep rfl rfl) rfl (Nat.le_refl _) h.started
  | drop => exact h.steady (.keep rfl rfl) rfl (Nat.le_refl _) h.started

theorem passage (h : Reckoned base s) (hs : s.Reachable) (hp : Passage s t) : Reckoned base t := by
  induction hp with
  | refl => exact h
  | step hp hst ih => exact (ih h hs).step hst.step (hp.reachable hs)

theorem of_renewal {m : Move} (hb : base ≤ s.due ∨ base + 5000000 ≤ s.nanos) (hst : Step m s t) (hr : Renewal m s t)
    (hs : s.Reachable) : Reckoned base t := by
  have fresh {task : Task} (hw : Works task s t) (ht : task ≠ .tick) (hc : s.Coherent)
      (hfull : t.link.connected = true → t.link.countdown.left = t.link.window) : Reckoned base t := by
    refine ⟨hw.started, ?_, fun hup _ => ⟨0, by simp [hfull hup], .inl rfl⟩⟩
    rw [(hw.steady ht hc).due, nanos, hw.now]
    exact hb
  cases hst with
  | driver hw =>
    have hc := hs.coherent hw.running
    exact fresh hw hr.ne_tick hc (hr.full hw hc)
  | _ => cases hr

theorem expired (h : Reckoned base s) (hx : s.Expiring) (hs : s.Reachable) :
    base + s.link.window.toNat * s.setup.beat.interval.nanos ≤ s.due := by
  have ht := s.link.ticked
  have hbounds := hs.watched.bounds
  have hwindow := s.link.beat.one_le_ticksFor s.link.retry.rule.interval
  have key : s.link.countdown.running = true ∧ s.link.countdown.left ≤ 0 := by
    have hd := hx.demand
    generalize s.link.tick.1 = d at ht hd
    generalize s.link.tick.2 = l at ht
    cases ht with
    | closing => exact absurd rfl hd
    | stopped => exact absurd rfl hd
    | counted => exact absurd rfl hd
    | timedOut _ hr hleft => exact ⟨hr, hleft⟩
    | redialled _ hr hleft => exact ⟨hr, hleft⟩
    | gaveUp _ hr hleft => exact ⟨hr, hleft⟩
  obtain ⟨hr, hleft⟩ := key
  obtain ⟨k, hk, hdue⟩ := h.counted hx.up hr
  have hpos := (hbounds hr).1
  have hall : s.link.window.toNat = k := by omega
  rw [hall]
  exact hdue.resolve_left (by unfold Link.window at hk; omega)

end Reckoned

/-- Silence is not held against a connection before the ticks of its interval have gone by, less the five
milliseconds that a late timer makes up for, and not even those where no tick was late when the silence began. -/
theorem silence_outlasts_window {m : Move} {s t u v : Session} (hs : s.Reachable) (hst : Timely m s t)
    (hr : Renewal m s t) (hp : Passage t u) (hx : u.Expiring) (hv : Timely (.driver .tick) u v) :
    let interval := u.link.retry.rule.interval
    let window := (u.setup.beat.ticksFor interval).toNat * u.setup.beat.interval.nanos
    window ≤ v.nanos - s.nanos + 5000000 ∧
      (s.nanos ≤ s.due → window ≤ v.nanos - s.nanos) ∧
      (interval.nanos ≤ window →
        interval.nanos ≤ v.nanos - s.nanos + 5000000 ∧ (s.nanos ≤ s.due → interval.nanos ≤ v.nanos - s.nanos)) := by
  intro interval window
  have ht : t.Reachable := hs.run (.single hst.step)
  have hu : u.Reachable := hp.reachable ht
  have hdue : u.due ≤ v.nanos := by
    have hdue := hv.tick rfl
    cases hv.step with
    | driver hw =>
      rw [nanos, hw.now]
      unfold dueMillis at hdue
      omega
  have key {base : Nat} (hb : base ≤ s.due ∨ base + 5000000 ≤ s.nanos) : base + window ≤ v.nanos := by
    have h := ((Reckoned.of_renewal hb hst.step hr hs).passage ht hp).expired hx hu
    rw [Link.window, hu.beat] at h
    exact Nat.le_trans h hdue
  generalize v.nanos = later at key ⊢
  generalize s.nanos = since at key ⊢
  have hlate : window ≤ later - since + 5000000 := by
    have h := @key (since - 5000000) (by omega)
    omega
  have hpunctual (hd : since ≤ s.due) : window ≤ later - since := by
    have h := key (.inl hd)
    omega
  exact ⟨hlate, hpunctual, fun hle => ⟨Nat.le_trans hle hlate, fun hd => Nat.le_trans hle (hpunctual hd)⟩⟩

theorem silence_outlasts_window_of_frame :
    ∃ s t u v : Session, s.Reachable ∧ Renewal (.driver .delivery) s t ∧ u.Expiring ∧ s.nanos = 4999000000 ∧
      v.nanos = 10000000000 ∧ 5000000000 ≤ v.nanos - s.nanos := by
  have begun := Passage.refl (start { Setup.standard with beat := ⟨.ofSeconds 5⟩ } ⟨"key", "token"⟩ .none
    (.start [] ⟨.accept .smooth, 0⟩) fun _ => none)
  have asked := (begun.step_of_ne (.call .connect _) (by simp) (by simp)).step_of_ne
    (@Step.connect _ 1 (by simp [call, requestConnect, start])) (by simp) (by simp)
  have made := ((asked.works (.command rfl rfl rfl) (by simp)).works (.handshake rfl rfl) (by simp)).works
    (.conclude rfl) (by simp)
  have waited := made.wait (@Nat.le_of_ble_eq_true _ 4999 rfl) (by decide +kernel) rfl (by decide +kernel)
  have pushed := waited.step_of_ne (.push none (.binary [0]) _) (by simp) (by simp)
  have timely {task : Task} {s t u : Session} (_ : Passage s t) (hw : Works task t u) (ht : task ≠ .tick) :=
    timely_works hw ht
  have after {m : Move} {s t : Session} (_ : Timely m s t) := Passage.refl t
  have last {s t : Session} (_ : Passage s t) (hi : t.activity = .idle) (hf : t.timerFails = false)
      (hdue : t.dueMillis ≤ t.now) := timely_onTick hi hf hdue
  have heard := timely pushed (.delivery rfl rfl rfl) (by simp)
  have ticked := ((after heard).wait (@Nat.le_of_ble_eq_true _ 5000 rfl) (by decide +kernel) rfl
    (by decide +kernel)).onTick rfl rfl (by decide +kernel)
  have late := ticked.wait (@Nat.le_of_ble_eq_true _ 10000 rfl) (by decide +kernel) rfl (by decide +kernel)
  have expired := last late rfl rfl (by decide +kernel)
  obtain ⟨_, hr⟩ := pushed.run
  have hs : Reachable _ := ⟨_, _, _, _, _, _, hr⟩
  have renews {s t u : Session} (_ : Timely (.driver .delivery) s t) (hd : s.takeDelivery? = some (.binary [0], u)) :
      Renewal (.driver .delivery) s t := .binary hd
  have expires {s t : Session} (_ : Passage s t) (hopen : t.closing = false) (hup : t.link.connected = true)
      (hd : t.link.tick.1 ≠ .nothing) : t.Expiring := ⟨hopen, hup, hd⟩
  have renewal := renews heard rfl
  have expiring := expires late rfl rfl (by decide +kernel)
  obtain ⟨_, hpunctual, _⟩ := silence_outlasts_window hs heard renewal late expiring expired
  exact ⟨_, _, _, _, hs, renewal, expiring, rfl, rfl, hpunctual (by decide +kernel)⟩

/-- Where the interval is no whole number of ticks, data just before a tick renew the silence for less than it; and
where the connection was made less than five milliseconds after a tick was due, that tick counts. -/
theorem silence_outlasts_no_interval :
    let fed := start { Setup.standard with beat := ⟨.ofSeconds 3⟩ } ⟨"key", "token"⟩ .none
      (.start [] ⟨.accept .smooth, 0⟩) fun _ => none
    let late := start { Setup.standard with beat := ⟨.ofSeconds 5⟩ } ⟨"key", "token"⟩ .none
      (.start [] ⟨.accept .smooth, 5003⟩) fun _ => none
    fed.link.retry.rule.interval.nanos = 5000000000 ∧ fed.GivesUpAfter 3001000000 ∧
      late.link.retry.rule.interval.nanos = 5000000000 ∧ late.GivesUpAfter 4997000000 := by
  have timely {task : Task} {s t u : Session} (_ : Passage s t) (hw : Works task t u) (ht : task ≠ .tick) :=
    timely_works hw ht
  have after {m : Move} {s t : Session} (_ : Timely m s t) := Passage.refl t
  have last {s t : Session} (_ : Passage s t) (hi : t.activity = .idle) (hf : t.timerFails = false)
      (hdue : t.dueMillis ≤ t.now) := timely_onTick hi hf hdue
  intro fed late
  refine ⟨rfl, ?_, rfl, ?_⟩
  · have begun := Passage.refl (start { Setup.standard with beat := ⟨.ofSeconds 3⟩ } ⟨"key", "token"⟩ .none
      (.start [] ⟨.accept .smooth, 0⟩) fun _ => none)
    have asked := (begun.step_of_ne (.call .connect _) (by simp) (by simp)).step_of_ne
      (@Step.connect _ 1 (by simp [call, requestConnect, start])) (by simp) (by simp)
    have made := ((asked.works (.command rfl rfl rfl) (by simp)).works (.handshake rfl rfl) (by simp)).works
      (.conclude rfl) (by simp)
    have waited := made.wait (@Nat.le_of_ble_eq_true _ 2999 rfl) (by decide +kernel) rfl (by decide +kernel)
    have pushed := waited.step_of_ne (.push none (.binary [0]) _) (by simp) (by simp)
    have heard := timely pushed (.delivery rfl rfl rfl) (by simp)
    have ticked := ((after heard).wait (@Nat.le_of_ble_eq_true _ 3000 rfl) (by decide +kernel) rfl
      (by decide +kernel)).onTick rfl rfl (by decide +kernel)
    have silent := ticked.wait (@Nat.le_of_ble_eq_true _ 6000 rfl) (by decide +kernel) rfl (by decide +kernel)
    have expired := last silent rfl rfl (by decide +kernel)
    exact ⟨_, _, _, _, _, pushed, heard, .binary rfl, silent, ⟨rfl, rfl, by decide +kernel⟩, expired, rfl⟩
  · have begun := Passage.refl (start { Setup.standard with beat := ⟨.ofSeconds 5⟩ } ⟨"key", "token"⟩ .none
      (.start [] ⟨.accept .smooth, 5003⟩) fun _ => none)
    have asked := (begun.step_of_ne (.call .connect _) (by simp) (by simp)).step_of_ne
      (@Step.connect _ 1 (by simp [call, requestConnect, start])) (by simp) (by simp)
    have dialled := (asked.works (.command rfl rfl rfl) (by simp)).wait (@Nat.le_of_ble_eq_true _ 5003 rfl)
      (by decide +kernel) rfl (by decide +kernel)
    have made := timely dialled (.handshake rfl rfl) (by simp)
    have ticked := ((after made).works (.conclude rfl) (by simp)).onTick rfl rfl (by decide +kernel)
    have silent := ticked.wait (@Nat.le_of_ble_eq_true _ 10000 rfl) (by decide +kernel) rfl (by decide +kernel)
    have expired := last silent rfl rfl (by decide +kernel)
    exact ⟨_, _, _, _, _, dialled, made, .connected rfl, silent, ⟨rfl, rfl, by decide +kernel⟩, expired, rfl⟩

end Session

end MarketTicker
