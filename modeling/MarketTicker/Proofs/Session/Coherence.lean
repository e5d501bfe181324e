import MarketTicker.Proofs.Liveness.Link
import MarketTicker.Proofs.Session.Helm
import MarketTicker.Proofs.Session.Step

namespace MarketTicker

def Activity.isDialing : Activity → Bool
  | .dialing _ => true
  | _ => false

namespace Session

/-- What the driver holds, what it does and what it tells callers fit together. -/
structure Coherent (s : Session) : Prop where
  published : s.published = s.link.phase
  held : s.connection.isSome = s.link.connected
  dialing : s.link.phase = .connecting ↔ s.activity.isDialing = true
  unstarted : s.activity = .unstarted → s.link.phase = .disconnected
  wire : ∀ wire, s.connection = some wire → wire < s.net.wires.length

theorem coherent_helm {s : Session} : s.helm.Coherent ↔ s.Coherent :=
  ⟨fun h => ⟨h.published, h.held, h.dialing, h.unstarted, h.wire⟩,
    fun h => ⟨h.published, h.held, h.dialing, h.unstarted, h.wire⟩⟩

@[simp] theorem phase_settled (s : Session) (cause : Cause) (result : Except ConnectFault Unit) :
    (s.settled cause result).phase = s.link.phase := by
  unfold settled
  split
  · exact Link.phase_elapsed _ _
  · rfl

namespace Coherent

variable {s t : Session}

theorem of_helm (h : Coherent s) (ht : t.helm = s.helm) : Coherent t := by
  rw [← coherent_helm, ht, coherent_helm]
  exact h

theorem connection_of_ne (h : Coherent s) (hp : s.link.phase ≠ .connected) : s.connection = none := by
  have hn : s.link.connected = false := by simpa [Link.connected] using hp
  exact Option.isNone_iff_eq_none.1 (by rw [← Option.not_isSome, h.held, hn]; rfl)

theorem relink (h : Coherent s) {link : Link} (hl : link.phase = s.link.phase) : Coherent { s with link } where
  published := h.published.trans hl.symm
  held := by simpa only [Link.connected, hl] using h.held
  dialing := by simpa only [hl] using h.dialing
  unstarted hu := hl.trans (h.unstarted hu)
  wire := h.wire

theorem renet (h : Coherent s) {net : Net} (hn : net.wires.length = s.net.wires.length) :
    Coherent { s with net } where
  published := h.published
  held := h.held
  dialing := h.dialing
  unstarted := h.unstarted
  wire wire hw := hn ▸ h.wire wire hw

theorem turn (h : Coherent s) (hp : s.link.phase ≠ .connecting) {activity : Activity}
    (ha : activity.isDialing = false) (hu : activity ≠ .unstarted) : Coherent { s with activity } where
  published := h.published
  held := h.held
  dialing := by simp [hp, ha]
  unstarted hx := absurd hx hu
  wire := h.wire

theorem ne_connecting (h : Coherent s) (ha : s.activity.isDialing = false) : s.link.phase ≠ .connecting :=
  fun hp => by simpa [ha] using h.dialing.1 hp

end Coherent

theorem coherent_of_none {s : Session} (hc : s.connection = none) (hl : s.link.phase ≠ .connected)
    (hp : s.published = s.link.phase) (hd : s.link.phase = .connecting ↔ s.activity.isDialing = true)
    (hu : s.activity = .unstarted → s.link.phase = .disconnected) : Coherent s where
  published := hp
  held := by simp [hc, Link.connected, hl]
  dialing := hd
  unstarted := hu
  wire := by simp [hc]

theorem coherent_attemptFailed {s : Session} {cause : Cause} {fault : ConnectFault}
    (hp : s.link.phase = .connecting) (hc : s.connection = none) :
    (s.attemptFailed cause fault).Coherent := by
  have hf : s.link.connectFailed.phase = .disconnected := by rw [Link.phase_connectFailed, if_pos hp]
  rw [← coherent_helm, helm_attemptFailed]
  exact coherent_of_none hc (by simp [hf]) (by simp) (by simp [hf, Activity.isDialing]) (by simp)

theorem coherent_attemptSucceeded (s : Session) (cause : Cause) (manner : Manner) :
    (s.attemptSucceeded cause manner).Coherent := by
  rw [← coherent_helm, helm_attemptSucceeded]
  constructor
  case published => rfl
  case held => rfl
  case dialing => simp [Activity.isDialing]
  case unstarted => simp
  case wire =>
    intro wire hw
    obtain rfl : s.net.wires.length = wire := Option.some.inj hw
    simp [Net.accept]

theorem coherent_dial {s : Session} {cause : Cause} {limit : Span} (hl : s.link.phase = .connecting)
    (hp : s.published = .connecting) (hc : s.connection = none) : (s.dial cause limit).Coherent := by
  rcases helm_dial s cause limit with ⟨fault, h⟩ | ⟨_, _, d, _, _, h⟩
  · exact (coherent_attemptFailed hl hc).of_helm h
  · rw [← coherent_helm, h]
    have hl' : s.helm.link.phase = .connecting := hl
    exact coherent_of_none hc (by simp [hl']) (hp.trans hl.symm) (by simp [hl', Activity.isDialing]) (by simp)

theorem coherent_afterExpiry {s : Session} (hi : s.activity = .idle) (hd : s.link.tick.1 ≠ .nothing) :
    s.afterExpiry.Coherent := by
  have hl : s.link.tick.2.phase = .disconnected := by simpa [hd] using s.link.phase_tick
  exact coherent_of_none rfl (by simp [afterExpiry, hl]) rfl
    (by simp [afterExpiry, helm, hl, hi, Activity.isDialing]) (by simp [afterExpiry, helm, hi])

namespace Coherent

variable {s : Session}

theorem attempt (h : Coherent s) (hi : s.activity = .idle) (cause : Cause) (limit : Span) :
    (s.attempt cause limit).Coherent := by
  cases hb : s.link.beginConnect? with
  | none =>
    refine h.of_helm ((helm_attempt_of_none hb).trans ?_)
    rw [← hi]
    rfl
  | some l =>
    obtain ⟨hp, rfl⟩ := Link.beginConnect?_eq_some hb
    rw [attempt_of_some hb]
    refine coherent_dial rfl rfl (h.connection_of_ne ?_)
    rcases hp with hp | hp
    · simp [hp]
    · simp [hp]

theorem connectionLost (h : Coherent s) (hi : s.activity = .idle) (fault? : Option TransportFault) :
    (s.connectionLost fault?).Coherent := by
  rw [← coherent_helm, helm_connectionLost, helm_dropConnection]
  split
  · rename_i hp
    have hp' : s.helm.link.phase = .closing := hp
    exact coherent_of_none rfl (by simp [hp']) h.published h.dialing h.unstarted
  · rename_i hp
    have hl : s.link.connectionLost.phase = .disconnected := Link.phase_connectionLost_of_open hp
    exact coherent_of_none rfl (by simp [hl]) rfl (by simp [helm, hl, hi, Activity.isDialing])
      (by simp [helm, hi])

theorem shut (hi : s.activity = .idle) : s.shut.Coherent := by
  cases hc : s.connection with
  | none =>
    rw [← coherent_helm, helm_shut_of_none hc]
    exact coherent_of_none hc (by simp) rfl (by simp [helm, hi, Activity.isDialing]) (by simp [helm, hi])
  | some wire =>
    rcases helm_shut_of_some hc with hs | hs
    · rw [← coherent_helm, hs]
      exact coherent_of_none rfl (by simp) rfl (by simp [Activity.isDialing]) (by simp)
    · rw [← coherent_helm, hs]
      exact coherent_of_none rfl (by simp) rfl (by simp [Activity.isDialing]) (by simp)

theorem send (h : Coherent s) (c : Control) : (s.send c).Coherent := by
  rcases helm_send s c with hs | ⟨wire, _, hs⟩
  · exact h.of_helm hs
  · rw [← coherent_helm, hs]
    exact (coherent_helm.2 h).renet (Net.length_charge _ _)

theorem restore (h : Coherent s) (hi : s.activity = .idle) (sequel : Sequel) :
    (s.restore sequel).Coherent := by
  rw [← coherent_helm, helm_restore]
  exact (coherent_helm.2 h).turn (h.ne_connecting (by rw [hi]; rfl)) rfl (by simp)

theorem handleCommand (h : Coherent s) (hi : s.activity = .idle) (c : Command) :
    (s.handleCommand c).Coherent := by
  cases c with
  | connect caller => exact h.attempt hi _ _
  | send control => exact h.send control
  | resubscribe => exact h.restore hi _
  | enableRetry interval maxRetries => exact (h.relink (Link.phase_enableRetry _ _ _)).of_helm rfl
  | disableRetry => exact (h.relink (Link.phase_disableRetry _)).of_helm rfl
  | close => exact shut hi

theorem onTick (h : Coherent s) (hi : s.activity = .idle) : s.onTick.Coherent := by
  have hphase := s.link.phase_tick
  rcases helm_onTick s with ht | ⟨hn, ht⟩ | ⟨hn, ht⟩
  · exact h.of_helm ht
  · have hl : s.link.tick.2.phase = s.link.phase := by simpa [hn] using hphase
    rw [← coherent_helm, ht]
    exact (coherent_helm.2 h).relink hl
  · have hx := coherent_afterExpiry hi hn
    rcases ht with ht | ⟨t, since, limit, ht, _, hs⟩
    · rw [← coherent_helm, ht]
      exact hx
    · rw [hs]
      have hc : t.Coherent := by
        rw [← coherent_helm, ht]
        exact hx
      exact hc.attempt ((congrArg Session.activity ht :).trans hi) (.retry since) limit

theorem receive (h : Coherent s) (hi : s.activity = .idle) (d : Delivery) : (s.receive d).Coherent := by
  rcases helm_receive s d with hs | ⟨fault?, hs⟩
  · rw [← coherent_helm, hs]
    exact (coherent_helm.2 h).relink rfl
  · rw [hs]
    exact h.connectionLost hi fault?

theorem hungUp (h : Coherent s) (ha : s.activity.isDialing = false) (wire : Nat) (previous : Link.Phase) :
    (s.hungUp wire previous).Coherent := by
  rw [← coherent_helm, helm_hungUp]
  have hi : Coherent { s.helm with activity := .idle } :=
    (coherent_helm.2 h).turn (h.ne_connecting ha) rfl (by simp)
  exact hi.renet (Net.length_letGo _ _)

theorem conclude (h : Coherent s) (ha : s.activity.isDialing = false) (sequel : Sequel) :
    (s.conclude sequel).Coherent := by
  rw [← coherent_helm, helm_conclude]
  exact (coherent_helm.2 h).turn (h.ne_connecting ha) rfl (by simp)

theorem beginConnect (h : Coherent s) (id : Nat) : (s.beginConnect id).Coherent := by
  obtain ⟨generation, due, callers, cs, hs, _⟩ := beginConnect_eq s id
  rw [hs]
  by_cases hu : s.activity = .unstarted
  · have hi : Coherent { s with activity := .idle } := h.turn (by simp [h.unstarted hu]) rfl (by simp)
    rw [if_pos hu]
    exact ⟨hi.published, hi.held, hi.dialing, hi.unstarted, hi.wire⟩
  · rw [if_neg hu]
    exact ⟨h.published, h.held, h.dialing, h.unstarted, h.wire⟩

theorem push (h : Coherent s) (wire : Option Nat) (d : Delivery) : (s.push wire d).2.Coherent := by
  obtain ⟨net, hp, hn, _⟩ := push_eq s wire d
  exact hp.symm ▸ h.renet hn

end Coherent

theorem settleDial_of_late {s : Session} {d : Dial} (h : d.deadline ≤ s.now) :
    ∃ t, s.settleDial d = some t ∧ t.activity.isDialing = false := by
  have failed (fault : ConnectFault) : (s.attemptFailed d.cause fault).activity.isDialing = false :=
    (congrArg (fun t => t.activity.isDialing) (helm_attemptFailed s d.cause fault) :)
  unfold settleDial
  split
  · exact ⟨_, rfl, failed _⟩
  · split
    · rename_i ha
      split
      · exact ⟨_, rfl, (congrArg (fun t => t.activity.isDialing) (helm_attemptSucceeded s d.cause _) :)⟩
      · exact ⟨_, rfl, failed _⟩
      · rename_i hh
        exact absurd hh ha.2
    · exact ⟨_, rfl, failed _⟩

theorem coherent_start (setup : Setup) (credentials : Credentials) (handlers : Handlers Handler) (net : Net)
    (gate : ConnectRequest → Option TransportFault) :
    (start setup credentials handlers net gate).Coherent :=
  coherent_of_none rfl (by simp [start, Link.start]) rfl (by simp [start, Link.start, Activity.isDialing])
    (fun _ => rfl)

theorem Works.coherent {task : Task} {s t : Session} (hw : Works task s t) (h : s.Coherent)
    (ht : t.activity ≠ .stopped) : t.Coherent := by
  cases hw with
  | @command _ c rest hi _ _ =>
    have hq : Coherent { s with queue := rest } := h.of_helm rfl
    exact hq.handleCommand hi c
  | tick hi _ =>
    have hd : Coherent { s with due := s.nextDue } := ⟨h.published, h.held, h.dialing, h.unstarted, h.wire⟩
    exact hd.onTick hi
  | delivery hi _ hd =>
    obtain ⟨wire, rest, _, _, rfl⟩ := takeDelivery?_eq_some hd
    exact (h.renet (Net.length_update _ _ _)).receive hi _
  | @handshake _ _ d hd hs =>
    have hp : s.link.phase = .connecting := h.dialing.2 (by rw [hd]; rfl)
    rcases settleDial_eq_some hs with ⟨fault, rfl⟩ | ⟨_, manner, rfl⟩
    · exact coherent_attemptFailed hp (h.connection_of_ne (by simp [hp]))
    · exact coherent_attemptSucceeded s d.cause manner
  | @restore _ c rest sequel hr =>
    exact (h.turn (h.ne_connecting (by rw [hr]; rfl)) rfl (by simp)).send c
  | conclude hr => exact h.conclude (by rw [hr]; rfl) _
  | hungUp hh => exact h.hungUp (by rw [hh]; rfl) _ _
  | hangUpLate hh _ =>
    have hl : (s.log .debug "Ticker close handshake timed out" []).Coherent := h.of_helm rfl
    exact hl.hungUp (congrArg Activity.isDialing hh) _ _
  | collapse => exact absurd rfl ht
  | stop => exact absurd (congrArg Session.activity (helm_stop s) :) ht

theorem Step.coherent {m : Move} {s t : Session} (hs : Step m s t) (h : s.Coherent)
    (ht : t.activity ≠ .stopped) : t.Coherent := by
  cases hs with
  | driver hw => exact hw.coherent h ht
  | call c => exact h.of_helm (Called.call s c).helm
  | connect => exact h.beginConnect _
  | returned => exact h.of_helm rfl
  | wait => exact ⟨h.published, h.held, h.dialing, h.unstarted, h.wire⟩
  | push wire d => exact h.push wire d
  | listen => exact ⟨h.published, h.held, h.dialing, h.unstarted, h.wire⟩
  | drop => exact ⟨h.published, h.held, h.dialing, h.unstarted, h.wire⟩

theorem activity_beginConnect (s : Session) (id : Nat) :
    (s.beginConnect id).activity = if s.activity = .unstarted then .idle else s.activity := by
  obtain ⟨_, _, _, _, hs, _⟩ := beginConnect_eq s id
  rw [hs]

theorem Step.stopped {m : Move} {s t : Session} (hs : Step m s t) (h : s.activity = .stopped) :
    t.activity = .stopped := by
  cases hs with
  | driver hw => cases hw <;> simp_all
  | call c => exact (activity_of_helm (Called.call s c).helm).trans h
  | connect => rw [activity_beginConnect, if_neg (by simp [h]), h]
  | returned => exact h
  | wait => exact h
  | push wire d =>
    obtain ⟨net, hp, _⟩ := push_eq s wire d
    exact hp.symm ▸ h
  | listen => exact h
  | drop => exact h

/-- As long as the driver has not stopped, it is coherent between two of its steps. -/
theorem Reachable.coherent {s : Session} (h : s.Reachable) (hs : s.activity ≠ .stopped) : s.Coherent := by
  have key := h.invariant (P := fun s => s.activity ≠ .stopped → s.Coherent) (fun _ _ _ _ _ _ => coherent_start ..)
    fun hs hc ht => hs.coherent (hc fun h => ht (hs.stopped h)) ht
  exact key hs

end Session

end MarketTicker
