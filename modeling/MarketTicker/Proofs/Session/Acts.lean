import MarketTicker.Proofs.Liveness.Watch
import MarketTicker.Proofs.Session.Helm
import MarketTicker.Proofs.Session.Step

namespace MarketTicker

namespace Link

theorem act_keeps (l : Link) (a : Act) :
    (l.act a).2.beat = l.beat ∧ (l.act a).2.retry.rule.maxDelay = l.retry.rule.maxDelay := by
  have h := l.acted a
  generalize l.act a = acted at h ⊢
  obtain ⟨d, l'⟩ := acted
  cases h with
  | tick ht =>
    cases ht with
    | closing => exact ⟨rfl, rfl⟩
    | stopped => exact ⟨rfl, rfl⟩
    | counted => exact ⟨rfl, rfl⟩
    | timedOut => exact ⟨rfl, rfl⟩
    | redialled => exact ⟨rfl, rfl⟩
    | gaveUp => exact ⟨rfl, rfl⟩
  | connected => exact ⟨rfl, rfl⟩
  | enabled => exact ⟨rfl, rfl⟩
  | disabled => exact ⟨rfl, rfl⟩
  | passive => exact ⟨rfl, rfl⟩

theorem after_keeps (l : Link) (as : List Act) :
    (l.after as).beat = l.beat ∧ (l.after as).retry.rule.maxDelay = l.retry.rule.maxDelay := by
  induction as generalizing l with
  | nil => exact ⟨rfl, rfl⟩
  | cons a as ih =>
    obtain ⟨hb, hm⟩ := l.act_keeps a
    obtain ⟨hb', hm'⟩ := ih (l.act a).2
    exact ⟨hb'.trans hb, hm'.trans hm⟩

end Link

namespace Session

/-- The link changes by acts only, and the setup not at all. -/
def Steers (s t : Session) : Prop :=
  t.setup = s.setup ∧ ∃ as, t.link = s.link.after as

namespace Steers

variable {s t u : Session}

theorem trans (h : Steers s t) (h' : Steers t u) : Steers s u := by
  obtain ⟨hs, as, ht⟩ := h
  obtain ⟨hs', bs, hu⟩ := h'
  exact ⟨hs'.trans hs, as ++ bs, by rw [hu, ht, Link.after_append]⟩

theorem keep (hs : t.setup = s.setup) (hl : t.link = s.link) : Steers s t :=
  ⟨hs, [], hl⟩

theorem of_helm (h : t.helm = s.helm) : Steers s t :=
  keep (congrArg Session.setup h :) (congrArg Session.link h :)

theorem of_helm_eq (as : List Link.Act) (h : t.helm = u) (hs : u.setup = s.setup) (hl : u.link = s.link.after as) :
    Steers s t := by
  subst h
  exact ⟨hs, as, hl⟩

end Steers

theorem settled_eq (s : Session) (cause : Cause) (result : Except ConnectFault Unit) :
    ∃ as, s.settled cause result = s.link.after as := by
  cases cause with
  | caller id => exact ⟨[], rfl⟩
  | retry since =>
    cases result with
    | ok => exact ⟨[], rfl⟩
    | error => exact ⟨[.elapsed (s.elapsedSince since)], rfl⟩

theorem steers_attemptFailed (s : Session) (cause : Cause) (fault : ConnectFault) :
    Steers s (s.attemptFailed cause fault) := by
  obtain ⟨as, h⟩ := settled_eq { s.helm with link := s.link.connectFailed } cause (.error fault)
  exact .of_helm_eq (.connectFailed :: as) (helm_attemptFailed s cause fault) rfl h

theorem steers_attempt (s : Session) (cause : Cause) (limit : Span) : Steers s (s.attempt cause limit) := by
  cases hb : s.link.beginConnect? with
  | none =>
    have h : (s.attempt cause limit).helm = _ := helm_attempt_of_none hb
    exact .of_helm_eq [] h rfl rfl
  | some l =>
    rw [attempt_of_some hb]
    have hl : Steers s ({ s with link := l }.publish) := ⟨rfl, [.beginConnect], by simp [Link.after, Link.act, hb]; rfl⟩
    apply hl.trans
    rcases helm_dial ({ s with link := l }.publish) cause limit with ⟨fault, h⟩ | ⟨_, _, d, _, _, h⟩
    · exact (steers_attemptFailed _ cause fault).trans (.of_helm h)
    · exact .of_helm_eq [] h rfl rfl

theorem steers_connectionLost (s : Session) (fault? : Option TransportFault) : Steers s (s.connectionLost fault?) := by
  have h := helm_connectionLost s fault?
  rw [helm_dropConnection] at h
  split at h
  · exact .of_helm_eq [] h rfl rfl
  · exact .of_helm_eq [.connectionLost] h rfl rfl

theorem steers_shut (s : Session) : Steers s s.shut := by
  cases hc : s.connection with
  | none => exact .of_helm_eq [.close] (helm_shut_of_none hc) rfl rfl
  | some wire =>
    rcases helm_shut_of_some hc with h | h
    · exact .of_helm_eq [.close] h rfl rfl
    · exact .of_helm_eq [.close] h rfl rfl

theorem steers_send (s : Session) (c : Control) : Steers s (s.send c) := by
  rcases helm_send s c with h | ⟨wire, _, h⟩
  · exact .of_helm h
  · exact .of_helm_eq [] h rfl rfl

theorem steers_handleCommand (s : Session) (c : Command) : Steers s (s.handleCommand c) := by
  cases c with
  | connect caller => exact steers_attempt s _ _
  | send control => exact steers_send s control
  | resubscribe => exact .of_helm_eq [] (helm_restore s _) rfl rfl
  | enableRetry interval maxRetries => exact ⟨rfl, [.enableRetry interval maxRetries], rfl⟩
  | disableRetry => exact ⟨rfl, [.disableRetry], rfl⟩
  | close => exact steers_shut s

theorem steers_onTick (s : Session) : Steers s s.onTick := by
  have hx : Steers s s.afterExpiry := ⟨rfl, [.tick], rfl⟩
  rcases helm_onTick s with h | ⟨_, h⟩ | ⟨_, h | ⟨u, since, limit, hu, _, h⟩⟩
  · exact .of_helm h
  · exact .of_helm_eq [.tick] h rfl rfl
  · exact .of_helm_eq [.tick] h rfl rfl
  · rw [h]
    have hu : Steers s u := .of_helm_eq [.tick] hu rfl rfl
    exact hu.trans (steers_attempt u (.retry since) limit)

theorem steers_receive (s : Session) (d : Delivery) : Steers s (s.receive d) := by
  rcases helm_receive s d with h | ⟨fault?, h⟩
  · exact .of_helm_eq [.dataReceived] h rfl rfl
  · rw [h]
    exact steers_connectionLost s fault?

theorem Works.steers {task : Task} {s t : Session} (hw : Works task s t) : Steers s t := by
  cases hw with
  | @command _ c rest _ _ _ =>
    have hq : Steers s { s with queue := rest } := .keep rfl rfl
    exact hq.trans (steers_handleCommand _ c)
  | tick =>
    have hd : Steers s { s with due := s.nextDue } := .keep rfl rfl
    exact hd.trans (steers_onTick _)
  | delivery _ _ hd =>
    obtain ⟨wire, rest, _, _, rfl⟩ := takeDelivery?_eq_some hd
    have hn : Steers s { s with net := s.net.update wire fun w => { w with inbox := rest } } := .keep rfl rfl
    exact hn.trans (steers_receive _ _)
  | @handshake _ _ d _ h =>
    rcases settleDial_eq_some h with ⟨fault, rfl⟩ | ⟨_, manner, rfl⟩
    · exact steers_attemptFailed s _ _
    · exact .of_helm_eq [.connectSucceeded] (helm_attemptSucceeded s d.cause manner) rfl rfl
  | @restore _ c rest sequel _ =>
    have ha : Steers s { s with activity := .restoring rest sequel } := .keep rfl rfl
    exact ha.trans (steers_send _ c)
  | @conclude _ sequel _ => exact .of_helm_eq [] (helm_conclude s sequel) rfl rfl
  | @hungUp _ wire previous _ _ => exact .of_helm_eq [] (helm_hungUp s wire previous) rfl rfl
  | @hangUpLate _ wire previous _ _ _ => exact .of_helm_eq [] (helm_hungUp _ wire previous) rfl rfl
  | collapse => exact .keep rfl rfl
  | stop => exact .of_helm_eq [] (helm_stop s) rfl rfl

theorem Step.steers {m : Move} {s t : Session} (hs : Step m s t) : Steers s t := by
  cases hs with
  | driver hw => exact hw.steers
  | call c => exact .of_helm (Called.call s c).helm
  | connect =>
    obtain ⟨_, _, _, _, h, _⟩ := beginConnect_eq s _
    rw [h]
    exact .keep rfl rfl
  | returned => exact .keep rfl rfl
  | wait => exact .keep rfl rfl
  | push wire d =>
    obtain ⟨_, h, _⟩ := push_eq s wire d
    rw [h]
    exact .keep rfl rfl
  | listen => exact .keep rfl rfl
  | drop => exact .keep rfl rfl

theorem Run.steers {ms : List Move} {s t : Session} (hr : Run ms s t) : Steers s t :=
  hr.preserves (fun hs h => h.trans hs.steers) (.keep rfl rfl)

theorem Step.timerFails {m : Move} {s t : Session} (hs : Step m s t) : t.timerFails = s.timerFails := by
  rw [Session.timerFails, Session.timerFails, hs.steers.1]

theorem Run.timerFails {ms : List Move} {s t : Session} (hr : Run ms s t) : t.timerFails = s.timerFails :=
  hr.preserves (P := fun t => t.timerFails = s.timerFails) (fun hs h => hs.timerFails.trans h) rfl

/-- All that is true of a link whatever happens to it is true of the link of a session. -/
theorem Reachable.link {s : Session} (h : s.Reachable) :
    ∃ as, s.link = (Link.start s.setup.rule s.setup.beat).after as := by
  obtain ⟨setup, credentials, handlers, net, gate, ms, hr⟩ := h
  obtain ⟨hs, as, hl⟩ := hr.steers
  rw [hs]
  exact ⟨as, hl⟩

theorem Reachable.watched {s : Session} (h : s.Reachable) : s.link.Watched := by
  obtain ⟨as, hl⟩ := h.link
  rw [hl]
  exact (Link.watched_start _ _).after as

theorem Reachable.beat {s : Session} (h : s.Reachable) : s.link.beat = s.setup.beat := by
  obtain ⟨as, hl⟩ := h.link
  rw [hl]
  exact (Link.after_keeps _ as).1

theorem Reachable.maxDelay {s : Session} (h : s.Reachable) :
    s.link.retry.rule.maxDelay = s.setup.rule.maxDelay := by
  obtain ⟨as, hl⟩ := h.link
  rw [hl]
  exact (Link.after_keeps _ as).2

end Session

end MarketTicker
