import MarketTicker.Proofs.Session.Speech

namespace MarketTicker

def Activity.phase? : Activity → Option Link.Phase
  | .restoring _ (.announce _) => some .connected
  | .hangingUp .. => some .closing
  | _ => none

namespace Session

/-- A session is open from its announcement until its end is told. -/
def inSession (s : Session) : Bool :=
  match s.activity with
  | .restoring _ (.announce _) => false
  | .hangingUp _ previous _ => previous = .connected
  | _ => s.link.connected

def Staged (s : Session) : Prop :=
  ∀ phase, s.activity.phase? = some phase → s.link.phase = phase

theorem staged_of_none {s : Session} (h : s.activity.phase? = none) : s.Staged := by
  intro phase hp
  cases h.symm.trans hp

theorem inSession_of_none {s : Session} (h : s.activity.phase? = none) : s.inSession = s.link.connected := by
  rw [inSession]
  split
  · rename_i ha
    rw [ha] at h
    cases h
  · rename_i ha
    rw [ha] at h
    cases h
  · rfl

theorem inSession_congr {s t : Session} (ha : t.activity = s.activity) (hl : t.link.phase = s.link.phase) :
    t.inSession = s.inSession := by
  rw [inSession, inSession, ha, Link.connected, Link.connected, hl]

theorem connected_eq_false {l : Link} (h : l.phase ≠ .connected) : l.connected = false :=
  decide_eq_false h

structure Telling (s : Session) (es : List Event) (t : Session) : Prop where
  speech : Speech s es t
  order : es.foldlM Event.follow s.inSession = some t.inSession
  phase : ∀ e ∈ es, (∃ n, e = .reconnecting n) ∨ e.suits t.published = true
  staged : t.Staged

def Tells (s t : Session) : Prop :=
  ∃ es, Telling s es t

namespace Tells

variable {s t u : Session}

theorem errors (ms : List String) (h : Speech s (ms.map .error) t) (hi : t.inSession = s.inSession)
    (hg : t.Staged) : Tells s t := by
  refine ⟨_, h, ?_, ?_, hg⟩
  · rw [Event.foldlM_follow_errors, hi]
  · intro e he
    obtain ⟨m, _, rfl⟩ := List.mem_map.1 he
    exact .inr rfl

theorem quiet (h : Speech s [] t) (hi : t.inSession = s.inSession) (hg : t.Staged) : Tells s t :=
  errors [] h hi hg

theorem ended (ms : List String) {e : Event} (h : Speech s (ms.map .error ++ [e]) t) (he : e.ends = true)
    (hp : (∃ n, e = .reconnecting n) ∨ e.suits t.published = true) (hi : t.inSession = false) (hg : t.Staged) :
    Tells s t := by
  refine ⟨_, h, ?_, ?_, hg⟩
  · rw [List.foldlM_append, Event.foldlM_follow_errors, hi]
    cases e with
    | closed => rfl
    | reconnecting => rfl
    | exhausted => rfl
    | _ => cases he
  · intro x hx
    rcases List.mem_append.1 hx with hx | hx
    · obtain ⟨m, _, rfl⟩ := List.mem_map.1 hx
      exact .inr rfl
    · obtain rfl := List.mem_singleton.1 hx
      exact hp

theorem after (h : Speech s [] t) (hi : t.inSession = s.inSession) (h' : Tells t u) : Tells s u := by
  obtain ⟨es, hes⟩ := h'
  exact ⟨es, h.trans hes.speech, hi ▸ hes.order, hes.phase, hes.staged⟩

end Tells

theorem Tidy.alone {s : Session} (h : Tidy s) (hc : s.connection = none) (hp : s.activity.parting? = none) (i : Nat) :
    s.net.held i = false := by
  apply Bool.eq_false_iff.2
  intro hi
  have hu := (h.held i).1 hi
  rw [Uses, hc, hp] at hu
  simp at hu

theorem held_of_tidy {s : Session} {wire i : Nat} (h : Tidy s) (hc : s.connection = some wire)
    (hp : s.activity.parting? = none) (hi : s.net.held i = true) : wire = i := by
  have hu := (h.held i).1 hi
  rw [Uses, hc, hp] at hu
  simpa using hu

theorem attemptFailed_connecting {s : Session} (hp : s.link.phase = .connecting) (cause : Cause)
    (fault : ConnectFault) :
    (s.attemptFailed cause fault).activity = .idle ∧
      (s.attemptFailed cause fault).link.phase = .disconnected := by
  have ht := helm_attemptFailed s cause fault
  refine ⟨(congrArg Session.activity ht :), (congrArg (fun t => t.link.phase) ht :).trans ?_⟩
  dsimp only
  rw [phase_settled, Link.phase_connectFailed, if_pos hp]

theorem dial_connecting {s : Session} (hp : s.link.phase = .connecting) (cause : Cause) (limit : Span) :
    (s.dial cause limit).activity.phase? = none ∧ (s.dial cause limit).link.connected = false := by
  have hnot : s.link.connected = false := connected_eq_false (by simp [hp])
  rcases helm_dial s cause limit with ⟨fault, ht⟩ | ⟨_, _, d, _, _, ht⟩
  · obtain ⟨ha, hl⟩ := attemptFailed_connecting hp cause fault
    have ha' : (s.dial cause limit).activity = .idle := (congrArg Session.activity ht :).trans ha
    have hl' : (s.dial cause limit).link.phase = .disconnected := (congrArg (fun t => t.link.phase) ht :).trans hl
    refine ⟨?_, connected_eq_false (by simp [hl'])⟩
    rw [ha']
    rfl
  · exact ⟨(congrArg (fun t => t.activity.phase?) ht :), (congrArg (fun t => t.link.connected) ht :).trans hnot⟩

theorem attempt_idle (s : Session) (cause : Cause) (limit : Span) :
    (s.attempt cause limit).activity.phase? = none ∧
      (s.attempt cause limit).link.connected = s.link.connected := by
  cases hb : s.link.beginConnect? with
  | none =>
    have ht : (s.attempt cause limit).helm = { s.helm with activity := .idle } := helm_attempt_of_none hb
    exact ⟨(congrArg (fun t => t.activity.phase?) ht :), (congrArg (fun t => t.link.connected) ht :)⟩
  | some l =>
    obtain ⟨hp, rfl⟩ := Link.beginConnect?_eq_some hb
    have hnot : s.link.connected = false := by
      apply connected_eq_false
      rcases hp with hp | hp
      · simp [hp]
      · simp [hp]
    rw [attempt_of_some hb, hnot]
    apply dial_connecting
    rfl

theorem tells_attempt {s : Session} (hi : s.activity = .idle) (cause : Cause) (limit : Span) :
    Tells s (s.attempt cause limit) := by
  obtain ⟨ms, hms⟩ := (Speech.refl s).attempt cause limit
  obtain ⟨ha, hl⟩ := attempt_idle s cause limit
  refine .errors ms hms ?_ (staged_of_none ha)
  rw [inSession_of_none ha, hl, inSession_of_none (by rw [hi]; rfl)]

theorem tells_send {s : Session} (hg : s.Staged) (c : Control) : Tells s (s.send c) := by
  obtain ⟨ms, hms⟩ := (Speech.refl s).send c
  have hh : (s.send c).activity = s.activity ∧ (s.send c).link = s.link := by
    rcases helm_send s c with ht | ⟨wire, _, ht⟩
    · exact ⟨(congrArg Session.activity ht :), (congrArg Session.link ht :)⟩
    · exact ⟨(congrArg Session.activity ht :), (congrArg Session.link ht :)⟩
  refine .errors ms hms (inSession_congr hh.1 (by rw [hh.2])) ?_
  intro phase hp
  rw [hh.2]
  exact hg phase (hh.1 ▸ hp)

section

variable {s : Session} (hi : s.activity = .idle) (hT : Tidy s)

include hi

omit hi in
theorem Tells.farewell {s t : Session} (previous : Link.Phase) (h : Speech s previous.farewell t)
    (hb : previous = .closing → s.inSession = false) (ha : t.activity = .idle) (hl : t.link.phase = .closing)
    (hp : t.published = .closing) : Tells s t := by
  have hg : t.Staged := staged_of_none (by rw [ha]; rfl)
  have hout : t.inSession = false := by
    rw [inSession_of_none (by rw [ha]; rfl)]
    exact connected_eq_false (by simp [hl])
  rw [Link.Phase.farewell] at h
  split at h
  · rename_i hprevious
    exact .quiet h (hout.trans (hb hprevious).symm) hg
  · exact .ended [] h rfl (.inr (by rw [hp]; rfl)) hout hg

theorem inSession_idle : s.inSession = s.link.connected :=
  inSession_of_none (by rw [hi]; rfl)

theorem parting_idle : s.activity.parting? = none := by
  rw [hi]
  rfl

include hT

theorem tells_shut : Tells s s.shut := by
  have hp := parting_idle hi
  have hb : s.link.phase = .closing → s.inSession = false := by
    intro hphase
    rw [inSession_idle hi]
    exact connected_eq_false (by simp [hphase])
  have hstart := ((Speech.refl s).keep (u := { s with link := s.link.close }) rfl rfl).publish
  cases hconn : s.connection with
  | none =>
    have ht := helm_shut_of_none hconn
    refine .farewell s.link.phase ?_ hb ((congrArg Session.activity ht :).trans hi)
      (congrArg (fun t => t.link.phase) ht :) (congrArg Session.published ht :)
    have hnone : ({ s with link := s.link.close } : Session).publish.connection = none := hconn
    rw [shut]
    simp only [hnone]
    exact hstart.announceClosed ⟨rfl, fun _ => hT.alone hconn hp⟩ _
  | some wire =>
    have hsome : ({ s with link := s.link.close } : Session).publish.connection = some wire := hconn
    have hframe : Speech s []
        (({ ({ s with link := s.link.close } : Session).publish with connection := none }).note (.closeFrame wire)) :=
      .note (hstart.keep rfl rfl) rfl fun _ _ hx => by cases hx
    have ho (i : Nat) : s.net.held i = true → wire = i := held_of_tidy hT hconn hp
    rw [shut]
    simp only [hsome]
    split
    · refine .quiet (hframe.keep rfl rfl) (inSession_idle hi).symm ?_
      rintro phase ⟨rfl⟩
      rfl
    · refine .farewell s.link.phase ((hframe.log ..).hungUp rfl ho _) hb ?_ ?_ ?_
      · exact (congrArg Session.activity (helm_hungUp _ _ _) :)
      · exact (congrArg (fun t => t.link.phase) (helm_hungUp _ _ _) :)
      · exact (congrArg Session.published (helm_hungUp _ _ _) :)
    · refine .farewell s.link.phase (hframe.hungUp rfl ho _) hb ?_ ?_ ?_
      · exact (congrArg Session.activity (helm_hungUp _ _ _) :)
      · exact (congrArg (fun t => t.link.phase) (helm_hungUp _ _ _) :)
      · exact (congrArg Session.published (helm_hungUp _ _ _) :)

theorem speech_of_loss (hopen : s.link.phase ≠ .closing) (fault? : Option TransportFault) :
    ∃ ms : List String, Speech s (ms.map .error ++ [.closed]) (s.connectionLost fault?) := by
  have hd := helm_dropConnection s
  have hl : s.dropConnection.link = s.link := (congrArg Session.link hd :)
  have hn : s.dropConnection.net = s.net.letGo s.connection := (congrArg Session.net hd :)
  have hpublished := ((Speech.refl s).dropConnection.keep
    (u := { s.dropConnection with link := s.dropConnection.link.connectionLost }) rfl rfl).publish
  have htimely : Event.closed.Timely
      ({ s.dropConnection with link := s.dropConnection.link.connectionLost } : Session).publish := by
    constructor
    · change Event.closed.suits s.dropConnection.link.connectionLost.phase = true
      rw [hl, Link.phase_connectionLost_of_open hopen]
      rfl
    · intro _ i
      change s.dropConnection.net.held i = false
      rw [hn]
      exact hT.held_letGo (parting_idle hi) i
  rw [connectionLost]
  simp only [hl, if_neg hopen] at hpublished htimely ⊢
  cases fault? with
  | none => exact ⟨[], (hpublished.log ..).emit (htimely.of_helm rfl)⟩
  | some fault =>
    exact ⟨[fault.message], ((hpublished.log ..).report ..).emit (htimely.of_helm (helm_report _ _ _))⟩

theorem tells_connectionLost (fault? : Option TransportFault) : Tells s (s.connectionLost fault?) := by
  have hd := helm_dropConnection s
  have hl : s.dropConnection.link = s.link := (congrArg Session.link hd :)
  have ha : s.dropConnection.activity = .idle := (congrArg Session.activity hd :).trans hi
  have ht := helm_connectionLost s fault?
  by_cases hp : s.link.phase = .closing
  · rw [if_pos hp] at ht
    have hat : (s.connectionLost fault?).activity = .idle := (congrArg Session.activity ht :).trans ha
    have hlt : (s.connectionLost fault?).link = s.link := (congrArg Session.link ht :).trans hl
    refine .quiet ?_ (inSession_congr (hat.trans hi.symm) (by rw [hlt])) (staged_of_none (by rw [hat]; rfl))
    rw [connectionLost]
    simp only [hl, if_pos hp]
    exact (Speech.refl s).dropConnection
  · rw [if_neg hp] at ht
    have hdown : s.link.connectionLost.phase = .disconnected := Link.phase_connectionLost_of_open hp
    have hat : (s.connectionLost fault?).activity = .idle := (congrArg Session.activity ht :).trans ha
    have hlt : (s.connectionLost fault?).link = s.link.connectionLost := (congrArg Session.link ht :)
    have hpt : (s.connectionLost fault?).published = .disconnected := (congrArg Session.published ht :).trans hdown
    obtain ⟨ms, hms⟩ := speech_of_loss hi hT hp fault?
    refine .ended ms hms rfl (.inr (by rw [hpt]; rfl)) ?_ (staged_of_none (by rw [hat]; rfl))
    rw [inSession_of_none (by rw [hat]; rfl), hlt]
    exact connected_eq_false (by simp [hdown])

theorem timely_of_expiry {u : Session} {e : Event} (hu : u.helm = s.afterExpiry) (hd : s.link.tick.1 ≠ .nothing)
    (he : e.suits .disconnected = true) : e.Timely u := by
  have hp : u.published = s.link.tick.2.phase := (congrArg Session.published hu :)
  have hn : u.net = s.net.letGo s.connection := (congrArg Session.net hu :)
  have hdown : s.link.tick.2.phase = .disconnected := by simpa [hd] using s.link.phase_tick
  constructor
  · rw [hp, hdown]
    exact he
  · intro _ i
    rw [hn]
    exact hT.held_letGo (parting_idle hi) i

omit hT in
theorem idle_of_expiry {u : Session} (hu : u.helm = s.afterExpiry) (hd : s.link.tick.1 ≠ .nothing) :
    u.activity.phase? = none ∧ u.link.connected = false ∧ u.published = .disconnected := by
  have hdown : s.link.tick.2.phase = .disconnected := by simpa [hd] using s.link.phase_tick
  have ha : u.activity = .idle := (congrArg Session.activity hu :).trans hi
  have hl : u.link = s.link.tick.2 := (congrArg Session.link hu :)
  refine ⟨by rw [ha]; rfl, ?_, (congrArg Session.published hu :).trans hdown⟩
  rw [hl]
  exact connected_eq_false (by simp [hdown])

theorem speech_retrying {n : Nat} {backoff : Span} (hd : s.link.tick.1 ≠ .nothing) :
    Speech s [.reconnecting n] (s.retrying n backoff) := by
  have hx := ((((((Speech.refl s).keep (u := { s with link := s.link.tick.2 }) rfl rfl).log .warn
    "Ticker watchdog expired, reconnecting"
    [("attempt", countText n), ("backoff_secs", countText backoff.seconds)]).record .reconnect).abort).publish)
  refine hx.emit (timely_of_expiry hi hT ?_ hd rfl)
  rw [helm_publish, helm_abort, helm_dropConnection]
  rfl

theorem speech_of_giveUp (hopen : s.closing = false) (hd : s.link.tick.1 = .giveUp) :
    Speech s [.exhausted] s.onTick := by
  have hx := (((((Speech.refl s).keep (u := { s with link := s.link.tick.2 }) rfl rfl).log .error
    "Ticker reconnect attempts exhausted" [("retries", countText s.link.tick.2.retry.count)]).record
    .reconnectsExhausted).abort).publish
  rw [onTick_of_giveUp hopen hd]
  refine hx.emit (timely_of_expiry hi hT ?_ (by simp [hd]) rfl)
  rw [helm_publish, helm_abort, helm_dropConnection]
  rfl

theorem speech_of_timeOut (hopen : s.closing = false) (hd : s.link.tick.1 = .timeOut) :
    Speech s [.error "ticker connection timed out: no data received", .closed] s.onTick := by
  have hx := ((((Speech.refl s).keep (u := { s with link := s.link.tick.2 }) rfl rfl).log .warn
    "Ticker watchdog expired, auto-reconnect disabled" []).abort).publish
  rw [onTick_of_timeOut hopen hd]
  refine (hx.report .timeout "ticker connection timed out: no data received").emit
    (timely_of_expiry hi hT ?_ (by simp [hd]) rfl)
  rw [helm_report, helm_publish, helm_abort, helm_dropConnection]
  rfl

theorem tells_onTick : Tells s s.onTick := by
  have hstill : s.activity.phase? = none := by rw [hi]; rfl
  cases hc : s.closing with
  | true =>
    have hs : s.onTick = s := by rw [onTick, if_pos hc]
    rw [hs]
    exact .quiet (.refl s) rfl (staged_of_none hstill)
  | false =>
    cases hd : s.link.tick.1 with
    | nothing =>
      have hl : s.link.tick.2.phase = s.link.phase := by simpa [hd] using s.link.phase_tick
      rw [onTick_of_nothing hc hd]
      exact .quiet ((Speech.refl s).keep rfl rfl) (inSession_congr rfl hl) (staged_of_none hstill)
    | redial n backoff =>
      have hne : s.link.tick.1 ≠ .nothing := by simp [hd]
      have hr : Speech s [.reconnecting n] (s.retrying n backoff) := speech_retrying hi hT hne
      obtain ⟨ha, hl, _⟩ := idle_of_expiry hi (helm_retrying s n backoff) hne
      rw [onTick_of_redial hc hd]
      split
      · refine .ended [] hr rfl (.inl ⟨n, rfl⟩) ?_ (staged_of_none ha)
        rw [inSession_of_none ha, hl]
      · obtain ⟨ms, hms⟩ := hr.attempt (.retry s.now) (s.setup.connectTimeout.shorter backoff)
        obtain ⟨ha', hl'⟩ := attempt_idle (s.retrying n backoff) (.retry s.now)
          (s.setup.connectTimeout.shorter backoff)
        refine ⟨_, hms, ?_, ?_, staged_of_none ha'⟩
        · rw [inSession_of_none ha', hl', hl]
          exact Event.foldlM_follow_errors false ms
        · intro e he
          rcases List.mem_append.1 he with he | he
          · exact .inl ⟨n, List.mem_singleton.1 he⟩
          · obtain ⟨m, _, rfl⟩ := List.mem_map.1 he
            exact .inr rfl
    | giveUp =>
      obtain ⟨ha, hl, hp⟩ := idle_of_expiry hi (helm_onTick_of_end hc (.inl hd)) (by simp [hd])
      refine .ended [] (speech_of_giveUp hi hT hc hd) rfl (.inr (by rw [hp]; rfl)) ?_ (staged_of_none ha)
      rw [inSession_of_none ha, hl]
    | timeOut =>
      obtain ⟨ha, hl, hp⟩ := idle_of_expiry hi (helm_onTick_of_end hc (.inr hd)) (by simp [hd])
      refine .ended [_] (speech_of_timeOut hi hT hc hd) rfl (.inr (by rw [hp]; rfl)) ?_ (staged_of_none ha)
      rw [inSession_of_none ha, hl]

theorem tells_receive (hc : s.Coherent) (hconn : s.connection.isSome = true) (d : Delivery) :
    Tells s (s.receive d) := by
  have hl : s.link.connected = true := hc.held.symm.trans hconn
  have hp : s.published = .connected := hc.published.trans (of_decide_eq_true hl)
  have hin : s.inSession = true := (inSession_idle hi).trans hl
  have frame {t : Session} (h : Speech s d.events t) (ht : t.helm = { s.helm with link := s.link.dataReceived }) :
      Tells s t := by
    have ha : t.activity = s.activity := (congrArg Session.activity ht :)
    have hpt : t.published = .connected := (congrArg Session.published ht :).trans hp
    refine ⟨_, h, ?_, ?_, staged_of_none (by rw [ha, hi]; rfl)⟩
    · rw [inSession_congr ha (congrArg (fun t => t.link.phase) ht :), hin]
      exact Event.foldlM_follow_inside fun e he => Delivery.mem_events he
    · intro e he
      rw [hpt]
      exact .inr (Delivery.suits_events he)
  have hseeded := (Speech.refl s).keep (u := { s with link := s.link.dataReceived }) rfl rfl
  cases d with
  | binary data =>
    have hd := Dispatch.onBinary (s := { s with link := s.link.dataReceived }) hl data
    exact frame (hseeded.dispatch hd fun e he => Delivery.timely_events (d := .binary data) he hp) hd.helm
  | text content =>
    have hd := Dispatch.onText { s with link := s.link.dataReceived } content
    exact frame (hseeded.dispatch hd fun e he => Delivery.timely_events (d := .text content) he hp) hd.helm
  | close => exact tells_connectionLost hi hT none
  | ended => exact tells_connectionLost hi hT none
  | fault fault => exact tells_connectionLost hi hT (some fault)

theorem tells_handleCommand (c : Command) : Tells s (s.handleCommand c) := by
  have hstill : s.activity.phase? = none := by rw [hi]; rfl
  cases c with
  | connect caller => exact tells_attempt hi _ _
  | send control => exact tells_send (staged_of_none hstill) control
  | resubscribe =>
    have ht := helm_restore s .resume
    have ha : (s.restore .resume).activity.phase? = none := (congrArg (fun t => t.activity.phase?) ht :)
    have hl : (s.restore .resume).link = s.link := (congrArg Session.link ht :)
    refine .quiet ((Speech.refl s).restore .resume) ?_ (staged_of_none ha)
    change (s.restore .resume).inSession = s.inSession
    rw [inSession_of_none ha, hl, inSession_idle hi]
  | enableRetry interval maxRetries =>
    refine .quiet ?_ (inSession_congr rfl (Link.phase_enableRetry _ _ _)) (staged_of_none hstill)
    exact ((Speech.refl s).keep (u := { s with link := s.link.enableRetry interval maxRetries }) rfl rfl).log ..
  | disableRetry =>
    refine .quiet ?_ (inSession_congr rfl rfl) (staged_of_none hstill)
    exact ((Speech.refl s).keep (u := { s with link := s.link.disableRetry }) rfl rfl).log ..
  | close => exact tells_shut hi hT

end

theorem tells_settleDial {s t : Session} {d : Dial} (hc : s.Coherent) (ha : s.activity = .dialing d)
    (h : s.settleDial d = some t) : Tells s t := by
  have hp : s.link.phase = .connecting := hc.dialing.2 (by rw [ha]; rfl)
  have hout : s.inSession = false := by
    rw [inSession_of_none (by rw [ha]; rfl)]
    exact connected_eq_false (by simp [hp])
  rcases settleDial_eq_some h with ⟨fault, rfl⟩ | ⟨_, manner, rfl⟩
  · obtain ⟨ms, hms⟩ := (Speech.refl s).attemptFailed d.cause fault
    obtain ⟨hi, hl⟩ := attemptFailed_connecting hp d.cause fault
    refine .errors ms hms ?_ (staged_of_none (by rw [hi]; rfl))
    rw [hout, inSession_of_none (by rw [hi]; rfl)]
    exact connected_eq_false (by simp [hl])
  · have ht := helm_attemptSucceeded s d.cause manner
    have hat : (s.attemptSucceeded d.cause manner).activity =
        .restoring s.watchlist.restorePlan.controls (.announce d.cause) := (congrArg Session.activity ht :)
    have hlt : (s.attemptSucceeded d.cause manner).link = s.link.connectSucceeded := (congrArg Session.link ht :)
    refine .quiet ((Speech.refl s).attemptSucceeded d.cause manner) ?_ ?_
    · rw [hout, inSession, hat]
    · rw [Staged, hat, hlt]
      rintro phase ⟨rfl⟩
      rfl

theorem tells_restoring {s : Session} {c : Control} {rest : List Control} {sequel : Sequel} (hg : s.Staged)
    (ha : s.activity = .restoring (c :: rest) sequel) :
    Tells s ({ s with activity := .restoring rest sequel }.send c) := by
  have hs : (Activity.restoring rest sequel).phase? = s.activity.phase? := by
    rw [ha]
    cases sequel with
    | resume => rfl
    | announce => rfl
  have hgr : Staged { s with activity := .restoring rest sequel } := fun phase hp => hg phase (hs.symm.trans hp)
  have hstart : Speech s [] { s with activity := .restoring rest sequel } := (Speech.refl s).keep rfl rfl
  refine .after hstart ?_ (tells_send hgr c)
  cases sequel with
  | resume => simp only [inSession, ha]
  | announce => simp only [inSession, ha]

theorem tells_conclude {s : Session} {sequel : Sequel} (hc : s.Coherent) (hg : s.Staged)
    (ha : s.activity = .restoring [] sequel) : Tells s (s.conclude sequel) := by
  have ht := helm_conclude s sequel
  have hat : (s.conclude sequel).activity = .idle := (congrArg Session.activity ht :)
  have hlt : (s.conclude sequel).link = s.link := (congrArg Session.link ht :)
  have hpt : (s.conclude sequel).published = s.published := (congrArg Session.published ht :)
  have hgt : (s.conclude sequel).Staged := staged_of_none (by rw [hat]; rfl)
  have hin : (s.conclude sequel).inSession = s.link.connected := by
    rw [inSession_of_none (by rw [hat]; rfl), hlt]
  cases sequel with
  | resume =>
    refine .quiet ((Speech.refl s).keep rfl rfl) ?_ hgt
    rw [hin, inSession_of_none (by rw [ha]; rfl)]
  | announce cause =>
    have hphase : s.link.phase = .connected := hg .connected (by rw [ha]; rfl)
    have hp : s.published = .connected := hc.published.trans hphase
    have htimely : Event.connected.Timely s := ⟨by rw [hp]; rfl, fun h => by cases h⟩
    have hout : s.inSession = false := by rw [inSession, ha]
    refine ⟨_, ((Speech.refl s).emit htimely).concludeAttempt cause (.ok ()), ?_, ?_, hgt⟩
    · rw [hin, hout, Link.connected, hphase]
      rfl
    · intro e he
      obtain rfl : e = .connected := by simpa using he
      rw [hpt, hp]
      exact .inr rfl

theorem tells_hungUp {s : Session} {wire deadline : Nat} {previous : Link.Phase} (hc : s.Coherent) (hT : Tidy s)
    (hg : s.Staged) (ha : s.activity = .hangingUp wire previous deadline) : Tells s (s.hungUp wire previous) := by
  have hphase : s.link.phase = .closing := hg .closing (by rw [ha]; rfl)
  have hp : s.published = .closing := hc.published.trans hphase
  have ho (i : Nat) (hi : s.net.held i = true) : wire = i := by
    have hu := (hT.held i).1 hi
    rw [Uses, hc.connection_of_ne (by simp [hphase]), ha] at hu
    simpa [Activity.parting?] using hu
  have ht := helm_hungUp s wire previous
  refine .farewell previous ((Speech.refl s).hungUp hp ho previous) ?_ (congrArg Session.activity ht :)
    ((congrArg (fun t => t.link.phase) ht :).trans hphase) ((congrArg Session.published ht :).trans hp)
  rintro rfl
  rw [inSession, ha]
  rfl

theorem Works.tells {task : Task} {s t : Session} (hw : Works task s t) (hstop : task ≠ .stop) (hc : s.Coherent)
    (hT : Tidy s) (hg : s.Staged) : Tells s t := by
  cases hw with
  | @command _ c rest hi _ _ =>
    have hq : Wired s { s with queue := rest } := .keep hT rfl rfl rfl
    have hstart : Speech s [] { s with queue := rest } := (Speech.refl s).keep rfl rfl
    exact .after hstart (inSession_congr rfl rfl) (tells_handleCommand (s := { s with queue := rest }) hi hq.tidy c)
  | tick hi _ =>
    have hd : Wired s { s with due := s.nextDue } := .keep hT rfl rfl rfl
    have hstart : Speech s [] { s with due := s.nextDue } := (Speech.refl s).keep rfl rfl
    exact .after hstart (inSession_congr rfl rfl) (tells_onTick (s := { s with due := s.nextDue }) hi hd.tidy)
  | @delivery _ _ d hi _ hd =>
    obtain ⟨wire, rest, hconn, _, rfl⟩ := takeDelivery?_eq_some hd
    have hheld (i : Nat) :
        (s.net.update wire fun w => { w with inbox := rest }).held i = s.net.held i := by
      apply Net.held_update
      intro w
      rfl
    have hstart : Speech s [] { s with net := s.net.update wire fun w => { w with inbox := rest } } :=
      (Speech.refl s).still (.of_held rfl (Net.length_update _ _ _) hheld)
    have hTn : Tidy { s with net := s.net.update wire fun w => { w with inbox := rest } } :=
      ⟨fun i => (hheld i).symm ▸ hT.held i, hT.apart⟩
    have hcn : Coherent { s with net := s.net.update wire fun w => { w with inbox := rest } } :=
      hc.renet (Net.length_update _ _ _)
    have hlive : s.connection.isSome = true := by rw [hconn]; rfl
    exact .after hstart (inSession_congr rfl rfl) (tells_receive (s :=
      { s with net := s.net.update wire fun w => { w with inbox := rest } }) hi hTn hcn hlive d)
  | handshake hd hs => exact tells_settleDial hc hd hs
  | restore hr => exact tells_restoring hg hr
  | conclude hr => exact tells_conclude hc hg hr
  | hungUp hh => exact tells_hungUp hc hT hg hh
  | @hangUpLate _ wire previous deadline hh _ =>
    have hl : (s.log .debug "Ticker close handshake timed out" []).Coherent := hc.of_helm rfl
    have hTl : Wired s (s.log .debug "Ticker close handshake timed out" []) := .keep hT rfl rfl rfl
    exact .after ((Speech.refl s).log ..) (inSession_congr rfl rfl) (tells_hungUp hl hTl.tidy hg hh)
  | collapse => exact absurd rfl hstop
  | stop => exact absurd rfl hstop

theorem Step.speech {m : Move} {s t : Session} (hs : Step m s t) (hc : s.activity ≠ .stopped → s.Coherent)
    (hT : Tidy s) (hg : s.activity ≠ .stopped → s.Staged) :
    ∃ es, Speech s es t ∧ (t.activity = .stopped → es = []) ∧ (t.activity ≠ .stopped → Telling s es t) := by
  have quiet {t : Session} (h : Speech s [] t) (ha : t.activity = s.activity) (hl : t.link = s.link) :
      ∃ es, Speech s es t ∧ (t.activity = .stopped → es = []) ∧ (t.activity ≠ .stopped → Telling s es t) := by
    refine ⟨[], h, fun _ => rfl, fun hx => ⟨h, ?_, by simp, ?_⟩⟩
    · rw [inSession_congr ha (by rw [hl])]
      rfl
    · rw [Staged, ha, hl]
      exact hg (ha ▸ hx)
  have hrefl := Speech.refl s
  cases hs with
  | @driver task _ _ hw =>
    have hrun := hw.running
    by_cases hstop : task = .stop
    · subst hstop
      cases hw with
      | collapse =>
        exact ⟨[], hrefl.keep rfl rfl, fun _ => rfl, fun hx => absurd rfl hx⟩
      | stop =>
        have hst : Speech s [] s.stop :=
          ((hrefl.keep (u := { s with activity := .stopped }) rfl rfl).abort).log ..
        exact ⟨[], hst, fun _ => rfl, fun hx => absurd (congrArg Session.activity (helm_stop s) :) hx⟩
    · obtain ⟨es, hes⟩ := hw.tells hstop (hc hrun) hT (hg hrun)
      refine ⟨es, hes.speech, fun hx => ?_, fun _ => hes⟩
      have hu := (hw.course_any hstop).underWay
      rw [hx] at hu
      have hu' : s.activity.underWay = false := by
        cases task <;> exact hu.symm
      exact absurd (hw.underWay.symm.trans hu') (by simp)
  | call c =>
    have hh := (Called.call s c).helm
    exact quiet (hrefl.called (.call s c)) (activity_of_helm hh) (congrArg Session.link hh :)
  | @connect _ id =>
    obtain ⟨generation, due, callers, cs, hb, _⟩ := beginConnect_eq s id
    have hsp : Speech s [] (s.beginConnect id) := by
      rw [hb]
      exact hrefl.keep rfl rfl
    have hl : (s.beginConnect id).link = s.link := by rw [hb]
    have ha := activity_beginConnect s id
    refine ⟨[], hsp, fun _ => rfl, fun hx => ⟨hsp, ?_, by simp, ?_⟩⟩
    · by_cases hu : s.activity = .unstarted
      · rw [if_pos hu] at ha
        have hidle : (s.beginConnect id).activity.phase? = none := by rw [ha]; rfl
        rw [inSession_of_none hidle, inSession_of_none (by rw [hu]; rfl), hl]
        rfl
      · rw [if_neg hu] at ha
        rw [inSession_congr ha (by rw [hl])]
        rfl
    · by_cases hu : s.activity = .unstarted
      · rw [if_pos hu] at ha
        exact staged_of_none (by rw [ha]; rfl)
      · rw [if_neg hu] at ha
        rw [Staged, ha, hl]
        exact hg (ha ▸ hx)
  | returned => exact quiet (.note (hrefl.keep rfl rfl) rfl fun _ _ hx => by cases hx) rfl rfl
  | wait => exact quiet (hrefl.keep rfl rfl) rfl rfl
  | push wire d =>
    rcases push_cases s wire d with hp | ⟨id, hp⟩
    · rw [hp]
      exact quiet hrefl rfl rfl
    · rw [hp]
      refine quiet (hrefl.still (.of_held rfl (Net.length_update _ _ _) fun i => ?_)) rfl rfl
      apply Net.held_update
      intro w
      rfl
  | listen => exact quiet (hrefl.keep rfl rfl) rfl rfl
  | drop => exact quiet (hrefl.keep rfl rfl) rfl rfl

structure Told (s : Session) : Prop where
  coherent : s.activity ≠ .stopped → s.Coherent
  tidy : Tidy s
  staged : s.activity ≠ .stopped → s.Staged
  discharged : s.Discharged
  suited : ∀ x ∈ s.trace, x.Suited
  order : ∃ inside, s.events.foldlM Event.follow false = some inside ∧ (s.activity ≠ .stopped → s.inSession = inside)

theorem Step.told {m : Move} {s t : Session} (hs : Step m s t) (h : Told s) : Told t := by
  obtain ⟨es, hsp, hnone, htell⟩ := hs.speech h.coherent h.tidy h.staged
  constructor
  case coherent => exact fun ht => hs.coherent (h.coherent fun hx => ht (hs.stopped hx)) ht
  case tidy => exact (hs.tidy h.tidy h.coherent).1
  case staged => exact fun ht => (htell ht).staged
  case discharged => exact hsp.discharged h.discharged
  case suited =>
    intro x hx
    rcases hsp.suited x hx with hx | hx
    · exact h.suited x hx
    · exact hx
  case order =>
    obtain ⟨inside, hin, hcur⟩ := h.order
    rw [hsp.events, List.foldlM_append, hin]
    by_cases ht : t.activity = .stopped
    · exact ⟨inside, by rw [hnone ht]; rfl, fun hx => absurd ht hx⟩
    · have hcur := hcur fun hx => ht (hs.stopped hx)
      subst hcur
      exact ⟨t.inSession, (htell ht).order, fun _ => rfl⟩

theorem told_start (setup : Setup) (credentials : Credentials) (handlers : Handlers Handler)
    (script : List Outcome) (fallback : Outcome) (gate : ConnectRequest → Option TransportFault) :
    Told (start setup credentials handlers (.start script fallback) gate) where
  coherent _ := coherent_start ..
  tidy := tidy_start ..
  staged _ := staged_of_none rfl
  discharged := fun i hi => absurd hi (Nat.not_lt_zero i)
  suited := by simp [start]
  order := ⟨false, rfl, fun _ => rfl⟩

theorem Run.told {ms : List Move} {s t : Session} (hr : Run ms s t) (h : Told s) : Told t :=
  hr.preserves (fun hs hp => hs.told hp) h

/-- Events come in the order of well-formed sessions, and each of them in a state that suits it; what an event
ends has been released before it is told. -/
theorem events_form_sessions (setup : Setup) (credentials : Credentials) (handlers : Handlers Handler)
    (script : List Outcome) (fallback : Outcome) (gate : ConnectRequest → Option TransportFault) {ms : List Move}
    {s : Session} (hr : Run ms (start setup credentials handlers (.start script fallback) gate) s) :
    Sessions s.events ∧
      (∀ x ∈ s.trace, ∀ e phase, x.happening = .handled e (some phase) → e.suits phase = true) ∧
      (∀ m t, Step m s t → ∀ e time earlier, ⟨time, .emitted e⟩ :: earlier <:+ t.trace → s.trace <:+ earlier →
        ((∃ n, e = .reconnecting n) ∨ e.suits t.published = true) ∧
          (e.ends = true → ∀ i, i < s.net.wires.length → Released i earlier)) ∧
      ∀ t, Works .tick s t → s.closing = false → s.link.phase ≠ .closing → s.link.countdown.tick.1 = .expired →
        s.link.retryEnabled = false →
          t.events = s.events ++ [.error "ticker connection timed out: no data received", .closed] := by
  have h : Told s := hr.told (told_start ..)
  obtain ⟨inside, hin, _⟩ := h.order
  refine ⟨(sessions_of_follow hin).1, h.suited, ?_, ?_⟩
  · intro m t hs e time earlier hx hafter
    obtain ⟨es, hsp, hnone, htell⟩ := hs.speech h.coherent h.tidy h.staged
    obtain ⟨he, hrel⟩ := hsp.parted h.discharged hx hafter
    refine ⟨?_, hrel⟩
    by_cases ht : t.activity = .stopped
    · rw [hnone ht] at he
      cases he
    · exact (htell ht).phase e he
  · intro t hw hopen hphase hexpired hoff
    cases hw with
    | tick hi _ =>
      have hd : s.link.tick.1 = .timeOut := Link.tick_of_expired hphase hexpired hoff
      have hT : Wired s { s with due := s.nextDue } := .keep h.tidy rfl rfl rfl
      have hstart : Speech s [] { s with due := s.nextDue } := (Speech.refl s).keep rfl rfl
      exact (hstart.trans (speech_of_timeOut (s := { s with due := s.nextDue }) hi hT.tidy hopen hd)).events

theorem events_form_sessions_of_silence :
    ∃ s t : Session, s.Reachable ∧ Works .tick s t ∧ s.events = [.connected] ∧ Sessions s.events ∧
      (∃ earlier, ⟨0, .emitted .closed⟩ :: earlier <:+ t.trace ∧ Released 0 earlier) ∧
      t.events = [.connected, .error "ticker connection timed out: no data received", .closed] := by
  -- ten seconds between two ticks: the second one finds the five seconds of silence over
  have first := Run.nil (start { Setup.standard with beat := ⟨.ofSeconds 10⟩ } ⟨"key", "token"⟩ .none
    (.start [] ⟨.accept .smooth, 0⟩) fun _ => none)
  have asked := (first.append (.single (.call .connect _))).append
    (.single (@Step.connect _ 1 (by simp [call, requestConnect, start])))
  have connected := ((asked.append (.single (.driver (.command rfl rfl rfl)))).append
    (.single (.driver (.handshake rfl rfl)))).append (.single (.driver (.conclude rfl)))
  have silent := connected.append (.single (.driver (.tick rfl rfl)))
  obtain ⟨hsessions, _, hends, hexpiry⟩ := events_form_sessions _ _ _ _ _ _ silent
  refine ⟨_, _, ⟨_, _, _, _, _, _, silent⟩, .tick rfl rfl, rfl, hsessions, ⟨_, List.suffix_refl _, ?_⟩,
    hexpiry _ (.tick rfl rfl) rfl (by decide) rfl rfl⟩
  exact (hends _ _ (.driver (.tick rfl rfl)) .closed 0 _ (List.suffix_refl _) ⟨[_, _, _, _, _, _], rfl⟩).2 rfl 0
    (by decide)

end Session

end MarketTicker
