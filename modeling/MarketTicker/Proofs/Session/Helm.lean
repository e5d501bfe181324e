import MarketTicker.Proofs.Session.Calls
import MarketTicker.Session.Clock

namespace MarketTicker

namespace Net

def letGo (n : Net) : Option Nat → Net
  | none => n
  | some wire => n.update wire fun w => { w with held := false }

def charge (n : Net) (wire : Nat) : Net :=
  n.update wire fun w => { w with sends := w.sends + 1 }

theorem length_update (n : Net) (wire : Nat) (f : Wire → Wire) :
    (n.update wire f).wires.length = n.wires.length :=
  List.length_modify ..

@[simp] theorem length_letGo (n : Net) (wire? : Option Nat) :
    (n.letGo wire?).wires.length = n.wires.length := by
  cases wire? with
  | none => rfl
  | some wire => exact length_update ..

@[simp] theorem attempts_letGo (n : Net) (wire? : Option Nat) : (n.letGo wire?).attempts = n.attempts := by
  cases wire? with
  | none => rfl
  | some wire => rfl

@[simp] theorem length_charge (n : Net) (wire : Nat) : (n.charge wire).wires.length = n.wires.length :=
  length_update ..

@[simp] theorem attempts_charge (n : Net) (wire : Nat) : (n.charge wire).attempts = n.attempts := rfl

end Net

namespace Session

theorem wires_nextOutcome (n : Net) : n.nextOutcome.2.wires = n.wires := by
  unfold Net.nextOutcome
  split
  · rfl
  · rfl

/-- The link after an attempt: what failed for the countdown is charged to it. -/
def settled (s : Session) : Cause → Except ConnectFault Unit → Link
  | .retry since, .error _ => s.link.elapsed (s.elapsedSince since)
  | _, _ => s.link

theorem helm_react (s : Session) (r : Reaction) : (s.react r).helm = s.helm :=
  (Called.react s r).helm

@[simp] theorem helm_emit (s : Session) (e : Event) : (s.emit e).helm = s.helm := by
  unfold emit
  dsimp only
  split
  · rfl
  · split
    · exact helm_react _ _
    · exact helm_react _ _

@[simp] theorem helm_report (s : Session) (source : ErrorSource) (message : String) :
    (s.report source message).helm = s.helm :=
  helm_emit _ _

@[simp] theorem helm_log (s : Session) (level : LogLevel) (message : String)
    (fields : List (String × String)) : (s.log level message fields).helm = s.helm := rfl

@[simp] theorem helm_publish (s : Session) :
    s.publish.helm = { s.helm with published := s.helm.link.phase } := rfl

@[simp] theorem helm_dropConnection (s : Session) :
    s.dropConnection.helm =
      { s.helm with connection := none, net := s.helm.net.letGo s.helm.connection } := by
  unfold dropConnection
  split
  · rename_i hc
    have hs : s.helm.connection = none := hc
    simp only [hs, Net.letGo]
    rw [← hs]
  · rename_i wire hc
    have hs : s.helm.connection = some wire := hc
    rw [hs]
    rfl

@[simp] theorem helm_abort (s : Session) : s.abort.helm = s.dropConnection.helm := by
  unfold abort
  split
  · rename_i hc
    simp only [dropConnection, hc]
  · rfl

theorem helm_transmit (s : Session) (wire : Nat) (c : Control) :
    (s.transmit wire c).helm = { s.helm with net := s.helm.net.charge wire } := by
  unfold transmit
  dsimp only
  split
  · rfl
  · exact helm_report _ _ _

theorem send_of_connected {s : Session} {wire : Nat} (hl : s.link.connected = true) (hc : s.connection = some wire)
    (c : Control) : s.send c = s.transmit wire c := by
  unfold send
  rw [if_pos hl]
  simp only [hc]

theorem helm_send (s : Session) (c : Control) :
    (s.send c).helm = s.helm ∨
      ∃ wire, s.connection = some wire ∧
        (s.send c).helm = { s.helm with net := s.helm.net.charge wire } := by
  unfold send
  split
  · split
    · exact .inl rfl
    · rename_i wire hc
      exact .inr ⟨wire, hc, helm_transmit s wire c⟩
  · exact .inl rfl

@[simp] theorem helm_restore (s : Session) (sequel : Sequel) :
    (s.restore sequel).helm =
      { s.helm with activity := .restoring s.watchlist.restorePlan.controls sequel } := by
  unfold restore
  dsimp only
  split
  · rfl
  · rfl

@[simp] theorem helm_concludeAttempt (s : Session) (cause : Cause) (result : Except ConnectFault Unit) :
    (s.concludeAttempt cause result).helm =
      { s.helm with activity := .idle, link := s.helm.settled cause result } := by
  unfold concludeAttempt
  dsimp only
  split
  · rfl
  · rfl
  · rfl

def beforeFailure (s : Session) (fault : ConnectFault) : Session :=
  let s := { s with link := s.link.connectFailed }.publish
  match fault with
  | .cancelled => s.log .info "Ticker connect cancelled" []
  | fault =>
    (s.log .warn "Ticker connection failed" [("error", fault.message)]).report .connect fault.message

theorem attemptFailed_eq (s : Session) (cause : Cause) (fault : ConnectFault) :
    s.attemptFailed cause fault = (s.beforeFailure fault).concludeAttempt cause (.error fault) := rfl

theorem helm_beforeFailure (s : Session) (fault : ConnectFault) :
    (s.beforeFailure fault).helm =
      { s.helm with link := s.link.connectFailed, published := s.link.connectFailed.phase } := by
  cases fault with
  | cancelled => rfl
  | transport fault => exact helm_report _ _ _
  | timeout limit => exact helm_report _ _ _
  | notRunning => exact helm_report _ _ _

@[simp] theorem helm_attemptFailed (s : Session) (cause : Cause) (fault : ConnectFault) :
    (s.attemptFailed cause fault).helm =
      { s.helm with
        activity := .idle, published := s.link.connectFailed.phase
        link := { s.helm with link := s.link.connectFailed }.settled cause (.error fault) } := by
  rw [attemptFailed_eq, helm_concludeAttempt, helm_beforeFailure]
  rfl

theorem helm_attemptSucceeded (s : Session) (cause : Cause) (manner : Manner) :
    (s.attemptSucceeded cause manner).helm =
      { s.helm with
        net := (s.net.accept manner).2, connection := some s.net.wires.length, published := .connected
        link := s.link.connectSucceeded
        activity := .restoring s.watchlist.restorePlan.controls (.announce cause) } :=
  helm_restore _ _

theorem helm_announceClosed (s : Session) (previous : Link.Phase) :
    (s.announceClosed previous).helm = s.helm := by
  unfold announceClosed
  split
  · rfl
  · exact helm_emit _ _

theorem helm_hungUp (s : Session) (wire : Nat) (previous : Link.Phase) :
    (s.hungUp wire previous).helm =
      { s.helm with activity := .idle, net := s.helm.net.letGo (some wire) } :=
  helm_announceClosed _ _

theorem helm_connectionLost (s : Session) (fault? : Option TransportFault) :
    (s.connectionLost fault?).helm =
      if s.link.phase = .closing then s.dropConnection.helm
      else
        { s.dropConnection.helm with
          link := s.link.connectionLost, published := s.link.connectionLost.phase } := by
  have hl : s.dropConnection.link = s.link := (congrArg Session.link (helm_dropConnection s) :)
  unfold connectionLost
  simp only [hl]
  split
  · rfl
  · split
    · rw [helm_emit, helm_report, helm_log, helm_publish]
      rfl
    · rw [helm_emit, helm_log, helm_publish]
      rfl

theorem helm_shut_of_none {s : Session} (hc : s.connection = none) :
    s.shut.helm = { s.helm with link := s.link.close, published := .closing } := by
  unfold shut
  dsimp only
  split
  · exact helm_announceClosed _ _
  · rename_i wire hw
    exact absurd (hc.symm.trans hw) (by simp)

theorem helm_shut_of_some {s : Session} {wire : Nat} (hc : s.connection = some wire) :
    s.shut.helm =
        { s.helm with
          link := s.link.close, published := .closing, connection := none
          activity := .hangingUp wire s.link.phase (s.now + closeTimeout) } ∨
      s.shut.helm =
        { s.helm with
          link := s.link.close, published := .closing, connection := none
          activity := .idle, net := s.net.letGo (some wire) } := by
  unfold shut
  dsimp only
  split
  · rename_i hn
    exact absurd (hc.symm.trans hn) (by simp)
  · rename_i w hw
    obtain rfl : wire = w := Option.some.inj (hc.symm.trans hw)
    split
    · exact .inl rfl
    · exact .inr (helm_hungUp _ _ _)
    · exact .inr (helm_hungUp _ _ _)

/-- The handshake that the far side has ready, as it begins now. -/
def nextDial (s : Session) (cause : Cause) (limit : Span) : Dial :=
  { cause, generation := s.generation, answer := s.net.nextOutcome.1.answer
    arrival := s.now + s.net.nextOutcome.1.delay, limit, deadline := (s.now * 1000000 + limit.nanos + 999999) / 1000000 }

inductive Barred (s : Session) : ConnectFault → Prop
  | cancelled : s.isCancelled s.generation = true → Barred s .cancelled
  | gate {fault : TransportFault} :
      s.isCancelled s.generation = false → s.gate (.make s.setup.root s.credentials) = some fault →
      Barred s (.transport fault)

def Unbarred (s : Session) : Prop :=
  s.isCancelled s.generation = false ∧ s.gate (.make s.setup.root s.credentials) = none

theorem dial_eq (s : Session) (cause : Cause) (limit : Span) :
    ∃ r : LogRecord,
      (∃ fault, s.Barred fault ∧ s.dial cause limit = (s.note (.logged r)).attemptFailed cause fault) ∨
        s.Unbarred ∧ ∃ net request, s.dial cause limit =
          { { s.note (.logged r) with net }.note (.dialled request) with
            activity := .dialing (s.nextDial cause limit) } := by
  refine ⟨⟨.session, .info, "Connecting to Kite ticker",
    [("request", (ConnectRequest.make s.setup.root s.credentials).describe)]⟩, ?_⟩
  unfold dial
  dsimp only
  split
  · rename_i hc
    exact .inl ⟨.cancelled, .cancelled hc, rfl⟩
  · rename_i hc
    rw [Bool.not_eq_true] at hc
    split
    · rename_i hgate
      exact .inl ⟨.transport _, .gate hc hgate, rfl⟩
    · rename_i hgate
      exact .inr ⟨⟨hc, hgate⟩, _, _, rfl⟩

theorem dial_cases (s : Session) (cause : Cause) (limit : Span) :
    (∃ fault, (s.dial cause limit).helm = (s.attemptFailed cause fault).helm) ∨
      s.isCancelled s.generation = false ∧ (s.dial cause limit).closing = s.closing ∧
        (s.dial cause limit).helm =
          { s.helm with net := s.net.nextOutcome.2, activity := .dialing (s.nextDial cause limit) } := by
  unfold dial
  dsimp only
  split
  · exact .inl ⟨.cancelled, by rw [helm_attemptFailed, helm_attemptFailed]; rfl⟩
  · rename_i hc
    split
    · rename_i fault _
      exact .inl ⟨.transport fault, by rw [helm_attemptFailed, helm_attemptFailed]; rfl⟩
    · exact .inr ⟨Bool.eq_false_iff.2 hc, rfl, rfl⟩

theorem helm_dial (s : Session) (cause : Cause) (limit : Span) :
    (∃ fault, (s.dial cause limit).helm = (s.attemptFailed cause fault).helm) ∨
      s.isCancelled s.generation = false ∧ (s.dial cause limit).closing = s.closing ∧
        ∃ d : Dial, d.cause = cause ∧ d.generation = s.generation ∧
          (s.dial cause limit).helm =
            { s.helm with net := s.net.nextOutcome.2, activity := .dialing d } := by
  rcases dial_cases s cause limit with h | ⟨hc, hcl, h⟩
  · exact .inl h
  · exact .inr ⟨hc, hcl, _, rfl, rfl, h⟩

theorem attempt_of_none {s : Session} {cause : Cause} {limit : Span} (h : s.link.beginConnect? = none) :
    s.attempt cause limit =
      (s.log .debug "Ticker already connecting" [("state", s.link.phase.name)]).concludeAttempt cause (.ok ()) := by
  unfold attempt
  simp only [h]

theorem helm_attempt_of_none {s : Session} {cause : Cause} {limit : Span} (h : s.link.beginConnect? = none) :
    (s.attempt cause limit).helm = { s.helm with activity := .idle } := by
  rw [attempt_of_none h, helm_concludeAttempt, helm_log]
  cases cause with
  | caller id => rfl
  | retry since => rfl

theorem attempt_of_some {s : Session} {l : Link} {cause : Cause} {limit : Span}
    (h : s.link.beginConnect? = some l) :
    s.attempt cause limit = ({ s with link := l }.publish).dial cause limit := by
  unfold attempt
  simp only [h]

def afterExpiry (s : Session) : Session :=
  { s.helm with
    link := s.link.tick.2, connection := none, net := s.net.letGo s.connection
    published := s.link.tick.2.phase }

def retrying (s : Session) (attempt : Nat) (backoff : Span) : Session :=
  let s := { s with link := s.link.tick.2 }.log .warn "Ticker watchdog expired, reconnecting"
    [("attempt", countText attempt), ("backoff_secs", countText backoff.seconds)]
  ((s.record .reconnect).abort.publish).emit (.reconnecting attempt)

theorem helm_retrying (s : Session) (attempt : Nat) (backoff : Span) :
    (s.retrying attempt backoff).helm = s.afterExpiry := by
  unfold retrying
  rw [helm_emit, helm_publish, helm_abort, helm_dropConnection]
  rfl

theorem onTick_of_redial {s : Session} {attempt : Nat} {backoff : Span} (hopen : s.closing = false)
    (hd : s.link.tick.1 = .redial attempt backoff) :
    s.onTick =
      if (s.retrying attempt backoff).closing then s.retrying attempt backoff
      else (s.retrying attempt backoff).attempt (.retry s.now) (s.setup.connectTimeout.shorter backoff) := by
  have hnow : (s.retrying attempt backoff).now = s.now := (congrArg Session.now (helm_retrying s _ _) :)
  have hsetup : (s.retrying attempt backoff).setup = s.setup :=
    (congrArg Session.setup (helm_retrying s _ _) :)
  rw [← hnow, ← hsetup]
  unfold onTick retrying
  rw [if_neg (by simp [hopen])]
  generalize s.link.tick = ticked at hd ⊢
  obtain ⟨demand, link⟩ := ticked
  subst hd
  rfl

theorem onTick_of_nothing {s : Session} (hopen : s.closing = false) (hd : s.link.tick.1 = .nothing) :
    s.onTick = { s with link := s.link.tick.2 } := by
  unfold onTick
  rw [if_neg (by simp [hopen])]
  generalize s.link.tick = ticked at hd ⊢
  obtain ⟨demand, link⟩ := ticked
  subst hd
  rfl

theorem onTick_of_giveUp {s : Session} (hopen : s.closing = false) (hd : s.link.tick.1 = .giveUp) :
    s.onTick =
      (((({ s with link := s.link.tick.2 }.log .error "Ticker reconnect attempts exhausted"
        [("retries", countText s.link.tick.2.retry.count)]).record .reconnectsExhausted).abort).publish).emit
        .exhausted := by
  unfold onTick
  rw [if_neg (by simp [hopen])]
  generalize s.link.tick = ticked at hd ⊢
  obtain ⟨demand, link⟩ := ticked
  subst hd
  rfl

theorem onTick_of_timeOut {s : Session} (hopen : s.closing = false) (hd : s.link.tick.1 = .timeOut) :
    s.onTick =
      (((({ s with link := s.link.tick.2 }.log .warn "Ticker watchdog expired, auto-reconnect disabled"
        []).abort).publish).report .timeout "ticker connection timed out: no data received").emit .closed := by
  unfold onTick
  rw [if_neg (by simp [hopen])]
  generalize s.link.tick = ticked at hd ⊢
  obtain ⟨demand, link⟩ := ticked
  subst hd
  rfl

theorem helm_onTick_of_end {s : Session} (hopen : s.closing = false)
    (hd : s.link.tick.1 = .giveUp ∨ s.link.tick.1 = .timeOut) : s.onTick.helm = s.afterExpiry := by
  rcases hd with hd | hd
  · rw [onTick_of_giveUp hopen hd, helm_emit, helm_publish, helm_abort, helm_dropConnection]
    rfl
  · rw [onTick_of_timeOut hopen hd, helm_emit, helm_report, helm_publish, helm_abort, helm_dropConnection]
    rfl

theorem helm_onTick (s : Session) :
    s.onTick.helm = s.helm ∨
      s.link.tick.1 = .nothing ∧ s.onTick.helm = { s.helm with link := s.link.tick.2 } ∨
      s.link.tick.1 ≠ .nothing ∧
        (s.onTick.helm = s.afterExpiry ∨
          ∃ (t : Session) (since : Nat) (limit : Span),
            t.helm = s.afterExpiry ∧ t.closing = false ∧ s.onTick = t.attempt (.retry since) limit) := by
  cases hopen : s.closing with
  | true =>
    left
    rw [onTick, if_pos hopen]
  | false =>
    right
    cases hd : s.link.tick.1 with
    | nothing => exact .inl ⟨rfl, by rw [onTick_of_nothing hopen hd]; rfl⟩
    | redial attempt backoff =>
      refine .inr ⟨by simp, ?_⟩
      rw [onTick_of_redial hopen hd]
      split
      · exact .inl (helm_retrying s attempt backoff)
      · rename_i hstill
        exact .inr ⟨_, _, _, helm_retrying s attempt backoff, Bool.eq_false_iff.2 hstill, rfl⟩
    | giveUp => exact .inr ⟨by simp, .inl (helm_onTick_of_end hopen (.inl hd))⟩
    | timeOut => exact .inr ⟨by simp, .inl (helm_onTick_of_end hopen (.inr hd))⟩

theorem helm_logOutcomes (s : Session) (xs : List Feed.Outcome) : (xs.foldl logOutcome s).helm = s.helm := by
  induction xs generalizing s with
  | nil => rfl
  | cons x xs ih =>
    rw [List.foldl_cons, ih]
    cases x <;> rfl

theorem helm_deliverTicks (s : Session) (ts : List Tick) : (ts.foldl deliverTick s).helm = s.helm := by
  induction ts generalizing s with
  | nil => rfl
  | cons t ts ih =>
    rw [List.foldl_cons, ih]
    exact helm_emit _ _

@[simp] theorem helm_onBinary (s : Session) (data : List UInt8) : (s.onBinary data).helm = s.helm := by
  unfold onBinary
  split
  · rfl
  · dsimp only
    split
    · rfl
    · split
      · rw [helm_deliverTicks]
        split
        · exact helm_logOutcomes _ _
        · exact helm_logOutcomes _ _
      · rfl

@[simp] theorem helm_onText (s : Session) (text : String) : (s.onText text).helm = s.helm := by
  unfold onText
  dsimp only
  split
  · exact helm_emit _ _
  · exact helm_report _ _ _
  · rfl
  · exact helm_report _ _ _
  · rfl

theorem helm_receive (s : Session) (d : Delivery) :
    (s.receive d).helm = { s.helm with link := s.link.dataReceived } ∨
      ∃ fault?, s.receive d = s.connectionLost fault? := by
  cases d with
  | binary data => exact .inl (helm_onBinary _ _)
  | text text => exact .inl (helm_onText _ _)
  | close => exact .inr ⟨none, rfl⟩
  | ended => exact .inr ⟨none, rfl⟩
  | fault fault => exact .inr ⟨some fault, rfl⟩

theorem helm_conclude (s : Session) (sequel : Sequel) :
    (s.conclude sequel).helm = { s.helm with activity := .idle } := by
  cases sequel with
  | resume => rfl
  | announce cause =>
    unfold conclude
    rw [helm_concludeAttempt, helm_emit]
    cases cause with
    | caller id => rfl
    | retry since => rfl

theorem push_cases (s : Session) (wire : Option Nat) (d : Delivery) :
    (s.push wire d).2 = s ∨
      ∃ id, (s.push wire d).2 = { s with net := s.net.update id fun w => w.deliver d } := by
  unfold push
  dsimp only
  split
  · split
    · exact .inr ⟨_, rfl⟩
    · exact .inl rfl
  · exact .inl rfl

theorem push_eq (s : Session) (wire : Option Nat) (d : Delivery) :
    ∃ net, (s.push wire d).2 = { s with net } ∧ net.wires.length = s.net.wires.length ∧
      net.attempts = s.net.attempts := by
  rcases push_cases s wire d with h | ⟨id, h⟩
  · exact ⟨s.net, h, rfl, rfl⟩
  · exact ⟨_, h, Net.length_update _ _ _, rfl⟩

theorem opened_eq (s : Session) :
    ∃ generation due, s.clearClosing.renewGeneration.launch =
      { s with
        closing := false, generation, cancelled := false, due
        activity := if s.activity = .unstarted then .idle else s.activity } := by
  have hr : ∃ generation, s.clearClosing.renewGeneration =
      { s with closing := false, generation, cancelled := false } := by
    unfold renewGeneration
    split
    · exact ⟨_, rfl⟩
    · rename_i hc
      have hfalse : s.clearClosing.cancelled = false := by simpa using hc
      have hsame : { s.clearClosing with cancelled := false } = s.clearClosing := by rw [← hfalse]
      exact ⟨_, hsame.symm⟩
  obtain ⟨generation, hr⟩ := hr
  rw [hr]
  unfold launch
  by_cases hu : s.activity = .unstarted
  · refine ⟨generation, s.nanos + s.setup.beat.interval.nanos, ?_⟩
    rw [if_pos hu, if_pos hu]
    rfl
  · refine ⟨generation, s.due, ?_⟩
    rw [if_neg hu, if_neg hu]

theorem beginConnect_eq (s : Session) (id : Nat) :
    ∃ generation due callers cs, s.beginConnect id =
      { s with
        closing := false, generation, cancelled := false, due, callers, queue := s.queue ++ cs
        activity := if s.activity = .unstarted then .idle else s.activity } ∧ (cs = [] ∨ cs = [.connect id]) := by
  obtain ⟨generation, due, ho⟩ := opened_eq s
  unfold beginConnect enqueue
  rw [ho]
  generalize (if s.activity = .unstarted then Activity.idle else s.activity) = activity
  by_cases hs : activity = .stopped
  · subst hs
    exact ⟨generation, due, _, [], by rw [List.append_nil]; rfl, .inl rfl⟩
  · refine ⟨generation, due, (s.setCaller id .waiting).callers, [.connect id], ?_, .inr rfl⟩
    have hrun {t : Session} (ht : t.activity = activity) : ¬t.driverStopped = true := by
      simpa [driverStopped, ht] using hs
    dsimp only
    rw [if_neg (hrun rfl), if_neg (hrun rfl)]
    rfl

theorem helm_stop (s : Session) :
    s.stop.helm =
      { s.helm with activity := .stopped, connection := none, net := s.net.letGo s.connection } := by
  unfold stop
  rw [helm_log, helm_abort, helm_dropConnection]
  rfl

theorem takeDelivery?_eq_some {s t : Session} {d : Delivery} (h : s.takeDelivery? = some (d, t)) :
    ∃ wire rest, s.connection = some wire ∧ (s.net.wire? wire).map (·.inbox) = some (d :: rest) ∧
      t = { s with net := s.net.update wire fun w => { w with inbox := rest } } := by
  unfold takeDelivery? at h
  split at h
  · cases h
  · rename_i wire hc
    split at h
    · rename_i rest hrest
      cases h
      exact ⟨wire, rest, hc, hrest, rfl⟩
    · cases h

/-- How a handshake ends. An answer counts before the deadline, and a cancellation before both. -/
inductive Ends (s : Session) (d : Dial) : Except ConnectFault Manner → Prop
  | cancelled : s.isCancelled d.generation = true → Ends s d (.error .cancelled)
  | accepted {manner : Manner} :
      s.isCancelled d.generation = false → d.arrival ≤ s.now → d.answer = .accept manner → Ends s d (.ok manner)
  | refused {fault : TransportFault} :
      s.isCancelled d.generation = false → d.arrival ≤ s.now → d.answer = .refuse fault →
      Ends s d (.error (.transport fault))
  | late :
      s.isCancelled d.generation = false → d.answer = .hang ∨ s.now < d.arrival → d.deadline ≤ s.now →
      Ends s d (.error (.timeout d.limit))

theorem settleDial_cases {s t : Session} {d : Dial} (h : s.settleDial d = some t) :
    (∃ fault, s.Ends d (.error fault) ∧ t = s.attemptFailed d.cause fault) ∨
      ∃ manner, s.Ends d (.ok manner) ∧ t = s.attemptSucceeded d.cause manner := by
  unfold settleDial at h
  split at h
  · rename_i hc
    exact .inl ⟨_, .cancelled hc, (Option.some.inj h).symm⟩
  · rename_i hc
    rw [Bool.not_eq_true] at hc
    split at h
    · rename_i harrived
      split at h
      · rename_i manner hanswer
        exact .inr ⟨manner, .accepted hc harrived.1 hanswer, (Option.some.inj h).symm⟩
      · rename_i fault hanswer
        exact .inl ⟨_, .refused hc harrived.1 hanswer, (Option.some.inj h).symm⟩
      · cases h
    · rename_i hwaits
      split at h
      · rename_i hlate
        refine .inl ⟨_, .late hc ?_ hlate, (Option.some.inj h).symm⟩
        by_cases hhang : d.answer = .hang
        · exact .inl hhang
        · exact .inr (Nat.lt_of_not_le fun hle => hwaits ⟨hle, hhang⟩)
      · cases h

theorem settleDial_eq_some {s t : Session} {d : Dial} (h : s.settleDial d = some t) :
    (∃ fault, t = s.attemptFailed d.cause fault) ∨
      s.isCancelled d.generation = false ∧ ∃ manner, t = s.attemptSucceeded d.cause manner := by
  rcases settleDial_cases h with ⟨fault, _, ht⟩ | ⟨manner, hends, ht⟩
  · exact .inl ⟨fault, ht⟩
  · cases hends with
    | accepted hc => exact .inr ⟨hc, manner, ht⟩

theorem settleDial_of_hang {s : Session} {d : Dial} (hc : s.isCancelled d.generation = false)
    (ha : d.answer = .hang) (hd : d.deadline ≤ s.now) :
    s.settleDial d = some (s.attemptFailed d.cause (.timeout d.limit)) := by
  unfold settleDial
  rw [if_neg (by simp [hc]), if_neg (by simp [ha]), if_pos hd]

theorem millis_elapsedSince {s : Session} {since : Nat} (h : s.now - since ≤ 0xFFFFFFFFFFFFFFFF) :
    (s.elapsedSince since).millis = s.now - since := by
  unfold elapsedSince Span.ofNanos?
  rw [dif_pos (by omega)]
  simp only [Option.getD_some, Span.millis]
  omega

end Session

end MarketTicker
