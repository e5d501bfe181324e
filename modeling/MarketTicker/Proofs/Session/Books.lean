import MarketTicker.Proofs.Session.Coherence
import MarketTicker.Proofs.Session.Samples
import MarketTicker.Proofs.Subscription.Watchlist

namespace MarketTicker

inductive Account where
  | error
  | tick (mode : Mode)
  | order
  | reconnecting
  | exhausted
  | control (action : Control.Action)
  deriving DecidableEq

def Event.account? : Event → Option Account
  | .error _ => some .error
  | .tick t => some (.tick t.mode)
  | .order _ => some .order
  | .reconnecting _ => some .reconnecting
  | .exhausted => some .exhausted
  | .connected => none
  | .closed => none

namespace Recording

def account? : Recording → Option Account
  | .error _ => some .error
  | .tick mode => some (.tick mode)
  | .orderUpdate => some .order
  | .reconnect => some .reconnecting
  | .reconnectsExhausted => some .exhausted
  | .controlMessage action => some (.control action)
  | _ => none

def isIntake : Recording → Bool
  | .frame _ => true
  | .packetsSkipped _ => true
  | _ => false

end Recording

namespace Happening

def account? : Happening → Option Account
  | .emitted e => e.account?
  | .sent _ c => some (.control c.action)
  | _ => none

end Happening

def Delivery.intake : Delivery → List Recording
  | .binary data =>
    if data.length = 1 then [.frame .heartbeat]
    else match Feed.Frame.decode data with
      | .ok decoded => .frame .binary :: if 0 < decoded.skipped then [.packetsSkipped decoded.skipped] else []
      | .error _ => [.frame .binary, .packetsSkipped 1]
  | .text _ => [.frame .text]
  | _ => []

namespace Session

variable {s t : Session}

/-- The books of a session: what was recorded of deliveries, what is still owed to happen after it was counted, and
what the gauges follow. -/
structure Books (taken : List Recording) (owed : List Account) (s : Session) : Prop where
  balance : s.recordings.filterMap Recording.account? = s.collect Happening.account? ++ owed
  intake : s.recordings.filter Recording.isIntake = taken
  connected : (s.readings (Metric.gauge .connected)).getLast?.getD 0 = if s.published = .connected then 1 else 0
  subscriptions : ∀ n ∈ (s.readings (Metric.gauge .subscriptions)).getLast?, n = s.watchlist.size

namespace Books

variable {taken : List Recording} {owed : List Account}

theorem congr (h : Books taken owed s) (hr : t.recordings = s.recordings)
    (ha : t.collect Happening.account? = s.collect Happening.account?) (hp : t.published = s.published)
    (hw : t.watchlist.size = s.watchlist.size) : Books taken owed t where
  balance := by rw [hr, ha, h.balance]
  intake := by rw [hr, h.intake]
  connected := by rw [readings, hr, hp]; exact h.connected
  subscriptions := by rw [readings, hr, hw]; exact h.subscriptions

theorem keep (h : Books taken owed s) (ht : t.trace = s.trace) (hp : t.published = s.published)
    (hw : t.watchlist.size = s.watchlist.size) : Books taken owed t :=
  h.congr (recordings_congr ht) (collect_congr ht) hp hw

/-- What happens settles what was counted for it. -/
theorem settle {x : Happening} (h : Books taken (x.account?.toList ++ owed) s) (hx : x.recorded? = none) :
    Books taken owed (s.note x) := by
  have hr : (s.note x).recordings = s.recordings := by simp [recordings_note, hx]
  constructor
  case balance => rw [hr, collect_note, h.balance, List.append_assoc]
  case intake => rw [hr, h.intake]
  case connected => rw [readings, hr]; exact h.connected
  case subscriptions => rw [readings, hr]; exact h.subscriptions

theorem note (h : Books taken owed s) {x : Happening} (hx : x.recorded? = none) (ha : x.account? = none) :
    Books taken owed (s.note x) :=
  settle (by rw [ha]; exact h) hx

theorem enter {r : Recording} (h : Books taken owed s) (ht : t.trace = s.trace)
    (hconnected : ((t.record r).readings (Metric.gauge .connected)).getLast?.getD 0 =
      if t.published = .connected then 1 else 0)
    (hsubscriptions : ∀ n ∈ ((t.record r).readings (Metric.gauge .subscriptions)).getLast?, n = t.watchlist.size) :
    Books (taken ++ [r].filter Recording.isIntake) (owed ++ r.account?.toList) (t.record r) := by
  have hearned : (t.record r).collect Happening.account? = s.collect Happening.account? := by
    rw [Session.record, collect_note, collect_congr ht]
    exact List.append_nil _
  refine ⟨?_, ?_, hconnected, hsubscriptions⟩
  · rw [recordings_record, hearned, List.filterMap_append, recordings_congr ht, h.balance, List.append_assoc]
    cases ha : r.account? <;> simp [ha]
  · rw [recordings_record, List.filter_append, recordings_congr ht, h.intake]

theorem record (h : Books taken owed s) {r : Recording} (hr : r.series.metric.isGauge = false) :
    Books (taken ++ [r].filter Recording.isIntake) (owed ++ r.account?.toList) (s.record r) := by
  have hsame {m : Metric} (hm : m.isGauge = true) : (s.record r).readings m.gauge = s.readings m.gauge := by
    have hne : r.series ≠ m.gauge := fun h => by
      rw [h] at hr
      cases hm.symm.trans hr
    simp [readings_record, Recording.amountIn?, hne]
  refine h.enter rfl ?_ ?_
  · rw [hsame rfl]
    exact h.connected
  · rw [hsame rfl]
    exact h.subscriptions

theorem count (h : Books taken owed s) {r : Recording} {a : Account} (hr : r.account? = some a) :
    Books taken (owed ++ [a]) (s.record r) := by
  have hkind : r.series.metric.isGauge = false ∧ r.isIntake = false := by
    cases r with
    | frame => cases hr
    | packetsSkipped => cases hr
    | connected => cases hr
    | subscriptions => cases hr
    | _ => exact ⟨rfl, rfl⟩
  simpa [hkind.2, hr] using h.record hkind.1

theorem take (h : Books taken owed s) {r : Recording} (hr : r.isIntake = true) :
    Books (taken ++ [r]) owed (s.record r) := by
  have hkind : r.series.metric.isGauge = false ∧ r.account? = none := by
    cases r with
    | frame => exact ⟨rfl, rfl⟩
    | packetsSkipped => exact ⟨rfl, rfl⟩
    | _ => cases hr
  simpa [hr, hkind.2] using h.record hkind.1

theorem gauged {r : Recording} (h : Books taken owed s) (ht : t.trace = s.trace) (hintake : r.isIntake = false)
    (haccount : r.account? = none)
    (hconnected : ((t.record r).readings (Metric.gauge .connected)).getLast?.getD 0 =
      if t.published = .connected then 1 else 0)
    (hsubscriptions : ∀ n ∈ ((t.record r).readings (Metric.gauge .subscriptions)).getLast?, n = t.watchlist.size) :
    Books taken owed (t.record r) := by
  simpa [hintake, haccount] using h.enter ht hconnected hsubscriptions

theorem publish (h : Books taken owed s) : Books taken owed s.publish := by
  have hlast : s.publish.readings (Metric.gauge .connected) =
      s.readings (Metric.gauge .connected) ++ [if s.link.connected then 1 else 0] := readings_record ..
  have hsame : s.publish.readings (Metric.gauge .subscriptions) = s.readings (Metric.gauge .subscriptions) :=
    (readings_record ..).trans (List.append_nil _)
  refine h.gauged (t := { s with published := s.link.phase }) rfl rfl rfl ?_ ?_
  · rw [← Session.publish, hlast, List.getLast?_concat]
    simp [Link.connected]
  · rw [← Session.publish, hsame]
    exact h.subscriptions

theorem recordWatchlist (h : Books taken owed s) (w : Watchlist) : Books taken owed (s.recordWatchlist w) := by
  have hsame : (s.recordWatchlist w).readings (Metric.gauge .connected) = s.readings (Metric.gauge .connected) :=
    (readings_record ..).trans (List.append_nil _)
  refine h.gauged (t := { s with watchlist := w }) rfl rfl rfl ?_ ?_
  · rw [← Session.recordWatchlist, hsame]
    exact h.connected
  · rw [← Session.recordWatchlist, readings_recordWatchlist, List.getLast?_concat]
    exact fun n hn => (Option.some.inj hn).symm

theorem log (h : Books taken owed s) (level : LogLevel) (message : String) (fields : List (String × String)) :
    Books taken owed (s.log level message fields) :=
  h.note rfl rfl

theorem enqueue (h : Books taken owed s) (c : Command) : Books taken owed (s.enqueue c) := by
  unfold Session.enqueue
  split
  · exact h.log ..
  · exact h.keep rfl rfl rfl

theorem enqueueOnWire (h : Books taken owed s) (c : Command) : Books taken owed (s.enqueueOnWire c) := by
  unfold Session.enqueueOnWire
  split
  · exact h
  · exact h.enqueue c

theorem noteSetMode (h : Books taken owed s) (ts : List Token) (mode : Mode) :
    Books taken owed (s.noteSetMode ts mode).1 := by
  have hw := s.watchlist.size_setMode mode ts
  simp only [Session.noteSetMode]
  split
  · exact h.log ..
  · exact Books.log (s := { s with watchlist := (s.watchlist.setMode mode ts).2 }) (h.keep rfl rfl hw) ..

theorem call (h : Books taken owed s) (c : Call) : Books taken owed (s.call c) := by
  cases c with
  | connect => exact h.keep rfl rfl rfl
  | close => exact Books.enqueue (s := s.raiseClosing.cancel) (h.keep rfl rfl rfl) .close
  | subscribe ts =>
    simp only [Session.call, Session.subscribe]
    split
    · exact h
    · exact ((h.recordWatchlist _).log ..).enqueueOnWire _
  | unsubscribe ts =>
    simp only [Session.call, Session.unsubscribe]
    split
    · exact h
    · exact ((h.recordWatchlist _).log ..).enqueueOnWire _
  | setMode ts mode =>
    have hnote := h.noteSetMode ts mode
    simp only [Session.call, Session.setMode]
    split
    · exact h
    · split
      · rename_i hs
        rw [hs] at hnote
        exact hnote
      · rename_i hs
        rw [hs] at hnote
        exact hnote.enqueueOnWire _
  | resubscribe => exact h.enqueueOnWire _
  | enableRetry interval maxRetries => exact h.enqueue _
  | disableRetry => exact h.enqueue _

theorem react (h : Books taken owed s) (r : Reaction) : Books taken owed (s.react r) := by
  have calls (cs : List Call) {s : Session} (h : Books taken owed s) : Books taken owed (s.calls cs) := by
    induction cs generalizing s with
    | nil => exact h
    | cons c cs ih => exact ih (h.call c)
  unfold Session.react
  split
  · exact calls r.calls h
  · exact h

theorem emit {e : Event} (h : Books taken (e.account?.toList ++ owed) s) : Books taken owed (s.emit e) := by
  have htold : Books taken owed (s.note (.emitted e)) := settle h rfl
  rw [Session.emit]
  dsimp only
  split
  · exact htold
  · rename_i handler _
    have hheard := (htold.note (x := .handled e (s.note (.emitted e)).visiblePhase) rfl rfl).react
      (handler (s.note (.emitted e)).trace e)
    split
    · exact hheard.note rfl rfl
    · exact hheard

theorem report (h : Books taken [] s) (source : ErrorSource) (message : String) :
    Books taken [] (s.report source message) :=
  emit (e := .error message) (h.count (r := .error source) rfl)

theorem release (h : Books taken owed s) (wire : Nat) : Books taken owed (s.release wire) :=
  (h.note (x := .released wire) rfl rfl).keep rfl rfl rfl

theorem dropConnection (h : Books taken owed s) : Books taken owed s.dropConnection := by
  rw [Session.dropConnection]
  split
  · exact h
  · rename_i wire _
    exact Books.release (s := { s with connection := none }) (h.keep rfl rfl rfl) wire

theorem abort (h : Books taken owed s) : Books taken owed s.abort := by
  rw [Session.abort]
  split
  · exact h
  · exact h.dropConnection.log ..

/-- A message is counted when it is already on its way. -/
theorem sent (h : Books taken [] s) (wire : Nat) (c : Control) :
    Books taken [] ((s.note (.sent wire c)).record (.controlMessage c.action)) := by
  have hcounted : Books taken [.control c.action] (s.record (.controlMessage c.action)) := h.count rfl
  have hsettled : Books taken [] ((s.record (.controlMessage c.action)).note (.sent wire c)) :=
    settle (x := .sent wire c) hcounted rfl
  refine hsettled.congr ?_ ?_ rfl rfl
  · simp [Session.record, recordings_note, Happening.recorded?]
  · simp [Session.record, collect_note, Happening.account?]

theorem transmit (h : Books taken [] s) (wire : Nat) (c : Control) : Books taken [] (s.transmit wire c) := by
  have hcharged : Books taken [] { s with net := s.net.charge wire } := h.keep rfl rfl rfl
  rw [Session.transmit]
  split
  · exact (hcharged.sent wire c).log ..
  · exact ((hcharged.note (x := .sendFailed wire c) rfl rfl).log ..).report ..

theorem send (h : Books taken [] s) (c : Control) : Books taken [] (s.send c) := by
  rw [Session.send]
  split
  · split
    · exact h
    · exact h.transmit _ c
  · exact h.log ..

theorem restore (h : Books taken owed s) (sequel : Sequel) : Books taken owed (s.restore sequel) := by
  have hr : Books taken owed { s with activity := .restoring s.watchlist.restorePlan.controls sequel } :=
    h.keep rfl rfl rfl
  rw [Session.restore]
  split
  · exact hr
  · exact hr.log ..

theorem concludeAttempt (h : Books taken owed s) (cause : Cause) (result : Except ConnectFault Unit) :
    Books taken owed (s.concludeAttempt cause result) := by
  unfold Session.concludeAttempt
  dsimp only
  split
  · exact h.keep rfl rfl rfl
  · exact h.keep rfl rfl rfl
  · exact h.keep rfl rfl rfl

theorem attemptFailed (h : Books taken [] s) (cause : Cause) (fault : ConnectFault) :
    Books taken [] (s.attemptFailed cause fault) := by
  have hp : Books taken [] { s with link := s.link.connectFailed }.publish := publish (h.keep rfl rfl rfl)
  unfold Session.attemptFailed
  dsimp only
  split
  · exact (hp.log ..).concludeAttempt ..
  · exact ((hp.log ..).report ..).concludeAttempt ..

theorem attemptSucceeded (h : Books taken owed s) (cause : Cause) (manner : Manner) :
    Books taken owed (s.attemptSucceeded cause manner) := by
  have ha : Books taken owed
      { s with
        net := (s.net.accept manner).2, connection := some (s.net.accept manner).1
        link := s.link.connectSucceeded } := h.keep rfl rfl rfl
  exact (ha.publish.log .info "Connected to Kite ticker" []).restore (.announce cause)

theorem dial (h : Books taken [] s) (cause : Cause) (limit : Span) : Books taken [] (s.dial cause limit) := by
  obtain ⟨r, ⟨fault, _, hs⟩ | ⟨_, net, request, hs⟩⟩ := dial_eq s cause limit
  · rw [hs]
    exact attemptFailed (h.note rfl rfl) cause fault
  · rw [hs]
    have hn : Books taken [] { s.note (.logged r) with net } :=
      Books.keep (s := s.note (.logged r)) (h.note rfl rfl) rfl rfl rfl
    exact (hn.note (x := .dialled request) rfl rfl).keep rfl rfl rfl

theorem attempt (h : Books taken [] s) (cause : Cause) (limit : Span) : Books taken [] (s.attempt cause limit) := by
  cases hb : s.link.beginConnect? with
  | none =>
    rw [attempt_of_none hb]
    exact (h.log ..).concludeAttempt ..
  | some l =>
    rw [attempt_of_some hb]
    exact Books.dial (Books.publish (s := { s with link := l }) (h.keep rfl rfl rfl)) cause limit

theorem announceClosed (h : Books taken [] s) (previous : Link.Phase) : Books taken [] (s.announceClosed previous) := by
  rw [Session.announceClosed]
  split
  · exact h
  · exact emit (e := .closed) (h.log ..)

theorem hungUp (h : Books taken [] s) (wire : Nat) (previous : Link.Phase) :
    Books taken [] (s.hungUp wire previous) :=
  (Books.release (s := { s with activity := .idle }) (h.keep rfl rfl rfl) wire).announceClosed previous

theorem shut (h : Books taken [] s) : Books taken [] s.shut := by
  have hp : Books taken [] { s with link := s.link.close }.publish := publish (h.keep rfl rfl rfl)
  unfold Session.shut
  dsimp only
  split
  · exact hp.announceClosed _
  · rename_i wire _
    have hfree : Books taken [] { { s with link := s.link.close }.publish with connection := none } :=
      hp.keep rfl rfl rfl
    have hf := hfree.note (x := .closeFrame wire) rfl rfl
    split
    · exact hf.keep rfl rfl rfl
    · exact (hf.log ..).hungUp ..
    · exact hf.hungUp ..

theorem connectionLost (h : Books taken [] s) (fault? : Option TransportFault) :
    Books taken [] (s.connectionLost fault?) := by
  unfold Session.connectionLost
  dsimp only
  split
  · exact h.dropConnection
  · have hp : Books taken [] { s.dropConnection with link := s.dropConnection.link.connectionLost }.publish :=
      publish (h.dropConnection.keep rfl rfl rfl)
    apply emit (e := .closed)
    split
    · exact (hp.log ..).report ..
    · exact hp.log ..

theorem handleCommand (h : Books taken [] s) (c : Command) : Books taken [] (s.handleCommand c) := by
  cases c with
  | connect caller => exact h.attempt ..
  | send control => exact h.send control
  | resubscribe => exact h.restore _
  | enableRetry interval maxRetries =>
    exact Books.log (s := { s with link := s.link.enableRetry interval maxRetries }) (h.keep rfl rfl rfl) ..
  | disableRetry => exact Books.log (s := { s with link := s.link.disableRetry }) (h.keep rfl rfl rfl) ..
  | close => exact h.shut

theorem retrying (h : Books taken [] s) (attempt : Nat) (backoff : Span) :
    Books taken [] (s.retrying attempt backoff) := by
  have hl : Books taken [] { s with link := s.link.tick.2 } := h.keep rfl rfl rfl
  exact emit (e := .reconnecting attempt) (((hl.log ..).count (r := .reconnect) rfl).abort.publish)

theorem onTick (h : Books taken [] s) : Books taken [] s.onTick := by
  cases hopen : s.closing with
  | true =>
    rw [Session.onTick, if_pos hopen]
    exact h
  | false =>
    have hl : Books taken [] { s with link := s.link.tick.2 } := h.keep rfl rfl rfl
    cases hd : s.link.tick.1 with
    | nothing =>
      rw [onTick_of_nothing hopen hd]
      exact hl
    | redial attempt backoff =>
      rw [onTick_of_redial hopen hd]
      split
      · exact h.retrying attempt backoff
      · exact (h.retrying attempt backoff).attempt ..
    | giveUp =>
      rw [onTick_of_giveUp hopen hd]
      exact emit (e := .exhausted) (((hl.log ..).count (r := .reconnectsExhausted) rfl).abort.publish)
    | timeOut =>
      rw [onTick_of_timeOut hopen hd]
      exact emit (e := .closed) ((hl.log ..).abort.publish.report ..)

theorem logOutcomes (h : Books taken owed s) (xs : List Feed.Outcome) : Books taken owed (xs.foldl logOutcome s) := by
  induction xs generalizing s with
  | nil => exact h
  | cons x xs ih =>
    apply ih
    cases x with
    | tick => exact h
    | missing => exact h
    | zeroToken => exact h.note rfl rfl
    | rejected => exact h.note rfl rfl
    | cut => exact h.note rfl rfl

theorem deliverTicks (h : Books taken [] s) (ts : List Tick) : Books taken [] (ts.foldl deliverTick s) := by
  induction ts generalizing s with
  | nil => exact h
  | cons x ts ih => exact ih (emit (e := .tick x) (h.count (r := .tick x.mode) rfl))

theorem onBinary (h : Books taken [] s) (hl : s.link.connected = true) (data : List UInt8) :
    Books (taken ++ (Delivery.binary data).intake) [] (s.onBinary data) := by
  rw [Session.onBinary, Delivery.intake]
  by_cases hbeat : data.length = 1
  · have hb : Feed.Frame.isHeartbeat data = true := decide_eq_true hbeat
    rw [if_pos hbeat, if_pos hb]
    exact h.take rfl
  · have hframe : Books (taken ++ [.frame .binary]) [] (s.record (.frame .binary)) := h.take rfl
    have hup : (s.record (.frame .binary)).link.connected = true := hl
    have hb : ¬Feed.Frame.isHeartbeat data = true := fun hb => hbeat (of_decide_eq_true hb)
    rw [if_neg hbeat, if_neg hb]
    dsimp only
    rw [if_neg (by simp [hup])]
    cases Feed.Frame.decode data with
    | ok decoded =>
      dsimp only
      split
      · rw [List.append_cons]
        exact deliverTicks ((hframe.logOutcomes _).take rfl) _
      · exact (hframe.logOutcomes _).deliverTicks _
    | error fault =>
      dsimp only
      rw [List.append_cons]
      exact (hframe.take rfl).log ..

theorem onText (h : Books taken [] s) (text : String) :
    Books (taken ++ (Delivery.text text).intake) [] (s.onText text) := by
  have hframe : Books (taken ++ [.frame .text]) [] (s.record (.frame .text)) := h.take rfl
  rw [Session.onText, Delivery.intake]
  cases ServerMessage.read text with
  | ok message =>
    cases message with
    | order order => exact emit (e := .order order) ((hframe.count (r := .orderUpdate) rfl).log ..)
    | error message => exact (hframe.log ..).report ..
    | other kind => exact hframe.log ..
  | error refusal =>
    cases refusal with
    | invalidOrder reason => exact (hframe.log ..).report ..
    | malformed reason => exact hframe.log ..

theorem receive (h : Books taken [] s) (hl : s.link.connected = true) (d : Delivery) :
    Books (taken ++ d.intake) [] (s.receive d) := by
  have hr : Books taken [] { s with link := s.link.dataReceived } := h.keep rfl rfl rfl
  cases d with
  | binary data => exact hr.onBinary hl data
  | text text => exact hr.onText text
  | close => exact (List.append_nil taken).symm ▸ h.connectionLost none
  | ended => exact (List.append_nil taken).symm ▸ h.connectionLost none
  | fault fault => exact (List.append_nil taken).symm ▸ h.connectionLost (some fault)

theorem conclude (h : Books taken [] s) (sequel : Sequel) : Books taken [] (s.conclude sequel) := by
  cases sequel with
  | resume => exact h.keep rfl rfl rfl
  | announce cause => exact Books.concludeAttempt (emit (e := .connected) h) cause (.ok ())

theorem stop (h : Books taken owed s) : Books taken owed s.stop :=
  (Books.abort (s := { s with activity := .stopped }) (h.keep rfl rfl rfl)).log ..

theorem settleDial (h : Books taken [] s) {d : Dial} (hd : s.settleDial d = some t) : Books taken [] t := by
  rcases settleDial_eq_some hd with ⟨fault, rfl⟩ | ⟨_, manner, rfl⟩
  · exact h.attemptFailed ..
  · exact h.attemptSucceeded ..

theorem beginConnect (h : Books taken owed s) (id : Nat) : Books taken owed (s.beginConnect id) := by
  obtain ⟨generation, due, callers, cs, hs, _⟩ := beginConnect_eq s id
  rw [hs]
  exact h.keep rfl rfl rfl

theorem start (setup : Setup) (credentials : Credentials) (handlers : Handlers Handler) (net : Net)
    (gate : ConnectRequest → Option TransportFault) :
    Books [] [] (Session.start setup credentials handlers net gate) := by
  constructor
  case balance => rfl
  case intake => rfl
  case connected => rfl
  case subscriptions => exact fun n hn => by cases hn

end Books

def readIn (s : Session) : Move → List Delivery
  | .driver .delivery => (s.takeDelivery?.map (·.1)).toList
  | _ => []

theorem Works.books {task : Task} {taken : List Recording} (hw : Works task s t) (hc : s.activity = .idle → s.Coherent)
    (h : Books taken [] s) : Books (taken ++ (s.readIn (.driver task)).flatMap Delivery.intake) [] t := by
  have quiet {t : Session} (ht : Books taken [] t) : Books (taken ++ []) [] t := (List.append_nil taken).symm ▸ ht
  cases hw with
  | @delivery _ _ d hi _ hd =>
    obtain ⟨wire, rest, hconn, _, rfl⟩ := takeDelivery?_eq_some hd
    have hread : s.readIn (.driver .delivery) = [d] := by
      rw [readIn, hd]
      rfl
    have hl : s.link.connected = true := by
      rw [← (hc hi).held, hconn]
      rfl
    rw [hread, List.flatMap_singleton]
    have hu : Books taken [] { s with net := s.net.update wire fun w => { w with inbox := rest } } :=
      h.keep rfl rfl rfl
    exact hu.receive hl d
  | @command _ c rest => exact quiet (Books.handleCommand (s := { s with queue := rest }) (h.keep rfl rfl rfl) c)
  | tick => exact quiet (Books.onTick (s := { s with due := s.nextDue }) (h.keep rfl rfl rfl))
  | handshake _ hd => exact quiet (h.settleDial hd)
  | @restore _ c rest sequel =>
    exact quiet (Books.send (s := { s with activity := .restoring rest sequel }) (h.keep rfl rfl rfl) c)
  | conclude => exact quiet (h.conclude _)
  | hungUp => exact quiet (h.hungUp _ _)
  | hangUpLate => exact quiet ((h.log .debug "Ticker close handshake timed out" []).hungUp _ _)
  | collapse => exact quiet (h.keep rfl rfl rfl)
  | stop => exact quiet h.stop

theorem Step.books {m : Move} {taken : List Recording} (hs : Step m s t) (hc : s.activity = .idle → s.Coherent)
    (h : Books taken [] s) : Books (taken ++ (s.readIn m).flatMap Delivery.intake) [] t := by
  have quiet {t : Session} (ht : Books taken [] t) : Books (taken ++ []) [] t := (List.append_nil taken).symm ▸ ht
  cases hs with
  | driver hw => exact hw.books hc h
  | call c => exact quiet (h.call c)
  | connect => exact quiet (h.beginConnect _)
  | @returned _ id result =>
    have hu : Books taken [] { s with callers := s.callers.filter (·.1 ≠ id) } := h.keep rfl rfl rfl
    exact quiet (hu.note (x := .returned id result) rfl rfl)
  | wait => exact quiet (h.keep rfl rfl rfl)
  | push wire d =>
    obtain ⟨net, hp, _⟩ := push_eq s wire d
    rw [hp]
    exact quiet (h.keep rfl rfl rfl)
  | listen => exact quiet (h.keep rfl rfl rfl)
  | drop => exact quiet (h.keep rfl rfl rfl)

/-- A run, with all that the driver reads from its connections in the course of it. -/
inductive Reading : List Move → Session → List Delivery → Session → Prop
  | nil (s : Session) : Reading [] s [] s
  | cons {m : Move} {ms : List Move} {s t u : Session} {ds : List Delivery} :
      Step m s t → Reading ms t ds u → Reading (m :: ms) s (s.readIn m ++ ds) u

theorem Run.reading {ms : List Move} (h : Run ms s t) : ∃ ds, Reading ms s ds t := by
  induction h with
  | nil s => exact ⟨[], .nil s⟩
  | cons hs _ ih =>
    obtain ⟨ds, hds⟩ := ih
    exact ⟨_, .cons hs hds⟩

theorem Reading.run {ms : List Move} {ds : List Delivery} (h : Reading ms s ds t) : Run ms s t := by
  induction h with
  | nil s => exact .nil s
  | cons hs _ ih => exact .cons hs ih

theorem Reading.books {ms : List Move} {ds : List Delivery} {taken : List Recording} (h : Reading ms s ds t)
    (hr : s.Reachable) (hb : Books taken [] s) : Books (taken ++ ds.flatMap Delivery.intake) [] t := by
  induction h generalizing taken with
  | nil => exact (List.append_nil taken).symm ▸ hb
  | @cons m ms s t u ds hs _ ih =>
    have hc (hi : s.activity = .idle) : s.Coherent := hr.coherent (by simp [hi])
    rw [List.flatMap_append, ← List.append_assoc]
    exact ih (hr.run (.single hs)) (hs.books hc hb)

theorem Reachable.books (h : s.Reachable) : ∃ taken, Books taken [] s := by
  obtain ⟨setup, credentials, handlers, net, gate, ms, hr⟩ := h
  obtain ⟨ds, hds⟩ := hr.reading
  exact ⟨_, hds.books ⟨setup, credentials, handlers, net, gate, [], .nil _⟩ (.start ..)⟩

end Session

end MarketTicker
