import Mathlib.Data.List.Forall2
import MarketTicker.Proofs.Session.Dispatch
import MarketTicker.Proofs.Session.Step

namespace MarketTicker

namespace ConnectRequest

/-- Two requests that show the same; the query of the address is not shown. -/
structure Like (r r' : ConnectRequest) : Prop where
  endpoint : r'.endpoint = r.endpoint
  headers : r'.headers = r.headers

theorem Like.describe {r r' : ConnectRequest} (h : Like r r') : r'.describe = r.describe := by
  unfold ConnectRequest.describe
  rw [h.endpoint, h.headers]

/-- The credentials come after a question mark, wherever the root has its first. -/
theorem endpoint_make (root : String) (c : Credentials) :
    (make root c).endpoint = String.ofList (root.toList.takeWhile (· ≠ '?')) := by
  have hurl : (make root c).url.toList =
      root.toList ++ '?' :: ("api_key=" ++ c.apiKey ++ "&access_token=" ++ c.accessToken).toList := by
    simp [make]
  rw [endpoint, hurl, List.takeWhile_append]
  split
  · rename_i hall
    rw [List.takeWhile_cons_of_neg (by simp), List.append_nil]
    exact congrArg String.ofList ((List.takeWhile_prefix _).eq_of_length hall).symm
  · rfl

theorem like_make (root : String) (c d : Credentials) : Like (make root c) (make root d) :=
  ⟨by rw [endpoint_make, endpoint_make], rfl⟩

end ConnectRequest

inductive Happening.Like : Happening → Happening → Prop
  | same (h : Happening) : Like h h
  | dialled {r r' : ConnectRequest} : r.Like r' → Like (.dialled r) (.dialled r')

namespace Happening

def sent? : Happening → Option (Nat × Control)
  | .sent wire c => some (wire, c)
  | _ => none

def logged? : Happening → Option LogRecord
  | .logged r => some r
  | _ => none

def dialled? : Happening → Option ConnectRequest
  | .dialled r => some r
  | _ => none

def shown? (h : Happening) : Option (String × List (String × String)) :=
  h.dialled?.map fun r => (r.describe, r.headers)

end Happening

structure TraceEntry.Like (x y : TraceEntry) : Prop where
  time : y.time = x.time
  happening : x.happening.Like y.happening

/-- Neither the far side nor a handler looks at more of a request than it shows. -/
structure Discreet (gate : ConnectRequest → Option TransportFault) (handlers : Handlers Handler) : Prop where
  gate : ∀ r r', r.Like r' → gate r' = gate r
  handlers : ∀ slot handler, handlers.get? slot = some handler →
    ∀ past past', past.Forall₂ TraceEntry.Like past' → ∀ e, handler past' e = handler past e

theorem discreet_steady (reactions : Handlers Reaction) (fault? : Option TransportFault) :
    Discreet (fun _ => fault?) (reactions : Handlers Handler) where
  gate _ _ _ := rfl
  handlers slot handler h past past' _ e := by
    obtain ⟨r, _, rfl⟩ := Option.map_eq_some_iff.1 h
    rfl

structure View where
  phase : Link.Phase
  events : List Event
  sent : List (Nat × Control)
  logged : List LogRecord
  requests : List (String × List (String × String))

namespace Session

def view (s : Session) : View :=
  ⟨s.published, s.events, s.collect Happening.sent?, s.collect Happening.logged?, s.collect Happening.shown?⟩

def performs (s : Session) (stimuli : List Stimulus) : Session :=
  stimuli.foldl (fun s stimulus => (s.perform stimulus).2) s

inductive DiscreetRun : List Move → Session → Session → Prop
  | nil (s : Session) : DiscreetRun [] s s
  | cons {m : Move} {ms : List Move} {s t u : Session} :
      Step m s t → Discreet t.gate t.handlers → DiscreetRun ms t u → DiscreetRun (m :: ms) s u

/-- Sessions that differ in nothing but their credentials and in the addresses that were dialled. -/
inductive Alike : Session → Session → Prop
  | intro {s : Session} {credentials : Credentials} {trace : List TraceEntry} :
      Discreet s.gate s.handlers → s.trace.Forall₂ TraceEntry.Like trace →
      Alike s { s with credentials, trace }

theorem exists_some_of_rel {α : Type} {R : α → α → Prop} {x? y? : Option α} {x : α} (h : Option.Rel R x? y?)
    (hx : x? = some x) : ∃ y, y? = some y ∧ R x y := by
  subst hx
  cases h with
  | some h => exact ⟨_, rfl, h⟩

/-- A change in which neither the credentials nor the trace take part, and which leaves the far side and the
handlers as they are. -/
def Plain (f : Session → Session) : Prop :=
  ∀ s credentials trace,
    (f { s with credentials, trace }, s.trace, s.gate, s.handlers) =
      ({ f s with credentials, trace }, (f s).trace, (f s).gate, (f s).handlers)

namespace Alike

variable {s t : Session}

theorem discreet (h : Alike s t) : Discreet s.gate s.handlers := by
  cases h with | intro hd => exact hd

theorem trace (h : Alike s t) : s.trace.Forall₂ TraceEntry.Like t.trace := by
  cases h with | intro _ ht => exact ht

theorem same {α : Type} (h : Alike s t) (f : Session → α)
    (hf : ∀ s credentials trace, f { s with credentials, trace } = f s) : f t = f s := by
  cases h with | intro => exact hf ..

theorem setup (h : Alike s t) : t.setup = s.setup :=
  h.same _ fun _ _ _ => rfl

theorem gate (h : Alike s t) : t.gate = s.gate :=
  h.same _ fun _ _ _ => rfl

theorem handlers (h : Alike s t) : t.handlers = s.handlers :=
  h.same _ fun _ _ _ => rfl

theorem watchlist (h : Alike s t) : t.watchlist = s.watchlist :=
  h.same _ fun _ _ _ => rfl

theorem link (h : Alike s t) : t.link = s.link :=
  h.same _ fun _ _ _ => rfl

theorem connection (h : Alike s t) : t.connection = s.connection :=
  h.same _ fun _ _ _ => rfl

theorem activity (h : Alike s t) : t.activity = s.activity :=
  h.same _ fun _ _ _ => rfl

theorem driverStopped (h : Alike s t) : t.driverStopped = s.driverStopped :=
  h.same _ fun _ _ _ => rfl

theorem alive (h : Alike s t) : t.alive = s.alive :=
  h.same _ fun _ _ _ => rfl

theorem change (h : Alike s t) (f : Session → Session) (hf : Plain f) : Alike (f s) (f t) := by
  cases h with
  | @intro credentials trace hd ht =>
    have hf := hf s credentials trace
    simp only [Prod.mk.injEq] at hf
    obtain ⟨heq, htrace, hgate, hhandlers⟩ := hf
    rw [heq]
    refine .intro ?_ ?_
    · rw [← hgate, ← hhandlers]
      exact hd
    · rw [← htrace]
      exact ht

theorem noteLike (h : Alike s t) {x y : Happening} (hxy : x.Like y) : Alike (s.note x) (t.note y) := by
  cases h with
  | intro hd ht => exact .intro (s := s.note x) hd (.cons ⟨rfl, hxy⟩ ht)

theorem note (h : Alike s t) (x : Happening) : Alike (s.note x) (t.note x) :=
  h.noteLike (.same x)

theorem log (h : Alike s t) (level : LogLevel) (message : String) (fields : List (String × String)) :
    Alike (s.log level message fields) (t.log level message fields) :=
  h.note _

theorem record (h : Alike s t) (r : Recording) : Alike (s.record r) (t.record r) :=
  h.note _

theorem enqueue (h : Alike s t) (c : Command) : Alike (s.enqueue c) (t.enqueue c) := by
  unfold Session.enqueue
  rw [h.driverStopped]
  split
  · exact h.log ..
  · exact h.change (fun s => { s with queue := s.queue ++ [c] }) fun _ _ _ => rfl

theorem enqueueOnWire (h : Alike s t) (c : Command) : Alike (s.enqueueOnWire c) (t.enqueueOnWire c) := by
  unfold Session.enqueueOnWire
  rw [h.activity]
  split
  · exact h
  · exact h.enqueue c

theorem recordWatchlist (h : Alike s t) (w : Watchlist) : Alike (s.recordWatchlist w) (t.recordWatchlist w) :=
  (h.change (fun s => { s with watchlist := w }) fun _ _ _ => rfl).record _

theorem subscribe (h : Alike s t) (tokens : List Token) : Alike (s.subscribe tokens) (t.subscribe tokens) := by
  unfold Session.subscribe Session.noteSubscribe
  rw [h.watchlist]
  split
  · exact h
  · exact ((h.recordWatchlist _).log ..).enqueueOnWire _

theorem unsubscribe (h : Alike s t) (tokens : List Token) :
    Alike (s.unsubscribe tokens) (t.unsubscribe tokens) := by
  unfold Session.unsubscribe Session.noteUnsubscribe
  rw [h.watchlist]
  split
  · exact h
  · exact ((h.recordWatchlist _).log ..).enqueueOnWire _

theorem setMode (h : Alike s t) (tokens : List Token) (mode : Mode) :
    Alike (s.setMode tokens mode) (t.setMode tokens mode) := by
  unfold Session.setMode Session.noteSetMode
  rw [h.watchlist]
  by_cases ht : tokens = []
  · rw [if_pos ht, if_pos ht]
    exact h
  · rw [if_neg ht, if_neg ht]
    dsimp only
    by_cases hu : (s.watchlist.setMode mode tokens).1 = []
    · rw [if_pos hu, if_pos hu]
      exact h.log ..
    · rw [if_neg hu, if_neg hu]
      exact ((h.change (fun s => { s with watchlist := _ }) fun _ _ _ => rfl).log ..).enqueueOnWire _

theorem close (h : Alike s t) : Alike s.close t.close :=
  (h.change (fun s => s.raiseClosing.cancel) fun _ _ _ => rfl).enqueue .close

theorem call (h : Alike s t) (c : Call) : Alike (s.call c) (t.call c) := by
  cases c with
  | connect => exact h.change requestConnect fun _ _ _ => rfl
  | close => exact h.close
  | subscribe tokens => exact h.subscribe tokens
  | unsubscribe tokens => exact h.unsubscribe tokens
  | setMode tokens mode => exact h.setMode tokens mode
  | resubscribe => exact h.enqueueOnWire .resubscribe
  | enableRetry interval maxRetries => exact h.enqueue _
  | disableRetry => exact h.enqueue _

theorem calls (h : Alike s t) (cs : List Call) : Alike (s.calls cs) (t.calls cs) := by
  induction cs generalizing s t with
  | nil => exact h
  | cons c cs ih => exact ih (h.call c)

theorem publish (h : Alike s t) : Alike s.publish t.publish := by
  have hp := h.change (fun s => { s with published := s.link.phase }) fun _ _ _ => rfl
  refine hp.noteLike ?_
  rw [h.link]
  exact .same _

theorem react (h : Alike s t) (r : Reaction) : Alike (s.react r) (t.react r) := by
  unfold Session.react
  rw [h.alive]
  split
  · exact h.calls _
  · exact h

theorem emit (h : Alike s t) (e : Event) : Alike (s.emit e) (t.emit e) := by
  have hn := h.note (.emitted e)
  unfold Session.emit
  dsimp only
  rw [hn.handlers]
  cases hr : (s.note (.emitted e)).handlers.get? e.slot with
  | none => exact hn
  | some handler =>
    dsimp only
    rw [hn.discreet.handlers _ _ hr _ _ hn.trace e, hn.same visiblePhase fun _ _ _ => rfl]
    have ht := (hn.note (.handled e (s.note (.emitted e)).visiblePhase)).react
      (handler (s.note (.emitted e)).trace e)
    split
    · exact ht.note _
    · exact ht

theorem report (h : Alike s t) (source : ErrorSource) (message : String) :
    Alike (s.report source message) (t.report source message) :=
  (h.record _).emit _

theorem release (h : Alike s t) (wire : Nat) : Alike (s.release wire) (t.release wire) :=
  (h.change (fun s => { s with net := s.net.update wire fun w => { w with held := false } }) fun _ _ _ => rfl).note _

theorem dropConnection (h : Alike s t) : Alike s.dropConnection t.dropConnection := by
  unfold Session.dropConnection
  rw [h.connection]
  cases s.connection with
  | none => exact h
  | some wire => exact (h.change (fun s => { s with connection := none }) fun _ _ _ => rfl).release wire

theorem abort (h : Alike s t) : Alike s.abort t.abort := by
  unfold Session.abort
  rw [h.connection]
  cases s.connection with
  | none => exact h
  | some wire => exact h.dropConnection.log ..

theorem transmit (h : Alike s t) (wire : Nat) (c : Control) : Alike (s.transmit wire c) (t.transmit wire c) := by
  have hn := h.change (fun s => { s with net := s.net.update wire fun w => { w with sends := w.sends + 1 } })
    fun _ _ _ => rfl
  unfold Session.transmit
  rw [h.same (fun s => (s.net.wire? wire).bind Wire.sendFault?) fun _ _ _ => rfl]
  dsimp only
  split
  · exact ((hn.note _).record _).log ..
  · exact ((hn.note _).log ..).report ..

theorem send (h : Alike s t) (c : Control) : Alike (s.send c) (t.send c) := by
  unfold Session.send
  rw [h.link, h.connection]
  split
  · cases s.connection with
    | none => exact h
    | some wire => exact h.transmit wire c
  · exact h.log ..

theorem restore (h : Alike s t) (sequel : Sequel) : Alike (s.restore sequel) (t.restore sequel) := by
  have hr := h.change (fun s => { s with activity := .restoring s.watchlist.restorePlan.controls sequel })
    fun _ _ _ => rfl
  unfold Session.restore
  dsimp only
  rw [h.watchlist] at hr ⊢
  split
  · exact hr
  · exact hr.log ..

theorem concludeAttempt (h : Alike s t) (cause : Cause) (result : Except ConnectFault Unit) :
    Alike (s.concludeAttempt cause result) (t.concludeAttempt cause result) := by
  cases cause with
  | caller id => exact h.change (fun s => { s with activity := .idle }.answer id result) fun _ _ _ => rfl
  | retry since =>
    cases result with
    | ok => exact h.change (fun s => { s with activity := .idle }) fun _ _ _ => rfl
    | error fault =>
      exact h.change (fun s => { s with activity := .idle, link := s.link.elapsed (s.elapsedSince since) })
        fun _ _ _ => rfl

theorem beforeFailure (h : Alike s t) (fault : ConnectFault) :
    Alike (s.beforeFailure fault) (t.beforeFailure fault) := by
  have hp := (h.change (fun s => { s with link := s.link.connectFailed }) fun _ _ _ => rfl).publish
  cases fault with
  | cancelled => exact hp.log ..
  | transport fault => exact (hp.log ..).report ..
  | timeout limit => exact (hp.log ..).report ..
  | notRunning => exact (hp.log ..).report ..

theorem attemptFailed (h : Alike s t) (cause : Cause) (fault : ConnectFault) :
    Alike (s.attemptFailed cause fault) (t.attemptFailed cause fault) := by
  rw [attemptFailed_eq, attemptFailed_eq]
  exact (h.beforeFailure fault).concludeAttempt cause (.error fault)

theorem attemptSucceeded (h : Alike s t) (cause : Cause) (manner : Manner) :
    Alike (s.attemptSucceeded cause manner) (t.attemptSucceeded cause manner) := by
  have hc := h.change (fun s =>
    { s with
      net := (s.net.accept manner).2, connection := some (s.net.accept manner).1
      link := s.link.connectSucceeded }) fun _ _ _ => rfl
  exact (hc.publish.log .info "Connected to Kite ticker" []).restore (.announce cause)

/-- The one place where the credentials are used: in the request that is dialled, and in what it shows. -/
theorem dial (h : Alike s t) (cause : Cause) (limit : Span) : Alike (s.dial cause limit) (t.dial cause limit) := by
  have hlike : (ConnectRequest.make s.setup.root s.credentials).Like (.make t.setup.root t.credentials) := by
    rw [h.setup]
    exact ConnectRequest.like_make ..
  have hgate (message : String) (fields : List (String × String)) :
      (t.log .info message fields).gate (.make t.setup.root t.credentials) =
        (s.log .info message fields).gate (.make s.setup.root s.credentials) := by
    change t.gate _ = s.gate _
    rw [h.gate]
    exact h.discreet.gate _ _ hlike
  have hl := h.log .info "Connecting to Kite ticker"
    [("request", (ConnectRequest.make s.setup.root s.credentials).describe)]
  unfold Session.dial
  dsimp only
  rw [hlike.describe, hl.same (fun s => s.isCancelled s.generation) fun _ _ _ => rfl]
  split
  · exact hl.attemptFailed ..
  · rw [hgate]
    split
    · exact hl.attemptFailed ..
    · have hd := hl.change (fun s =>
        { s with net := s.net.nextOutcome.2, activity := .dialing (s.nextDial cause limit) }) fun _ _ _ => rfl
      exact hd.noteLike (.dialled hlike)

theorem attempt (h : Alike s t) (cause : Cause) (limit : Span) :
    Alike (s.attempt cause limit) (t.attempt cause limit) := by
  unfold Session.attempt
  rw [h.link]
  split
  · exact (h.log ..).concludeAttempt ..
  · exact ((h.change (fun s => { s with link := _ }) fun _ _ _ => rfl).publish).dial ..

theorem announceClosed (h : Alike s t) (previous : Link.Phase) :
    Alike (s.announceClosed previous) (t.announceClosed previous) := by
  unfold Session.announceClosed
  split
  · exact h
  · exact (h.log ..).emit _

theorem hungUp (h : Alike s t) (wire : Nat) (previous : Link.Phase) :
    Alike (s.hungUp wire previous) (t.hungUp wire previous) :=
  ((h.change (fun s => { s with activity := .idle }) fun _ _ _ => rfl).release wire).announceClosed previous

theorem shut (h : Alike s t) : Alike s.shut t.shut := by
  have hp := (h.change (fun s => { s with link := s.link.close }) fun _ _ _ => rfl).publish
  unfold Session.shut
  rw [h.link] at hp ⊢
  dsimp only
  rw [hp.connection]
  split
  · exact hp.announceClosed _
  · rename_i wire _
    have hc := (hp.change (fun s => { s with connection := none }) fun _ _ _ => rfl).note (.closeFrame wire)
    rw [hc.same (fun s => ((s.net.wire? wire).map (·.manner)).getD .smooth) fun _ _ _ => rfl]
    split
    · exact hc.change (fun s => { s with activity := .hangingUp wire _ (s.now + closeTimeout) }) fun _ _ _ => rfl
    · exact (hc.log ..).hungUp ..
    · exact hc.hungUp ..

theorem connectionLost (h : Alike s t) (fault? : Option TransportFault) :
    Alike (s.connectionLost fault?) (t.connectionLost fault?) := by
  have hd := h.dropConnection
  unfold Session.connectionLost
  dsimp only
  rw [hd.same (fun s => s.link.phase) fun _ _ _ => rfl]
  split
  · exact hd
  · have hp := (hd.change (fun s => { s with link := s.link.connectionLost }) fun _ _ _ => rfl).publish
    cases fault? with
    | none => exact (hp.log ..).emit _
    | some fault => exact ((hp.log ..).report ..).emit _

theorem handleCommand (h : Alike s t) (c : Command) : Alike (s.handleCommand c) (t.handleCommand c) := by
  cases c with
  | connect caller =>
    simp only [Session.handleCommand, h.setup]
    exact h.attempt ..
  | send control => exact h.send control
  | resubscribe => exact h.restore .resume
  | enableRetry interval maxRetries =>
    exact (h.change (fun s => { s with link := s.link.enableRetry interval maxRetries }) fun _ _ _ => rfl).log ..
  | disableRetry => exact (h.change (fun s => { s with link := s.link.disableRetry }) fun _ _ _ => rfl).log ..
  | close => exact h.shut

theorem onTick (h : Alike s t) : Alike s.onTick t.onTick := by
  have hl := h.change (fun s => { s with link := s.link.tick.2 }) fun _ _ _ => rfl
  have hclosing := h.same closing fun _ _ _ => rfl
  cases hopen : s.closing with
  | true =>
    rw [Session.onTick, Session.onTick, if_pos hopen, if_pos (hclosing.trans hopen)]
    exact h
  | false =>
    have hopen' := hclosing.trans hopen
    cases hd : s.link.tick.1 with
    | nothing =>
      rw [onTick_of_nothing hopen hd, onTick_of_nothing hopen' (h.link ▸ hd)]
      exact hl
    | redial attempt backoff =>
      rw [onTick_of_redial hopen hd, onTick_of_redial hopen' (h.link ▸ hd)]
      have hr : Alike (s.retrying attempt backoff) (t.retrying attempt backoff) :=
        (((hl.log ..).record _).abort.publish).emit _
      rw [hr.same closing fun _ _ _ => rfl, h.setup, h.same now fun _ _ _ => rfl]
      split
      · exact hr
      · exact hr.attempt ..
    | giveUp =>
      rw [onTick_of_giveUp hopen hd, onTick_of_giveUp hopen' (h.link ▸ hd),
        h.same (fun s => s.link.tick.2.retry.count) fun _ _ _ => rfl]
      exact (((hl.log ..).record _).abort.publish).emit _
    | timeOut =>
      rw [onTick_of_timeOut hopen hd, onTick_of_timeOut hopen' (h.link ▸ hd)]
      exact (((hl.log ..).abort.publish).report ..).emit _

theorem logOutcome (h : Alike s t) (x : Feed.Outcome) : Alike (s.logOutcome x) (t.logOutcome x) := by
  cases x with
  | tick => exact h
  | zeroToken => exact h.note _
  | rejected => exact h.note _
  | cut => exact h.note _
  | missing => exact h

theorem foldl {α : Type} (h : Alike s t) {f : Session → α → Session}
    (hf : ∀ {s t} x, Alike s t → Alike (f s x) (f t x)) (xs : List α) : Alike (xs.foldl f s) (xs.foldl f t) := by
  induction xs generalizing s t with
  | nil => exact h
  | cons x xs ih => exact ih (hf x h)

theorem onBinary (h : Alike s t) (data : List UInt8) : Alike (s.onBinary data) (t.onBinary data) := by
  have hb := h.record (.frame .binary)
  unfold Session.onBinary
  dsimp only
  rw [hb.link]
  split
  · exact h.record _
  · split
    · exact hb
    · split
      · rename_i decoded _
        have ho := hb.foldl (fun x h => h.logOutcome x) decoded.outcomes
        refine foldl (f := deliverTick) ?_ (fun x h => (h.record _).emit _) decoded.ticks
        split
        · exact ho.record _
        · exact ho
      · exact (hb.record _).log ..

theorem onText (h : Alike s t) (text : String) : Alike (s.onText text) (t.onText text) := by
  have ht := h.record (.frame .text)
  unfold Session.onText
  dsimp only
  split
  · exact ((ht.record _).log ..).emit _
  · exact (ht.log ..).report ..
  · exact ht.log ..
  · exact (ht.log ..).report ..
  · exact ht.log ..

theorem receive (h : Alike s t) (d : Delivery) : Alike (s.receive d) (t.receive d) := by
  have hl := h.change (fun s => { s with link := s.link.dataReceived }) fun _ _ _ => rfl
  cases d with
  | binary data => exact hl.onBinary data
  | text text => exact hl.onText text
  | close => exact h.connectionLost none
  | fault fault => exact h.connectionLost (some fault)
  | ended => exact h.connectionLost none

theorem settleDial (h : Alike s t) (d : Dial) : Option.Rel Alike (s.settleDial d) (t.settleDial d) := by
  unfold Session.settleDial
  rw [h.same (fun s => s.isCancelled d.generation) fun _ _ _ => rfl, h.same now fun _ _ _ => rfl]
  split
  · exact .some (h.attemptFailed ..)
  · split
    · split
      · exact .some (h.attemptSucceeded ..)
      · exact .some (h.attemptFailed ..)
      · exact .none
    · split
      · exact .some (h.attemptFailed ..)
      · exact .none

theorem conclude (h : Alike s t) (sequel : Sequel) : Alike (s.conclude sequel) (t.conclude sequel) := by
  cases sequel with
  | resume => exact h.change (fun s => { s with activity := .idle }) fun _ _ _ => rfl
  | announce cause => exact (h.emit _).concludeAttempt ..

theorem stop (h : Alike s t) : Alike s.stop t.stop :=
  (h.change (fun s => { s with activity := .stopped }) fun _ _ _ => rfl).abort.log ..

theorem takeDelivery? (h : Alike s t) :
    Option.Rel (fun x y => y.1 = x.1 ∧ Alike x.2 y.2) s.takeDelivery? t.takeDelivery? := by
  unfold Session.takeDelivery?
  rw [h.connection, h.same net fun _ _ _ => rfl]
  split
  · exact .none
  · rename_i wire _
    split
    · rename_i rest _
      refine .some ⟨rfl, ?_⟩
      exact h.change (fun u =>
        { u with
          connection := s.connection
          net := s.net.update wire fun w => { w with inbox := rest } }) fun _ _ _ => rfl
    · exact .none

theorem renewGeneration (h : Alike s t) : Alike s.renewGeneration t.renewGeneration := by
  unfold Session.renewGeneration
  rw [h.same cancelled fun _ _ _ => rfl]
  split
  · exact h.change (fun s => { s with generation := s.generation + 1, cancelled := false }) fun _ _ _ => rfl
  · exact h

theorem launch (h : Alike s t) : Alike s.launch t.launch := by
  unfold Session.launch
  rw [h.activity]
  split
  · exact h.change (fun s => { s with activity := .idle, due := s.nanos + s.setup.beat.interval.nanos })
      fun _ _ _ => rfl
  · exact h

theorem beginConnect (h : Alike s t) (id : Nat) : Alike (s.beginConnect id) (t.beginConnect id) := by
  have hb := (h.change clearClosing fun _ _ _ => rfl).renewGeneration.launch
  have hset (state : CallerState) := hb.change (·.setCaller id state) fun _ _ _ => rfl
  unfold Session.beginConnect
  dsimp only
  rw [hb.driverStopped]
  split
  · exact hset _
  · exact (hset _).enqueue _

theorem push (h : Alike s t) (wire : Option Nat) (d : Delivery) :
    (t.push wire d).1 = (s.push wire d).1 ∧ Alike (s.push wire d).2 (t.push wire d).2 := by
  have hnet : t.net = s.net := h.same net fun _ _ _ => rfl
  unfold Session.push
  dsimp only
  rw [hnet]
  generalize wire.getD (s.net.wires.length - 1) = id
  split
  · split
    · exact ⟨rfl, h.change (fun u => { u with net := s.net.update id (·.deliver d) }) fun _ _ _ => rfl⟩
    · exact ⟨rfl, h⟩
  · exact ⟨rfl, h⟩

theorem works {task : Task} {s' : Session} (h : Alike s t) (hw : Works task s s') :
    ∃ t', Works task t t' ∧ Alike s' t' := by
  have hactivity := h.activity
  have hfails : t.timerFails = s.timerFails := h.same timerFails fun _ _ _ => rfl
  have hqueue : t.queue = s.queue := h.same queue fun _ _ _ => rfl
  have hnow : t.now = s.now := h.same now fun _ _ _ => rfl
  have halive : t.alive = s.alive := h.alive
  cases hw with
  | @command _ c rest hi hf hq =>
    refine ⟨_, .command (hactivity.trans hi) (hfails.trans hf) (hqueue.trans hq), ?_⟩
    exact (h.change (fun s => { s with queue := rest }) fun _ _ _ => rfl).handleCommand c
  | tick hi hf =>
    refine ⟨_, .tick (hactivity.trans hi) (hfails.trans hf), ?_⟩
    exact (h.change (fun s => { s with due := s.nextDue }) fun _ _ _ => rfl).onTick
  | delivery hi hf hd =>
    obtain ⟨⟨d, v⟩, hd', rfl, hv⟩ := exists_some_of_rel (h.takeDelivery?) hd
    exact ⟨_, .delivery (hactivity.trans hi) (hfails.trans hf) hd', hv.receive _⟩
  | @handshake _ _ d hd hs =>
    obtain ⟨v, hs', hv⟩ := exists_some_of_rel (h.settleDial d) hs
    exact ⟨v, .handshake (hactivity.trans hd) hs', hv⟩
  | @restore _ c rest sequel hr =>
    refine ⟨_, .restore (hactivity.trans hr), ?_⟩
    exact (h.change (fun s => { s with activity := .restoring rest sequel }) fun _ _ _ => rfl).send c
  | conclude hr => exact ⟨_, .conclude (hactivity.trans hr), h.conclude _⟩
  | hungUp hh => exact ⟨_, .hungUp (hactivity.trans hh), h.hungUp ..⟩
  | hangUpLate hh hlate => exact ⟨_, .hangUpLate (hactivity.trans hh) (hnow ▸ hlate), (h.log ..).hungUp ..⟩
  | collapse hi hf =>
    exact ⟨_, .collapse (hactivity.trans hi) (hfails.trans hf), h.change collapse fun _ _ _ => rfl⟩
  | stop hi hf hq hdead =>
    exact ⟨_, .stop (hactivity.trans hi) (hfails.trans hf) (hqueue.trans hq) (halive.trans hdead), h.stop⟩

theorem step {m : Move} {u : Session} (h : Alike s t) (hs : Step m s u) (hu : Discreet u.gate u.handlers) :
    ∃ v, Step m t v ∧ Alike u v := by
  have hcallers : t.callers = s.callers := h.same callers fun _ _ _ => rfl
  cases hs with
  | driver hw =>
    obtain ⟨v, hw', hv⟩ := h.works hw
    exact ⟨v, .driver hw', hv⟩
  | call c => exact ⟨_, .call c t, h.call c⟩
  | connect hid => exact ⟨_, .connect (hcallers ▸ hid), h.beginConnect _⟩
  | @returned _ id result hid =>
    refine ⟨_, .returned (hcallers ▸ hid), ?_⟩
    exact (h.change (fun s => { s with callers := s.callers.filter (·.1 ≠ id) }) fun _ _ _ => rfl).note _
  | @wait _ now hnow =>
    have hn : t.now = s.now := h.same Session.now fun _ _ _ => rfl
    exact ⟨_, .wait (hn ▸ hnow), h.change (fun s => { s with now }) fun _ _ _ => rfl⟩
  | push wire d => exact ⟨_, .push wire d t, (h.push wire d).2⟩
  | listen handlers =>
    refine ⟨_, .listen handlers t, ?_⟩
    cases h with
    | intro _ ht => exact .intro hu ht
  | drop => exact ⟨_, .drop t, h.change (fun s => { s with dropped := true }) fun _ _ _ => rfl⟩

theorem idleStep? (h : Alike s t) : Option.Rel Alike s.idleStep? t.idleStep? := by
  have hfails : t.timerFails = s.timerFails := h.same timerFails fun _ _ _ => rfl
  have hqueue : t.queue = s.queue := h.same queue fun _ _ _ => rfl
  have hdue : t.dueMillis ≤ t.now ↔ s.dueMillis ≤ s.now := by
    rw [h.same dueMillis fun _ _ _ => rfl, h.same now fun _ _ _ => rfl]
  unfold Session.idleStep?
  rw [hfails, hqueue, h.alive]
  split
  · exact .some (h.change collapse fun _ _ _ => rfl)
  · split
    · rename_i rest _
      exact .some ((h.change (fun s => { s with queue := rest }) fun _ _ _ => rfl).handleCommand _)
    · split
      · exact .some h.stop
      · by_cases hs : s.dueMillis ≤ s.now
        · rw [if_pos hs, if_pos (hdue.2 hs)]
          exact .some ((h.change (fun u => { u with queue := s.queue, due := u.nextDue }) fun _ _ _ => rfl).onTick)
        · rw [if_neg hs, if_neg (mt hdue.1 hs)]
          have hd := h.takeDelivery?
          generalize s.takeDelivery? = a at hd
          generalize t.takeDelivery? = b at hd
          cases hd with
          | none => exact .none
          | @some x y hxy =>
            obtain ⟨hd, hu⟩ := hxy
            simp only [Option.map_some, hd]
            exact .some (hu.receive _)

theorem driverStep? (h : Alike s t) : Option.Rel Alike s.driverStep? t.driverStep? := by
  have hnow : t.now = s.now := h.same now fun _ _ _ => rfl
  unfold Session.driverStep?
  rw [h.activity]
  split
  · exact .none
  · exact .none
  · exact h.idleStep?
  · exact h.settleDial _
  · exact .some (h.conclude _)
  · rename_i rest sequel _
    exact .some ((h.change (fun s => { s with activity := .restoring rest sequel }) fun _ _ _ => rfl).send _)
  · rw [hnow]
    split
    · exact .some ((h.log ..).hungUp ..)
    · exact .none

theorem callerStep? (h : Alike s t) : Option.Rel Alike s.callerStep? t.callerStep? := by
  have hcallers : t.callers = s.callers := h.same callers fun _ _ _ => rfl
  unfold Session.callerStep?
  rw [hcallers]
  split
  · exact .some (h.beginConnect _)
  · rename_i id _ _
    exact .some ((h.change (fun u => { u with callers := s.callers.filter (·.1 ≠ id) }) fun _ _ _ => rfl).note _)
  · exact .none

theorem step? (h : Alike s t) : Option.Rel Alike s.step? t.step? := by
  have hd := h.driverStep?
  unfold Session.step?
  generalize s.driverStep? = a at hd
  generalize t.driverStep? = b at hd
  cases hd with
  | some hu => exact .some hu
  | none => exact h.callerStep?

theorem settle (h : Alike s t) : Alike s.settle t.settle := by
  have key (fuel : Nat) {s t : Session} (h : Alike s t) : Alike (settleWithin fuel s) (settleWithin fuel t) := by
    induction fuel generalizing s t with
    | zero => exact h
    | succ fuel ih =>
      have hs := h.step?
      unfold settleWithin
      generalize s.step? = a at hs
      generalize t.step? = b at hs
      cases hs with
      | some hu => exact ih hu
      | none => exact h
  exact key patience h

theorem advance (h : Alike s t) (millis : Nat) : Alike (s.advance millis) (t.advance millis) := by
  have sleep (now : Nat) {s t : Session} (h : Alike s t) :
      Alike (Session.settle { s with now }) (Session.settle { t with now }) :=
    (h.change (fun s => { s with now }) fun _ _ _ => rfl).settle
  have key (target fuel : Nat) {s t : Session} (h : Alike s t) :
      Alike (advanceWithin target fuel s) (advanceWithin target fuel t) := by
    induction fuel generalizing s t with
    | zero => exact h
    | succ fuel ih =>
      unfold advanceWithin
      rw [h.same nextWake? fun _ _ _ => rfl, h.same now fun _ _ _ => rfl]
      split
      · split
        · exact ih (sleep _ h)
        · exact sleep _ h
      · exact sleep _ h
  unfold Session.advance
  rw [h.same now fun _ _ _ => rfl]
  exact key _ _ h

theorem perform (h : Alike s t) (stimulus : Stimulus) :
    (t.perform stimulus).1 = (s.perform stimulus).1 ∧ Alike (s.perform stimulus).2 (t.perform stimulus).2 := by
  cases stimulus with
  | call c =>
    refine ⟨rfl, ?_⟩
    unfold Session.perform
    dsimp only
    rw [h.same dropped fun _ _ _ => rfl]
    split
    · exact h.settle
    · exact (h.call c).settle
  | advance millis => exact ⟨rfl, h.advance millis⟩
  | push wire d =>
    obtain ⟨htaken, hp⟩ := h.push wire d
    exact ⟨congrArg some htaken, hp.settle⟩
  | drop => exact ⟨rfl, (h.change (fun s => { s with dropped := true }) fun _ _ _ => rfl).settle⟩

theorem performs (h : Alike s t) (stimuli : List Stimulus) : Alike (s.performs stimuli) (t.performs stimuli) :=
  h.foldl (fun x h => (h.perform x).2) stimuli

theorem run {ms : List Move} {u : Session} (h : Alike s t) (hr : DiscreetRun ms s u) :
    ∃ v, DiscreetRun ms t v ∧ Alike u v := by
  induction hr generalizing t with
  | nil => exact ⟨t, .nil t, h⟩
  | cons hs hd _ ih =>
    obtain ⟨v, hs', hv⟩ := h.step hs hd
    obtain ⟨w, hr', hw⟩ := ih hv
    refine ⟨w, .cons hs' ?_ hr', hw⟩
    rw [hv.gate, hv.handlers]
    exact hd

theorem collect {α : Type} (h : Alike s t) {f : Happening → Option α}
    (hf : ∀ r r', r.Like r' → f (.dialled r') = f (.dialled r)) : t.collect f = s.collect f := by
  have hsame {x y : Happening} (hxy : x.Like y) : f y = f x := by
    cases hxy with
    | same => rfl
    | dialled hr => exact hf _ _ hr
  have key {xs ys : List TraceEntry} (hxy : xs.Forall₂ TraceEntry.Like ys) :
      ys.filterMap (fun x => f x.happening) = xs.filterMap fun x => f x.happening := by
    induction hxy with
    | nil => rfl
    | cons hx _ ih => rw [List.filterMap_cons, List.filterMap_cons, hsame hx.happening, ih]
  simp only [Session.collect, Session.history, List.filterMap_reverse, key h.trace]

theorem view (h : Alike s t) : t.view = s.view := by
  have hshown (r r' : ConnectRequest) (hr : r.Like r') :
      Happening.shown? (.dialled r') = Happening.shown? (.dialled r) := by
    simp only [Happening.shown?, Happening.dialled?, Option.map_some, hr.describe, hr.headers]
  rw [Session.view, Session.view, h.same published fun _ _ _ => rfl, Session.events, Session.events,
    h.collect fun _ _ _ => rfl, h.collect fun _ _ _ => rfl, h.collect fun _ _ _ => rfl, h.collect hshown]

end Alike

theorem alike_start (setup : Setup) (c d : Credentials) {handlers : Handlers Handler} (net : Net)
    {gate : ConnectRequest → Option TransportFault} (h : Discreet gate handlers) :
    Alike (start setup c handlers net gate) (start setup d handlers net gate) :=
  .intro (s := start setup c handlers net gate) h .nil

/-- Whatever is asked of a session, and however its driver and its callers take turns, other credentials would
have shown the same. -/
theorem credentials_never_shown (setup : Setup) (c d : Credentials) {handlers : Handlers Handler} (net : Net)
    {gate : ConnectRequest → Option TransportFault} (h : Discreet gate handlers) :
    (∀ stimuli, ((start setup d handlers net gate).performs stimuli).view =
        ((start setup c handlers net gate).performs stimuli).view) ∧
      ∀ ms s, DiscreetRun ms (start setup c handlers net gate) s →
        ∃ t, DiscreetRun ms (start setup d handlers net gate) t ∧ Alike s t ∧ t.view = s.view := by
  have hstart := alike_start setup c d net h
  refine ⟨fun stimuli => (hstart.performs stimuli).view, fun ms s hr => ?_⟩
  obtain ⟨t, hr', ht⟩ := hstart.run hr
  exact ⟨t, hr', ht, ht.view⟩

/-- The root has a query of its own, and a handler subscribes as soon as there is a connection. -/
def queryInRoot (c : Credentials) : Session :=
  (start { Setup.standard with root := "wss://example.org/?v=3" } c
    (Handlers.none.set .connect (⟨[.subscribe [7]], false⟩ : Reaction) : Handlers Reaction)
    (.start [] ⟨.accept .smooth, 0⟩) fun _ => none).performs [.call .connect]

theorem credentials_never_shown_of_query :
    (queryInRoot ⟨"mine", "secret"⟩).collect Happening.dialled? ≠
        (queryInRoot ⟨"yours", "hidden"⟩).collect Happening.dialled? ∧
      (queryInRoot ⟨"mine", "secret"⟩).collect Happening.sent? = [(0, .subscribe [7])] ∧
      (queryInRoot ⟨"yours", "hidden"⟩).view = (queryInRoot ⟨"mine", "secret"⟩).view := by
  have hmine : (queryInRoot ⟨"mine", "secret"⟩).collect Happening.dialled? =
      [.make "wss://example.org/?v=3" ⟨"mine", "secret"⟩] := rfl
  have hyours : (queryInRoot ⟨"yours", "hidden"⟩).collect Happening.dialled? =
      [.make "wss://example.org/?v=3" ⟨"yours", "hidden"⟩] := rfl
  refine ⟨?_, rfl, ?_⟩
  · rw [hmine, hyours]
    simp [ConnectRequest.make]
  · exact (credentials_never_shown _ ⟨"mine", "secret"⟩ ⟨"yours", "hidden"⟩ _ (discreet_steady _ none)).1 _

end Session

end MarketTicker
