import MarketTicker.Feed.Frame
import MarketTicker.Message.Control
import MarketTicker.Message.Envelope
import MarketTicker.Session.Calls

namespace MarketTicker.Session

def publish (s : Session) : Session :=
  { s with published := s.link.phase }.record (.connected s.link.connected)

def visiblePhase (s : Session) : Option Link.Phase :=
  if s.alive then some s.published else none

def react (s : Session) (r : Reaction) : Session :=
  if s.alive then s.calls r.calls else s

/-- An event goes to the handler in its slot; one that breaks off harms nobody else. -/
def emit (s : Session) (e : Event) : Session :=
  let s := s.note (.emitted e)
  match s.handlers.get? e.slot with
  | none => s
  | some handler =>
    let r := handler s.trace e
    let s := (s.note (.handled e s.visiblePhase)).react r
    if r.panics then
      s.note (.logged ⟨.handlers, .error, "Ticker callback panicked", [("event", e.kind)]⟩)
    else s

def report (s : Session) (source : ErrorSource) (message : String) : Session :=
  (s.record (.error source)).emit (.error message)

def release (s : Session) (wire : Nat) : Session :=
  { s with net := s.net.update wire fun w => { w with held := false } }.note (.released wire)

def dropConnection (s : Session) : Session :=
  match s.connection with
  | none => s
  | some wire => { s with connection := none }.release wire

def abort (s : Session) : Session :=
  match s.connection with
  | none => s
  | some _ => s.dropConnection.log .debug "Aborted ticker connection" []

def transmit (s : Session) (wire : Nat) (c : Control) : Session :=
  let fault? := (s.net.wire? wire).bind Wire.sendFault?
  let s := { s with net := s.net.update wire fun w => { w with sends := w.sends + 1 } }
  match fault? with
  | none =>
    ((s.note (.sent wire c)).record (.controlMessage c.action)).log .debug "Sent ticker control message"
      [("action", c.action.name), ("tokens", countText c.tokens.length)]
  | some fault =>
    ((s.note (.sendFailed wire c)).log .warn "Failed to send control message"
      [("error", fault.message), ("action", c.action.name)]).report .send fault.message

def send (s : Session) (c : Control) : Session :=
  if s.link.connected then
    match s.connection with
    | none => s
    | some wire => s.transmit wire c
  else s.log .trace "Not connected, control message deferred" [("action", c.action.name)]

def restore (s : Session) (sequel : Sequel) : Session :=
  let plan := s.watchlist.restorePlan
  let s := { s with activity := .restoring plan.controls sequel }
  if plan.isEmpty then s
  else s.log .info "Restoring ticker subscriptions"
    [("tokens", countText plan.tokens.length), ("mode_groups", countText plan.groups.length)]

def answer (s : Session) (caller : Nat) (result : Except ConnectFault Unit) : Session :=
  s.setCaller caller (.answered result)

def elapsedSince (s : Session) (since : Nat) : Span :=
  (Span.ofNanos? ((s.now - since) * 1000000)).getD (.ofSeconds 0xFFFFFFFFFFFFFFFF)

/-- The end of an attempt: a caller gets its answer, and time spent on a failed retry is charged. -/
def concludeAttempt (s : Session) (cause : Cause) (result : Except ConnectFault Unit) : Session :=
  let s := { s with activity := .idle }
  match cause, result with
  | .caller id, result => s.answer id result
  | .retry _, .ok () => s
  | .retry since, .error _ => { s with link := s.link.elapsed (s.elapsedSince since) }

def attemptFailed (s : Session) (cause : Cause) (fault : ConnectFault) : Session :=
  let s := { s with link := s.link.connectFailed }.publish
  let s := match fault with
    | .cancelled => s.log .info "Ticker connect cancelled" []
    | fault =>
      (s.log .warn "Ticker connection failed" [("error", fault.message)]).report .connect fault.message
  s.concludeAttempt cause (.error fault)

def attemptSucceeded (s : Session) (cause : Cause) (manner : Manner) : Session :=
  let (wire, net) := s.net.accept manner
  let s := { s with net, connection := some wire, link := s.link.connectSucceeded }.publish
  (s.log .info "Connected to Kite ticker" []).restore (.announce cause)

def deadlineAfter (s : Session) (limit : Span) : Nat :=
  (s.nanos + limit.nanos + 999999) / 1000000

def dial (s : Session) (cause : Cause) (limit : Span) : Session :=
  let request := ConnectRequest.make s.setup.root s.credentials
  let s := s.log .info "Connecting to Kite ticker" [("request", request.describe)]
  if s.isCancelled s.generation then s.attemptFailed cause .cancelled
  else match s.gate request with
    | some fault => s.attemptFailed cause (.transport fault)
    | none =>
      let (outcome, net) := s.net.nextOutcome
      let s := { s with net }.note (.dialled request)
      let dial : Dial :=
        { cause, generation := s.generation, answer := outcome.answer, arrival := s.now + outcome.delay
          limit, deadline := s.deadlineAfter limit }
      { s with activity := .dialing dial }

def attempt (s : Session) (cause : Cause) (limit : Span) : Session :=
  match s.link.beginConnect? with
  | none =>
    (s.log .debug "Ticker already connecting" [("state", s.link.phase.name)]).concludeAttempt cause (.ok ())
  | some link => ({ s with link }.publish).dial cause limit

/-- The end of a handshake as far as it can be told now; an answer counts before the deadline, and a
cancellation before both. -/
def settleDial (s : Session) (d : Dial) : Option Session :=
  if s.isCancelled d.generation then some (s.attemptFailed d.cause .cancelled)
  else if d.arrival ≤ s.now ∧ d.answer ≠ .hang then
    match d.answer with
    | .accept manner => some (s.attemptSucceeded d.cause manner)
    | .refuse fault => some (s.attemptFailed d.cause (.transport fault))
    | .hang => none
  else if d.deadline ≤ s.now then some (s.attemptFailed d.cause (.timeout d.limit))
  else none

def announceClosed (s : Session) (previous : Link.Phase) : Session :=
  if previous = .closing then s else (s.log .info "Ticker connection closed" []).emit .closed

/-- The connection is released when its close handshake is over, however that ends. -/
def hungUp (s : Session) (wire : Nat) (previous : Link.Phase) : Session :=
  ({ s with activity := .idle }.release wire).announceClosed previous

def closeTimeout : Nat :=
  5000

def shut (s : Session) : Session :=
  let previous := s.link.phase
  let s := { s with link := s.link.close }.publish
  match s.connection with
  | none => s.announceClosed previous
  | some wire =>
    let s := { s with connection := none }.note (.closeFrame wire)
    match ((s.net.wire? wire).map (·.manner)).getD .smooth with
    | ⟨_, _, .hangs, _⟩ => { s with activity := .hangingUp wire previous (s.now + closeTimeout) }
    | ⟨_, fault, .fails, _⟩ =>
      (s.log .debug "Ticker close handshake failed" [("error", fault.message)]).hungUp wire previous
    | ⟨_, _, .answers, _⟩ => s.hungUp wire previous

def connectionLost (s : Session) (fault? : Option TransportFault) : Session :=
  let s := s.dropConnection
  if s.link.phase = .closing then s
  else
    let s := { s with link := s.link.connectionLost }.publish
    let s := match fault? with
      | some fault => (s.log .warn "Lost ticker connection" [("error", fault.message)]).report .receive fault.message
      | none => s.log .info "Ticker connection closed by server" []
    s.emit .closed

def handleCommand (s : Session) : Command → Session
  | .connect caller => s.attempt (.caller caller) s.setup.connectTimeout
  | .send control => s.send control
  | .resubscribe => s.restore .resume
  | .enableRetry interval maxRetries =>
    { s with link := s.link.enableRetry interval maxRetries }.log .info "Ticker auto-reconnect enabled"
      [("interval_secs", countText interval.seconds), ("max_retries", countText maxRetries)]
  | .disableRetry =>
    { s with link := s.link.disableRetry }.log .info "Ticker auto-reconnect disabled" []
  | .close => s.shut

/-- A tick of the countdown, which counts for nothing once closing has been asked for. -/
def onTick (s : Session) : Session :=
  if s.closing then s
  else
    let (demand, link) := s.link.tick
    let s := { s with link }
    match demand with
    | .nothing => s
    | .redial attempt backoff =>
      let s := s.log .warn "Ticker watchdog expired, reconnecting"
        [("attempt", countText attempt), ("backoff_secs", countText backoff.seconds)]
      let s := ((s.record .reconnect).abort.publish).emit (.reconnecting attempt)
      if s.closing then s else s.attempt (.retry s.now) (s.setup.connectTimeout.shorter backoff)
    | .giveUp =>
      let s := s.log .error "Ticker reconnect attempts exhausted" [("retries", countText s.link.retry.count)]
      ((s.record .reconnectsExhausted).abort.publish).emit .exhausted
    | .timeOut =>
      let s := (s.log .warn "Ticker watchdog expired, auto-reconnect disabled" []).abort.publish
      (s.report .timeout "ticker connection timed out: no data received").emit .closed

def logOutcome (s : Session) : Feed.Outcome → Session
  | .tick _ => s
  | .zeroToken => s.note (.logged ⟨.feed, .trace, "Dropping tick with zero instrument token", []⟩)
  | .rejected fault => s.note (.logged ⟨.feed, .trace, "Skipping tick packet", [("error", fault.message)]⟩)
  | .cut length available =>
    s.note (.logged ⟨.feed, .trace, "Truncated tick packet",
      [("len", countText length), ("available", countText available)]⟩)
  | .missing => s

def deliverTick (s : Session) (t : Tick) : Session :=
  (s.record (.tick t.mode)).emit (.tick t)

def onBinary (s : Session) (data : List UInt8) : Session :=
  if Feed.Frame.isHeartbeat data then s.record (.frame .heartbeat)
  else
    let s := s.record (.frame .binary)
    if !s.link.connected then s
    else match Feed.Frame.decode data with
      | .ok decoded =>
        let s := decoded.outcomes.foldl logOutcome s
        let s := if 0 < decoded.skipped then s.record (.packetsSkipped decoded.skipped) else s
        decoded.ticks.foldl deliverTick s
      | .error fault =>
        (s.record (.packetsSkipped 1)).log .trace "Dropping undecodable frame"
          [("error", fault.message), ("len", countText data.length)]

def onText (s : Session) (text : String) : Session :=
  let s := s.record (.frame .text)
  match ServerMessage.read text with
  | .ok (.order order) =>
    ((s.record .orderUpdate).log .debug "Order update"
      [("order_id", order.orderId), ("status", order.status)]).emit (.order order)
  | .ok (.error message) =>
    (s.log .warn "Ticker server error" [("message", message)]).report .server message
  | .ok (.other kind) => s.log .debug "Ignoring ticker message" [("kind", kind)]
  | .error (.invalidOrder fault) =>
    (s.log .warn "Undecodable order update" [("error", fault.message)]).report .decode
      (ServerMessage.Refusal.message (.invalidOrder fault))
  | .error refusal => s.log .debug "Ignoring malformed text frame" [("error", refusal.message)]

def receive (s : Session) : Delivery → Session
  | .binary data => { s with link := s.link.dataReceived }.onBinary data
  | .text text => { s with link := s.link.dataReceived }.onText text
  | .close => s.connectionLost none
  | .ended => s.connectionLost none
  | .fault fault => s.connectionLost (some fault)

end MarketTicker.Session
