import MarketTicker.Liveness.Countdown
import MarketTicker.Liveness.Retry

namespace MarketTicker

namespace Link

inductive Phase where
  | disconnected
  | connecting
  | connected
  | closing
  deriving DecidableEq, Repr, Inhabited

def Phase.name : Phase → String
  | .disconnected => "disconnected"
  | .connecting => "connecting"
  | .connected => "connected"
  | .closing => "closing"

inductive Demand where
  | nothing
  | redial (attempt : Nat) (backoff : Span)
  | giveUp
  | timeOut
  deriving DecidableEq

end Link

structure Link where
  phase : Link.Phase
  countdown : Countdown
  beat : Beat
  retry : Retry
  deriving DecidableEq, Inhabited

namespace Link

def start (rule : RetryRule) (beat : Beat) : Link :=
  ⟨.disconnected, .idle (beat.ticksFor rule.interval), beat, .start rule⟩

def connected (l : Link) : Bool :=
  l.phase = .connected

def retryEnabled (l : Link) : Bool :=
  l.retry.rule.enabled

def window (l : Link) : Int :=
  l.beat.ticksFor l.retry.rule.interval

/-- `none` while a connection is being made or held. -/
def beginConnect? (l : Link) : Option Link :=
  match l.phase with
  | .disconnected | .closing => some { l with phase := .connecting }
  | .connecting | .connected => none

def connectSucceeded (l : Link) : Link :=
  { l with phase := .connected, retry := l.retry.reset, countdown := .start l.window }

/-- Keeps a running countdown, starts a stopped one, and stops it where nobody dials again. -/
def armForRetry (l : Link) : Link :=
  if l.phase = .closing then l
  else if l.retryEnabled then
    if l.countdown.running then l else { l with countdown := .start l.window }
  else { l with countdown := l.countdown.stop }

def connectFailed (l : Link) : Link :=
  armForRetry (if l.phase = .connecting then { l with phase := .disconnected } else l)

def dataReceived (l : Link) : Link :=
  { l with countdown := l.countdown.seed l.window }

def connectionLost (l : Link) : Link :=
  armForRetry (if l.phase = .connected ∨ l.phase = .connecting then { l with phase := .disconnected } else l)

def elapsed (l : Link) (span : Span) : Link :=
  if l.phase = .closing then l else { l with countdown := l.countdown.advance (l.beat.ticksIn span) }

def expired (l : Link) : Demand × Link :=
  let l := { l with phase := .disconnected }
  if !l.retryEnabled then (.timeOut, l)
  else
    match l.retry.next with
    | (some grant, retry) =>
      (.redial grant.number grant.delay, { l with retry, countdown := .start (l.beat.ticksFor grant.delay) })
    | (none, retry) => (.giveUp, { l with retry := retry.disable, countdown := l.countdown.stop })

def tick (l : Link) : Demand × Link :=
  if l.phase = .closing then (.nothing, { l with countdown := l.countdown.stop })
  else
    match l.countdown.tick with
    | (.expired, countdown) => expired { l with countdown }
    | (_, countdown) => (.nothing, { l with countdown })

def close (l : Link) : Link :=
  { l with countdown := l.countdown.stop, phase := .closing }

def enableRetry (l : Link) (interval : Span) (maxRetries : Nat) : Link :=
  let l := { l with retry := l.retry.enable interval maxRetries }
  if l.connected then { l with countdown := .start l.window }
  else { l with countdown := l.countdown.seed l.window }

def disableRetry (l : Link) : Link :=
  let l := { l with retry := l.retry.disable, countdown := l.countdown.stop }
  { l with countdown := l.countdown.seed l.window }

end Link

end MarketTicker
