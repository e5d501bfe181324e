import MarketTicker.Liveness.Link
import MarketTicker.Session.Event
import MarketTicker.Session.Log
import MarketTicker.Session.Metric
import MarketTicker.Session.Net

namespace MarketTicker

structure Setup where
  root : String
  rule : RetryRule
  beat : Beat
  connectTimeout : Span
  deriving DecidableEq

namespace Setup

def standard : Setup :=
  ⟨ConnectRequest.defaultRoot, .off, .everySecond, .ofSeconds 30⟩

end Setup

inductive Call where
  | connect
  | close
  | subscribe (tokens : List Token)
  | unsubscribe (tokens : List Token)
  | setMode (tokens : List Token) (mode : Mode)
  | resubscribe
  | enableRetry (interval : Span) (maxRetries : Nat)
  | disableRetry
  deriving DecidableEq

/-- What a handler does: the calls it makes, and whether it breaks off in the end. -/
structure Reaction where
  calls : List Call
  panics : Bool
  deriving DecidableEq

inductive Command where
  | connect (caller : Nat)
  | send (control : Control)
  | resubscribe
  | enableRetry (interval : Span) (maxRetries : Nat)
  | disableRetry
  | close
  deriving DecidableEq

inductive CallerState where
  | ready
  | waiting
  | answered (result : Except ConnectFault Unit)

inductive Cause where
  | caller (id : Nat)
  | retry (since : Nat)
  deriving DecidableEq

/-- A handshake that is under way. Times are in milliseconds. -/
structure Dial where
  cause : Cause
  generation : Nat
  answer : Answer
  arrival : Nat
  limit : Span
  deadline : Nat
  deriving DecidableEq

inductive Sequel where
  | resume
  | announce (cause : Cause)
  deriving DecidableEq

inductive Activity where
  | unstarted
  | idle
  | dialing (dial : Dial)
  | restoring (rest : List Control) (sequel : Sequel)
  | hangingUp (wire : Nat) (previous : Link.Phase) (deadline : Nat)
  | stopped
  deriving DecidableEq

inductive Happening where
  | dialled (request : ConnectRequest)
  | sent (wire : Nat) (control : Control)
  | sendFailed (wire : Nat) (control : Control)
  | closeFrame (wire : Nat)
  | released (wire : Nat)
  | handled (event : Event) (phase : Option Link.Phase)
  | emitted (event : Event)
  | returned (caller : Nat) (result : Except ConnectFault Unit)
  | logged (record : LogRecord)
  | recorded (recording : Recording)

structure TraceEntry where
  time : Nat
  happening : Happening

/-- A handler may react otherwise each time, to what it is told and to what happened so far. -/
abbrev Handler :=
  List TraceEntry → Event → Reaction

instance : Coe (Handlers Reaction) (Handlers Handler) :=
  ⟨fun hs => ⟨fun slot => (hs.get? slot).map fun r _ _ => r⟩⟩

/-- A whole session: what callers share with the driver, the driver, the far side, and what happened so
far, latest first. -/
structure Session where
  setup : Setup
  credentials : Credentials
  /-- Says at once what becomes of a handshake that needs no network. -/
  gate : ConnectRequest → Option TransportFault
  handlers : Handlers Handler
  now : Nat
  watchlist : Watchlist
  published : Link.Phase
  closing : Bool
  generation : Nat
  cancelled : Bool
  dropped : Bool
  queue : List Command
  callers : List (Nat × CallerState)
  callerCount : Nat
  link : Link
  connection : Option Nat
  activity : Activity
  /-- When the countdown ticks next, in nanoseconds. -/
  due : Nat
  net : Net
  trace : List TraceEntry

namespace Session

def start (setup : Setup) (credentials : Credentials) (handlers : Handlers Handler) (net : Net)
    (gate : ConnectRequest → Option TransportFault) : Session where
  setup := setup
  credentials := credentials
  gate := gate
  handlers := handlers
  now := 0
  watchlist := .empty
  published := .disconnected
  closing := false
  generation := 0
  cancelled := false
  dropped := false
  queue := []
  callers := []
  callerCount := 0
  link := .start setup.rule setup.beat
  connection := none
  activity := .unstarted
  due := 0
  net := net
  trace := []

def note (s : Session) (h : Happening) : Session :=
  { s with trace := ⟨s.now, h⟩ :: s.trace }

def log (s : Session) (level : LogLevel) (message : String) (fields : List (String × String)) : Session :=
  s.note (.logged ⟨.session, level, message, fields⟩)

def record (s : Session) (r : Recording) : Session :=
  s.note (.recorded r)

def history (s : Session) : List TraceEntry :=
  s.trace.reverse

def recordings (s : Session) : List Recording :=
  s.history.filterMap fun e => match e.happening with
    | .recorded r => some r
    | _ => none

def samples (s : Session) : Samples :=
  .ofRecordings s.recordings

/-- A caller that waits keeps the session alive after it was dropped. -/
def alive (s : Session) : Bool :=
  !s.dropped || !s.callers.isEmpty

def describePhase : Link.Phase → String
  | .disconnected => "Disconnected"
  | .connecting => "Connecting"
  | .connected => "Connected"
  | .closing => "Closing"

def describe (s : Session) : String :=
  "Ticker \x7b state: " ++ describePhase s.published ++ ", subscriptions: " ++
    String.ofList (Text.numeral s.watchlist.size) ++ ", .. \x7d"

end Session

end MarketTicker
