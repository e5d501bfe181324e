import MarketTicker.Session.State

namespace MarketTicker.Session

def countText (n : Nat) : String :=
  String.ofList (Text.numeral n)

def driverStopped (s : Session) : Bool :=
  s.activity = .stopped

def enqueue (s : Session) (c : Command) : Session :=
  if s.driverStopped then s.log .debug "Ticker driver stopped, dropping command" []
  else { s with queue := s.queue ++ [c] }

/-- Before the driver starts, only the watchlist counts. -/
def enqueueOnWire (s : Session) (c : Command) : Session :=
  if s.activity = .unstarted then s else s.enqueue c

def recordWatchlist (s : Session) (w : Watchlist) : Session :=
  { s with watchlist := w }.record (.subscriptions w.size)

def noteSubscribe (s : Session) (tokens : List Token) : Session :=
  let (added, w) := s.watchlist.subscribe tokens
  (s.recordWatchlist w).log .debug "Subscribing instruments"
    [("requested", countText tokens.length), ("added", countText added.length)]

def noteUnsubscribe (s : Session) (tokens : List Token) : Session :=
  let (removed, w) := s.watchlist.unsubscribe tokens
  (s.recordWatchlist w).log .debug "Unsubscribing instruments"
    [("requested", countText tokens.length), ("removed", countText removed.length)]

def noteSetMode (s : Session) (tokens : List Token) (mode : Mode) : Session × Option Control :=
  let (updated, w) := s.watchlist.setMode mode tokens
  if updated = [] then
    (s.log .debug "Mode change for unsubscribed instruments ignored" [("mode", mode.name)], none)
  else
    ({ s with watchlist := w }.log .debug "Changing instrument mode"
      [("mode", mode.name), ("updated", countText updated.length)], some (.mode mode updated))

def subscribe (s : Session) (tokens : List Token) : Session :=
  if tokens = [] then s else (s.noteSubscribe tokens).enqueueOnWire (.send (.subscribe tokens))

def unsubscribe (s : Session) (tokens : List Token) : Session :=
  if tokens = [] then s else (s.noteUnsubscribe tokens).enqueueOnWire (.send (.unsubscribe tokens))

def setMode (s : Session) (tokens : List Token) (mode : Mode) : Session :=
  if tokens = [] then s
  else match s.noteSetMode tokens mode with
    | (s, none) => s
    | (s, some control) => s.enqueueOnWire (.send control)

def resubscribe (s : Session) : Session :=
  s.enqueueOnWire .resubscribe

def raiseClosing (s : Session) : Session :=
  { s with closing := true }

def cancel (s : Session) : Session :=
  { s with cancelled := true }

def close (s : Session) : Session :=
  s.raiseClosing.cancel.enqueue .close

def setCaller (s : Session) (id : Nat) (state : CallerState) : Session :=
  { s with callers := s.callers.map fun c => if c.1 = id then (id, state) else c }

def clearClosing (s : Session) : Session :=
  { s with closing := false }

/-- A handshake under way keeps watching the generation that it began with. -/
def renewGeneration (s : Session) : Session :=
  if s.cancelled then { s with generation := s.generation + 1, cancelled := false } else s

def isCancelled (s : Session) (generation : Nat) : Bool :=
  generation < s.generation || s.cancelled

def nanos (s : Session) : Nat :=
  s.now * 1000000

def launch (s : Session) : Session :=
  if s.activity = .unstarted then
    { s with activity := .idle, due := s.nanos + s.setup.beat.interval.nanos }
  else s

def requestConnect (s : Session) : Session :=
  { s with callers := s.callers ++ [(s.callerCount + 1, .ready)], callerCount := s.callerCount + 1 }

def beginConnect (s : Session) (id : Nat) : Session :=
  let s := s.clearClosing.renewGeneration.launch
  if s.driverStopped then s.setCaller id (.answered (.error .notRunning))
  else (s.setCaller id .waiting).enqueue (.connect id)

/-- A call as a whole; one to connect has only been asked for. -/
def call (s : Session) : Call → Session
  | .connect => s.requestConnect
  | .close => s.close
  | .subscribe tokens => s.subscribe tokens
  | .unsubscribe tokens => s.unsubscribe tokens
  | .setMode tokens mode => s.setMode tokens mode
  | .resubscribe => s.resubscribe
  | .enableRetry interval maxRetries => s.enqueue (.enableRetry interval maxRetries)
  | .disableRetry => s.enqueue .disableRetry

def calls (s : Session) (cs : List Call) : Session :=
  cs.foldl call s

end MarketTicker.Session
