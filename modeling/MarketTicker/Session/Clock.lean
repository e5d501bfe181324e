import MarketTicker.Session.Driver

namespace MarketTicker.Session

def dueMillis (s : Session) : Nat :=
  (s.due + 999999) / 1000000

/-- A tick that comes more than five milliseconds late puts off the ones after it. -/
def nextDue (s : Session) : Nat :=
  if s.due + 5000000 < s.nanos then s.nanos + s.setup.beat.interval.nanos
  else s.due + s.setup.beat.interval.nanos

def takeDelivery? (s : Session) : Option (Delivery × Session) :=
  match s.connection with
  | none => none
  | some id =>
    match (s.net.wire? id).map (·.inbox) with
    | some (d :: rest) => some (d, { s with net := s.net.update id fun w => { w with inbox := rest } })
    | _ => none

def collapse (s : Session) : Session :=
  let abandon (c : Nat × CallerState) : Nat × CallerState :=
    match c.2 with
    | .waiting => (c.1, .answered (.error .notRunning))
    | _ => c
  { s with activity := .stopped, queue := [], callers := s.callers.map abandon }

def stop (s : Session) : Session :=
  ({ s with activity := .stopped }.abort).log .debug "Ticker driver stopped" []

/-- A timer needs some time between its ticks, and a second tick that the clock can still show. -/
def timerFails (s : Session) : Bool :=
  s.setup.beat.interval.nanos = 0 || decide (0x7FFFFFFFFFFFFFFF ≤ s.setup.beat.interval.seconds)

/-- Commands go first, then a tick that is due, then what the connection delivers. -/
def idleStep? (s : Session) : Option Session :=
  if s.timerFails then some s.collapse
  else match s.queue with
    | c :: rest => some ({ s with queue := rest }.handleCommand c)
    | [] =>
      if !s.alive then some s.stop
      else if s.dueMillis ≤ s.now then some ({ s with due := s.nextDue }.onTick)
      else s.takeDelivery?.map fun (d, s) => s.receive d

def conclude (s : Session) : Sequel → Session
  | .resume => { s with activity := .idle }
  | .announce cause => (s.emit .connected).concludeAttempt cause (.ok ())

def driverStep? (s : Session) : Option Session :=
  match s.activity with
  | .unstarted => none
  | .stopped => none
  | .idle => s.idleStep?
  | .dialing dial => s.settleDial dial
  | .restoring [] sequel => some (s.conclude sequel)
  | .restoring (c :: rest) sequel => some ({ s with activity := .restoring rest sequel }.send c)
  | .hangingUp wire previous deadline =>
    if deadline ≤ s.now then
      some ((s.log .debug "Ticker close handshake timed out" []).hungUp wire previous)
    else none

/-- The first caller that can go on: one that has not begun, or one that has its answer. -/
def callerStep? (s : Session) : Option Session :=
  match s.callers.find? fun c => match c.2 with
    | .waiting => false
    | _ => true with
  | some (id, .ready) => some (s.beginConnect id)
  | some (id, .answered result) =>
    some ({ s with callers := s.callers.filter (·.1 ≠ id) }.note (.returned id result))
  | _ => none

/-- Callers wait until the driver has nothing left to do. -/
def step? (s : Session) : Option Session :=
  match s.driverStep? with
  | some s => some s
  | none => s.callerStep?

def settleWithin : Nat → Session → Session
  | 0, s => s
  | fuel + 1, s =>
    match s.step? with
    | some s => settleWithin fuel s
    | none => s

/-- Steps at one instant; only handlers that keep calling one another could need more. -/
def patience : Nat :=
  1000000

def settle (s : Session) : Session :=
  settleWithin patience s

def nextWake? (s : Session) : Option Nat :=
  match s.activity with
  | .idle => some s.dueMillis
  | .dialing dial => some (if dial.answer = .hang then dial.deadline else min dial.arrival dial.deadline)
  | .hangingUp _ _ deadline => some deadline
  | _ => none

def advanceWithin (target : Nat) : Nat → Session → Session
  | 0, s => s
  | fuel + 1, s =>
    match s.nextWake? with
    | some t =>
      if s.now < t ∧ t ≤ target then advanceWithin target fuel (settle { s with now := t })
      else settle { s with now := target }
    | none => settle { s with now := target }

/-- Lets time pass, from one thing that is due to the next; at most one instant each millisecond. -/
def advance (s : Session) (millis : Nat) : Session :=
  advanceWithin (s.now + millis) (millis + 1) s

end MarketTicker.Session
