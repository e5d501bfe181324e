import MarketTicker.Session.Clock

namespace MarketTicker.Session

inductive Stimulus where
  | call (call : Call)
  | advance (millis : Nat)
  | push (wire : Option Nat) (delivery : Delivery)
  | drop
  deriving DecidableEq

def push (s : Session) (wire : Option Nat) (d : Delivery) : Bool × Session :=
  let id := wire.getD (s.net.wires.length - 1)
  match s.net.wire? id with
  | some w => if w.accepts d then (true, { s with net := s.net.update id (·.deliver d) }) else (false, s)
  | none => (false, s)

def perform (s : Session) : Stimulus → Option Bool × Session
  | .call c => (none, (if s.dropped then s else s.call c).settle)
  | .advance millis => (none, s.advance millis)
  | .push wire d =>
    let (taken, s) := s.push wire d
    (some taken, s.settle)
  | .drop => (none, { s with dropped := true }.settle)

def since (s earlier : Session) : List TraceEntry :=
  (s.trace.take (s.trace.length - earlier.trace.length)).reverse

end MarketTicker.Session
