import MarketTicker.Session.Transport

namespace MarketTicker

inductive CloseManner where
  | answers
  | fails
  | hangs
  deriving DecidableEq, Repr

/-- What a connection does with what is sent on it, told by the number of the send. The first ones end as listed,
which can be anything (`exists_sendFault?_eq`); of those after them all fail from number `failFrom` on. -/
structure Manner where
  failFrom : Option Nat
  sendFault : TransportFault
  close : CloseManner
  listed : List (Option TransportFault) := []
  deriving DecidableEq, Repr

namespace Manner

def smooth : Manner :=
  ⟨none, .closed, .answers, []⟩

def sendFault? (m : Manner) (n : Nat) : Option TransportFault :=
  match m.listed[n]? with
  | some fault? => fault?
  | none =>
    match m.failFrom with
    | none => none
    | some first => if first ≤ n then some m.sendFault else none

theorem exists_sendFault?_eq (f : Nat → Option TransportFault) (count : Nat) (close : CloseManner) :
    ∃ m : Manner, m.close = close ∧ ∀ n < count, m.sendFault? n = f n := by
  refine ⟨⟨none, .closed, close, (List.range count).map f⟩, rfl, fun n hn => ?_⟩
  simp [sendFault?, hn]

end Manner

inductive Answer where
  | accept (manner : Manner)
  | refuse (fault : TransportFault)
  | hang
  deriving DecidableEq, Repr

structure Outcome where
  answer : Answer
  delay : Nat
  deriving DecidableEq, Repr

inductive Delivery where
  | binary (data : List UInt8)
  | text (text : String)
  | close
  | fault (fault : TransportFault)
  | ended
  deriving DecidableEq, Repr

structure Wire where
  manner : Manner
  sends : Nat
  inbox : List Delivery
  ended : Bool
  held : Bool
  deriving DecidableEq, Repr

namespace Wire

def fresh (manner : Manner) : Wire :=
  ⟨manner, 0, [], false, true⟩

def sendFault? (w : Wire) : Option TransportFault :=
  w.manner.sendFault? w.sends

def deliver (w : Wire) (d : Delivery) : Wire :=
  { w with inbox := w.inbox ++ [d], ended := w.ended || d = .ended }

/-- The end can be declared once even where nobody listens any more. -/
def accepts (w : Wire) (d : Delivery) : Bool :=
  !w.ended && (w.held || d = .ended)

end Wire

/-- The far side: outcomes of handshakes to come, and the connections made, oldest first. -/
structure Net where
  script : List Outcome
  fallback : Outcome
  attempts : Nat
  wires : List Wire
  deriving DecidableEq

namespace Net

def start (script : List Outcome) (fallback : Outcome) : Net :=
  ⟨script, fallback, 0, []⟩

def nextOutcome (n : Net) : Outcome × Net :=
  match n.script with
  | [] => (n.fallback, { n with attempts := n.attempts + 1 })
  | o :: rest => (o, { n with script := rest, attempts := n.attempts + 1 })

def accept (n : Net) (manner : Manner) : Nat × Net :=
  (n.wires.length, { n with wires := n.wires ++ [.fresh manner] })

def wire? (n : Net) (id : Nat) : Option Wire :=
  n.wires[id]?

def update (n : Net) (id : Nat) (f : Wire → Wire) : Net :=
  { n with wires := n.wires.modify id f }

end Net

end MarketTicker
