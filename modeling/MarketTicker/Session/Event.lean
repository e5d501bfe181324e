import MarketTicker.Market.Order
import MarketTicker.Market.Tick

namespace MarketTicker

inductive Event where
  | connected
  | closed
  | tick (tick : Tick)
  | order (order : Order)
  | error (message : String)
  | reconnecting (attempt : Nat)
  | exhausted
  deriving DecidableEq

namespace Event

def kind : Event → String
  | .connected => "connected"
  | .closed => "closed"
  | .tick _ => "tick"
  | .order _ => "order_update"
  | .error _ => "error"
  | .reconnecting _ => "reconnecting"
  | .exhausted => "reconnect_exhausted"

end Event

inductive Slot where
  | tick
  | order
  | error
  | reconnect
  | connect
  | close
  | exhausted
  deriving DecidableEq, Repr

namespace Slot

def all : List Slot :=
  [.tick, .order, .error, .reconnect, .connect, .close, .exhausted]

def name : Slot → String
  | .tick => "tick"
  | .order => "order"
  | .error => "error"
  | .reconnect => "reconnect"
  | .connect => "connect"
  | .close => "close"
  | .exhausted => "no_reconnect"

def ofName? (s : String) : Option Slot :=
  all.find? (·.name = s)

def label : Slot → String
  | .tick => "on_tick"
  | .order => "on_order_update"
  | .error => "on_error"
  | .reconnect => "on_reconnect"
  | .connect => "on_connect"
  | .close => "on_close"
  | .exhausted => "on_no_reconnect"

end Slot

def Event.slot : Event → Slot
  | .connected => .connect
  | .closed => .close
  | .tick _ => .tick
  | .order _ => .order
  | .error _ => .error
  | .reconnecting _ => .reconnect
  | .exhausted => .exhausted

structure Handlers (H : Type) where
  get? : Slot → Option H

namespace Handlers

variable {H : Type}

def none : Handlers H :=
  ⟨fun _ => .none⟩

def set (hs : Handlers H) (slot : Slot) (handler : H) : Handlers H :=
  ⟨fun s => if s = slot then some handler else hs.get? s⟩

/-- The handler is taken before it runs, so it may put another one into its own slot. -/
def dispatch {α : Type} (hs : Handlers H) (event : Event) (run : H → Handlers H → Handlers H × α) :
    Handlers H × Option α :=
  match hs.get? event.slot with
  | .none => (hs, .none)
  | some handler =>
    let (hs, a) := run handler hs
    (hs, some a)

def describe (hs : Handlers H) : String :=
  let field (slot : Slot) : String :=
    slot.label ++ ": " ++ (if (hs.get? slot).isSome then "true" else "false")
  "Callbacks \x7b " ++ String.intercalate ", " (Slot.all.map field) ++ " \x7d"

end Handlers

end MarketTicker
