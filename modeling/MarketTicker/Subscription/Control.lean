import MarketTicker.Subscription.Watchlist

namespace MarketTicker

inductive Control where
  | subscribe (tokens : List Token)
  | unsubscribe (tokens : List Token)
  | mode (mode : Mode) (tokens : List Token)
  deriving DecidableEq, Repr

namespace Control

inductive Action where
  | subscribe
  | unsubscribe
  | mode
  deriving DecidableEq, Repr

namespace Action

def all : List Action :=
  [.subscribe, .unsubscribe, .mode]

def name : Action → String
  | .subscribe => "subscribe"
  | .unsubscribe => "unsubscribe"
  | .mode => "mode"

def ofName? (s : String) : Option Action :=
  all.find? (·.name = s)

theorem ofName?_name (a : Action) : ofName? a.name = some a := by
  cases a <;> decide

end Action

def action : Control → Action
  | .subscribe _ => .subscribe
  | .unsubscribe _ => .unsubscribe
  | .mode .. => .mode

def tokens : Control → List Token
  | .subscribe tokens => tokens
  | .unsubscribe tokens => tokens
  | .mode _ tokens => tokens

end Control

structure RestorePlan where
  tokens : List Token
  groups : List (Mode × List Token)
  deriving DecidableEq, Repr

namespace RestorePlan

def isEmpty (p : RestorePlan) : Bool :=
  p.tokens.isEmpty

/-- Drops everything, takes everything, then sets the mode of each group. -/
def controls (p : RestorePlan) : List Control :=
  if p.isEmpty then []
  else .unsubscribe p.tokens :: .subscribe p.tokens :: p.groups.map fun (mode, tokens) => .mode mode tokens

end RestorePlan

namespace Watchlist

def inMode (w : Watchlist) (mode : Mode) : List Token :=
  (w.entries.filter (·.2 = mode)).map Prod.fst

def restorePlan (w : Watchlist) : RestorePlan :=
  ⟨w.tokens, (Mode.all.map fun mode => (mode, w.inMode mode)).filter fun group => !group.2.isEmpty⟩

end Watchlist

end MarketTicker
