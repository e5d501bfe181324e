import MarketTicker.Feed.Bytes
import MarketTicker.Market.Tick

namespace MarketTicker.Feed

inductive Layout where
  | ltp
  | indexQuote
  | indexFull
  | quote
  | full
  deriving DecidableEq, Repr

namespace Layout

def all : List Layout :=
  [.ltp, .indexQuote, .indexFull, .quote, .full]

def length : Layout → Nat
  | .ltp => 8
  | .indexQuote => 28
  | .indexFull => 32
  | .quote => 44
  | .full => 184

def ofLength? (n : Nat) : Option Layout :=
  all.find? (·.length = n)

theorem ofLength?_length (l : Layout) : ofLength? l.length = some l := by
  cases l <;> decide

theorem length_of_ofLength? {n : Nat} {l : Layout} (h : ofLength? n = some l) : l.length = n := by
  simpa using List.find?_some h

def mode : Layout → Mode
  | .ltp => .ltp
  | .indexQuote => .quote
  | .indexFull => .full
  | .quote => .quote
  | .full => .full

end Layout

namespace Packet

inductive Fault where
  | truncated
  | unsupportedLength (length : Nat)
  deriving DecidableEq, Repr

def Fault.message : Fault → String
  | .truncated => "truncated frame: failed to fill whole buffer"
  | .unsupportedLength n => s!"unsupported packet length: {n}"

def takePrice (token : Token) : Take Decimal := do
  return token.price (← word32)

def takeChange (token : Token) : Take Decimal := do
  return token.change (← word32).toInt32

def takeTime : Take (Option Instant) := do
  return Instant.ofEpochSecond? (← word32).toNat

/-- A level ends with two bytes that carry nothing. -/
def takeLevel (token : Token) : Take DepthLevel := do
  let quantity ← word32
  let price ← takePrice token
  let orders ← word16
  let _ ← word16
  return ⟨quantity, price, orders⟩

def takeSide (token : Token) : Take DepthSide := do
  return ⟨← takeLevel token, ← takeLevel token, ← takeLevel token, ← takeLevel token, ← takeLevel token⟩

def takeLtp (token : Token) : Take Tick := do
  return { Tick.empty .ltp token with lastPrice := ← takePrice token }

/-- An index gives its prices as last, high, low, open and close. -/
def takeIndex (mode : Mode) (token : Token) : Take Tick := do
  let lastPrice ← takePrice token
  let high ← takePrice token
  let low ← takePrice token
  let openPrice ← takePrice token
  let close ← takePrice token
  let change ← takeChange token
  return { Tick.empty mode token with lastPrice, high, low, openPrice, close, change }

def takeIndexFull (token : Token) : Take Tick := do
  let tick ← takeIndex .full token
  return { tick with timestamp := ← takeTime }

def takeQuote (mode : Mode) (token : Token) : Take Tick := do
  let lastPrice ← takePrice token
  let lastQuantity ← word32
  let averagePrice ← takePrice token
  let volume ← word32
  let buyQuantity ← word32
  let sellQuantity ← word32
  let openPrice ← takePrice token
  let high ← takePrice token
  let low ← takePrice token
  let close ← takePrice token
  return { Tick.empty mode token with
    lastPrice, lastQuantity, averagePrice, volume, buyQuantity, sellQuantity, openPrice, high, low, close }

def takeFull (token : Token) : Take Tick := do
  let tick ← takeQuote .full token
  let lastTradeTime ← takeTime
  let openInterest ← word32
  let openInterestHigh ← word32
  let openInterestLow ← word32
  let timestamp ← takeTime
  let bids ← takeSide token
  let offers ← takeSide token
  return { tick with
    lastTradeTime, openInterest, openInterestHigh, openInterestLow, timestamp, depth := some ⟨bids, offers⟩ }

def take : Layout → Token → Take Tick
  | .ltp => takeLtp
  | .indexQuote => takeIndex .quote
  | .indexFull => takeIndexFull
  | .quote => takeQuote .quote
  | .full => takeFull

/-- A body too short for a token is truncated whatever its length would have meant. -/
def decode (body : List UInt8) : Except Fault Tick :=
  match word32 body with
  | none => .error .truncated
  | some (token, rest) =>
    match Layout.ofLength? body.length with
    | none => .error (.unsupportedLength body.length)
    | some layout =>
      match take layout token rest with
      | some (tick, _) => .ok tick
      | none => .error .truncated

end Packet

end MarketTicker.Feed
