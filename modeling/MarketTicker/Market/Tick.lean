import MarketTicker.Calendar.Instant
import MarketTicker.Market.Mode
import MarketTicker.Market.Price

namespace MarketTicker

structure DepthLevel where
  quantity : UInt32
  price : Decimal
  orders : UInt16
  deriving DecidableEq, Inhabited

structure DepthSide where
  first : DepthLevel
  second : DepthLevel
  third : DepthLevel
  fourth : DepthLevel
  fifth : DepthLevel
  deriving DecidableEq, Inhabited

namespace DepthSide

def toList (s : DepthSide) : List DepthLevel :=
  [s.first, s.second, s.third, s.fourth, s.fifth]

def ofList? : List DepthLevel → Option DepthSide
  | [a, b, c, d, e] => some ⟨a, b, c, d, e⟩
  | _ => none

end DepthSide

structure Depth where
  bids : DepthSide
  offers : DepthSide
  deriving DecidableEq, Inhabited

/-- One market update of one instrument. What its layout does not carry is zero or absent. -/
structure Tick where
  mode : Mode
  token : Token
  tradable : Bool
  lastPrice : Decimal
  lastQuantity : UInt32
  averagePrice : Decimal
  volume : UInt32
  buyQuantity : UInt32
  sellQuantity : UInt32
  openPrice : Decimal
  high : Decimal
  low : Decimal
  close : Decimal
  change : Decimal
  lastTradeTime : Option Instant
  timestamp : Option Instant
  openInterest : UInt32
  openInterestHigh : UInt32
  openInterestLow : UInt32
  depth : Option Depth
  deriving DecidableEq

namespace Tick

def empty (mode : Mode) (token : Token) : Tick :=
  { mode, token, tradable := token.tradable
    lastPrice := .zero, lastQuantity := 0, averagePrice := .zero, volume := 0, buyQuantity := 0
    sellQuantity := 0, openPrice := .zero, high := .zero, low := .zero, close := .zero, change := .zero
    lastTradeTime := none, timestamp := none, openInterest := 0, openInterestHigh := 0
    openInterestLow := 0, depth := none }

instance : Inhabited Tick := ⟨empty .quote 0⟩

def segment (t : Tick) : Segment :=
  .ofToken t.token

end Tick

end MarketTicker
