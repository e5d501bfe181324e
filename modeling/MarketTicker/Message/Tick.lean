import MarketTicker.Json.Scalar
import MarketTicker.Market.Tick

namespace MarketTicker

open Json

namespace Mode

def names : List String :=
  all.map name

def readJson : Reader Mode :=
  choice ofName? names

def writeJson (m : Mode) : List Char :=
  writeText m.name

end Mode

namespace DepthLevel

def fields : List (Member DepthLevel) :=
  [.required "quantity" word32 writeWord32 quantity fun v l => { l with quantity := v },
   .required "price" readDecimal writeDecimal price fun v l => { l with price := v },
   .required "orders" word16 (fun n => Text.numeral n.toNat) orders fun v l => { l with orders := v }]

def schema : Schema DepthLevel :=
  ⟨"DepthItem", default, fields⟩

end DepthLevel

namespace DepthSide

def readJson : Reader DepthSide := do
  return (ofList? (← exactly 5 DepthLevel.schema.read "an array of length 5")).getD default

def writeJson (s : DepthSide) : List Char :=
  writeList DepthLevel.schema.write s.toList

end DepthSide

namespace Depth

def fields : List (Member Depth) :=
  [.required "bids" DepthSide.readJson DepthSide.writeJson bids fun v d => { d with bids := v },
   .required "offers" DepthSide.readJson DepthSide.writeJson offers fun v d => { d with offers := v }]

def schema : Schema Depth :=
  ⟨"MarketDepth", default, fields⟩

end Depth

namespace Tick

def wordField (name : String) (get : Tick → UInt32) (set : UInt32 → Tick → Tick) : Member Tick :=
  .required name word32 writeWord32 get set

def priceField (name : String) (get : Tick → Decimal) (set : Decimal → Tick → Tick) : Member Tick :=
  .required name readDecimal writeDecimal get set

def timeField (name : String) (get : Tick → Option Instant) (set : Option Instant → Tick → Tick) : Member Tick :=
  .nullable name (optional readInstant) (writeOption writeInstant) get set

def fields : List (Member Tick) :=
  [.required "mode" Mode.readJson Mode.writeJson mode fun v t => { t with mode := v },
   wordField "instrument_token" token fun v t => { t with token := v },
   .required "tradable" boolean writeBool tradable fun v t => { t with tradable := v },
   priceField "last_price" lastPrice fun v t => { t with lastPrice := v },
   wordField "last_quantity" lastQuantity fun v t => { t with lastQuantity := v },
   priceField "average_price" averagePrice fun v t => { t with averagePrice := v },
   wordField "volume" volume fun v t => { t with volume := v },
   wordField "buy_quantity" buyQuantity fun v t => { t with buyQuantity := v },
   wordField "sell_quantity" sellQuantity fun v t => { t with sellQuantity := v },
   priceField "open" openPrice fun v t => { t with openPrice := v },
   priceField "high" high fun v t => { t with high := v },
   priceField "low" low fun v t => { t with low := v },
   priceField "close" close fun v t => { t with close := v },
   priceField "change" change fun v t => { t with change := v },
   timeField "last_trade_time" lastTradeTime fun v t => { t with lastTradeTime := v },
   timeField "timestamp" timestamp fun v t => { t with timestamp := v },
   wordField "open_interest" openInterest fun v t => { t with openInterest := v },
   wordField "oi_day_high" openInterestHigh fun v t => { t with openInterestHigh := v },
   wordField "oi_day_low" openInterestLow fun v t => { t with openInterestLow := v },
   .nullable "depth" (optional Depth.schema.read) (writeOption Depth.schema.write) depth
     fun v t => { t with depth := v }]

def schema : Schema Tick :=
  ⟨"Tick", default, fields⟩

end Tick

end MarketTicker
