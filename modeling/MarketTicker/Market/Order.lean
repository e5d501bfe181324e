import MarketTicker.Calendar.Stamp
import MarketTicker.Number.Decimal
import MarketTicker.Market.Segment

namespace MarketTicker

structure Order where
  orderId : String
  exchangeOrderId : Option String
  parentOrderId : Option String
  status : String
  statusMessage : Option String
  symbol : String
  token : Token
  exchange : String
  transactionType : String
  orderType : String
  product : String
  variety : String
  validity : String
  quantity : UInt32
  disclosedQuantity : UInt32
  filledQuantity : UInt32
  pendingQuantity : UInt32
  cancelledQuantity : UInt32
  marketProtection : Int32
  price : Decimal
  triggerPrice : Decimal
  averagePrice : Decimal
  placedAt : Option Stamp
  exchangeAt : Option Stamp
  placedBy : String
  tag : Option String
  deriving DecidableEq, Inhabited

namespace Order

def blank (orderId : String) : Order :=
  { (default : Order) with orderId }

def terminal (o : Order) : Bool :=
  o.status = "COMPLETE" || o.status = "CANCELLED" || o.status = "REJECTED"

end Order

end MarketTicker
