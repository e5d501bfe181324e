import MarketTicker.Number.Quotient
import MarketTicker.Market.Segment

namespace MarketTicker

def price (raw : Decimal) (divisor : Nat) : Decimal :=
  (raw.divide? divisor).getD .zero

def Token.price (token : Token) (raw : UInt32) : Decimal :=
  MarketTicker.price (.ofUInt32 raw) token.priceDivisor

/-- Only the change of an index can be negative. -/
def Token.change (token : Token) (raw : Int32) : Decimal :=
  MarketTicker.price (.ofInt32 raw) token.priceDivisor

end MarketTicker
