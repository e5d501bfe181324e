namespace MarketTicker

abbrev Token := UInt32

inductive Segment where
  | nse
  | nfo
  | cds
  | bse
  | bfo
  | bcd
  | mcx
  | mcxsx
  | indices
  | unknown (id : UInt8)
  deriving DecidableEq, Repr

namespace Segment

def ofId (id : UInt8) : Segment :=
  match id.toNat with
  | 1 => .nse
  | 2 => .nfo
  | 3 => .cds
  | 4 => .bse
  | 5 => .bfo
  | 6 => .bcd
  | 7 => .mcx
  | 8 => .mcxsx
  | 9 => .indices
  | _ => .unknown id

/-- The low byte of a token names the segment. -/
def ofToken (token : Token) : Segment :=
  ofId token.toUInt8

def priceDivisor : Segment → Nat
  | .cds => 10000000
  | _ => 100

def tradable : Segment → Bool
  | .indices => false
  | _ => true

end Segment

def Token.priceDivisor (token : Token) : Nat :=
  (Segment.ofToken token).priceDivisor

def Token.tradable (token : Token) : Bool :=
  (Segment.ofToken token).tradable

end MarketTicker
