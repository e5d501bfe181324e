import MarketTicker.Feed.Packet

namespace MarketTicker.Feed

inductive Outcome where
  | tick (tick : Tick)
  | zeroToken
  | rejected (fault : Packet.Fault)
  | cut (length available : Nat)
  | missing
  deriving DecidableEq

namespace Outcome

def tick? : Outcome → Option Tick
  | .tick t => some t
  | _ => none

def isSkipped : Outcome → Bool
  | .tick _ => false
  | _ => true

def ofBody (body : List UInt8) : Outcome :=
  match Packet.decode body with
  | .ok t => if t.token = 0 then .zeroToken else .tick t
  | .error fault => .rejected fault

end Outcome

namespace Frame

inductive Fault where
  | truncated
  | offsetOutOfBounds (offset length : Nat)
  deriving DecidableEq, Repr

def Fault.message : Fault → String
  | .truncated => "truncated frame: failed to fill whole buffer"
  | .offsetOutOfBounds offset length => s!"offset {offset} outside buffer of {length} bytes"

structure Decoded where
  outcomes : List Outcome
  consumed : Nat
  heartbeat : Bool
  deriving DecidableEq

namespace Decoded

def ticks (d : Decoded) : List Tick :=
  d.outcomes.filterMap Outcome.tick?

def skipped (d : Decoded) : Nat :=
  d.outcomes.countP Outcome.isSkipped

end Decoded

def isHeartbeat (data : List UInt8) : Bool :=
  data.length = 1

/-- The outcomes of up to `count` packets and the bytes they took. A packet that is cut short ends the
frame. -/
def packets : Nat → List UInt8 → List Outcome × Nat
  | 0, _ => ([], 0)
  | count + 1, bs =>
    match word16 bs with
    | none => ([.missing], bs.length)
    | some (length, rest) =>
      if rest.length < length.toNat then ([.cut length.toNat rest.length], 2 + rest.length)
      else
        let (outcomes, used) := packets count (rest.drop length.toNat)
        (.ofBody (rest.take length.toNat) :: outcomes, 2 + length.toNat + used)

/-- A single byte is a heartbeat; anything else starts with the number of its packets. -/
def decode (data : List UInt8) : Except Fault Decoded :=
  if isHeartbeat data then .ok ⟨[], 1, true⟩
  else
    match word16 data with
    | none => .error .truncated
    | some (count, rest) =>
      let (outcomes, used) := packets count.toNat rest
      .ok ⟨outcomes, 2 + used, false⟩

def decodeAt (data : List UInt8) (offset : Nat) : Except Fault Decoded :=
  if data.length < offset then .error (.offsetOutOfBounds offset data.length)
  else decode (data.drop offset)

end Frame

end MarketTicker.Feed
