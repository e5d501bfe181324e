import MarketTicker.Json.Scalar
import MarketTicker.Market.Order

namespace MarketTicker.Order

open Json

structure Entry where
  name : String
  needed : Bool
  read : Reader (Order → Order)
  pick : Value → Except Fault (Order → Order)
  write : Order → List Char

def entry {α : Type} (name : String) (shape : Shape α) (get : Order → α) (set : α → Order → Order) : Entry :=
  ⟨name, false, set <$> shape.read, fun v => set <$> shape.pick v, shape.write ∘ get⟩

def textEntry (name : String) (get : Order → String) (set : String → Order → Order) : Entry :=
  entry name textShape get set

def noteEntry (name : String) (get : Order → Option String) (set : Option String → Order → Order) : Entry :=
  entry name (optionalShape textShape) get set

def wordEntry (name : String) (get : Order → UInt32) (set : UInt32 → Order → Order) : Entry :=
  entry name (lenientShape 0 word32Shape) get set

def priceEntry (name : String) (get : Order → Decimal) (set : Decimal → Order → Order) : Entry :=
  entry name (lenientShape .zero decimalShape) get set

def timeEntry (name : String) (get : Order → Option Stamp) (set : Option Stamp → Order → Order) : Entry :=
  entry name stampShape get set

/-- Only the order's own id has to be there. -/
def entries : List Entry :=
  [{ textEntry "order_id" orderId fun v o => { o with orderId := v } with needed := true },
   noteEntry "exchange_order_id" exchangeOrderId fun v o => { o with exchangeOrderId := v },
   noteEntry "parent_order_id" parentOrderId fun v o => { o with parentOrderId := v },
   textEntry "status" status fun v o => { o with status := v },
   noteEntry "status_message" statusMessage fun v o => { o with statusMessage := v },
   textEntry "tradingsymbol" symbol fun v o => { o with symbol := v },
   wordEntry "instrument_token" token fun v o => { o with token := v },
   textEntry "exchange" exchange fun v o => { o with exchange := v },
   textEntry "transaction_type" transactionType fun v o => { o with transactionType := v },
   textEntry "order_type" orderType fun v o => { o with orderType := v },
   textEntry "product" product fun v o => { o with product := v },
   textEntry "variety" variety fun v o => { o with variety := v },
   textEntry "validity" validity fun v o => { o with validity := v },
   wordEntry "quantity" quantity fun v o => { o with quantity := v },
   wordEntry "disclosed_quantity" disclosedQuantity fun v o => { o with disclosedQuantity := v },
   wordEntry "filled_quantity" filledQuantity fun v o => { o with filledQuantity := v },
   wordEntry "pending_quantity" pendingQuantity fun v o => { o with pendingQuantity := v },
   wordEntry "cancelled_quantity" cancelledQuantity fun v o => { o with cancelledQuantity := v },
   entry "market_protection" (lenientShape 0 int32Shape) marketProtection
     fun v o => { o with marketProtection := v },
   priceEntry "price" price fun v o => { o with price := v },
   priceEntry "trigger_price" triggerPrice fun v o => { o with triggerPrice := v },
   priceEntry "average_price" averagePrice fun v o => { o with averagePrice := v },
   timeEntry "order_timestamp" placedAt fun v o => { o with placedAt := v },
   timeEntry "exchange_timestamp" exchangeAt fun v o => { o with exchangeAt := v },
   textEntry "placed_by" placedBy fun v o => { o with placedBy := v },
   noteEntry "tag" tag fun v o => { o with tag := v }]

def Entry.field (e : Entry) : Member Order :=
  ⟨e.name, e.needed, e.needed, e.read, e.write⟩

def schema : Schema Order :=
  ⟨"OrderUpdate", default, entries.map Entry.field⟩

def pickMembers (o : Order) (named : Bool) : Members → Except Fault Order
  | [] => if named then .ok o else .error (.missingField "order_id")
  | (key, v) :: rest =>
    match entries.find? (·.name = key) with
    | none => pickMembers o named rest
    | some e => do
      let set ← e.pick v
      pickMembers (set o) (named || e.needed) rest

/-- As many of the entries as there are items, and no item more. -/
def pickItems (length : Nat) (o : Order) : List Entry → List Value → Except Fault Order
  | [], [] => .ok o
  | [], _ :: _ => .error (.invalidLength length "fewer elements in array")
  | e :: _, [] =>
    if e.needed then .error (.invalidLength 0 (schema.expected ++ " with " ++ Schema.countText entries.length))
    else .ok o
  | e :: entries, v :: rest => do
    let set ← e.pick v
    pickItems length (set o) entries rest

def ofValue : Value → Except Fault Order
  | .object ms => pickMembers default false ms
  | .array vs => pickItems vs.length default entries vs
  | v => .error (.invalidType v.found schema.expected)

end MarketTicker.Order
