import MarketTicker.Message.Order

namespace MarketTicker

open Json

structure Envelope where
  kind : String
  data : Value
  deriving Inhabited

namespace Envelope

def fields : List (Member Envelope) :=
  [.required "type" (textAs "a string") writeText kind fun v e => { e with kind := v },
   .defaulted "data" Value.sorted Value.write data fun v e => { e with data := v }]

def schema : Schema Envelope :=
  ⟨"ServerEnvelope", ⟨"", .null⟩, fields⟩

end Envelope

inductive ServerMessage where
  | order (order : Order)
  | error (message : String)
  | other (kind : String)
  deriving DecidableEq

namespace ServerMessage

inductive Refusal where
  | malformed (fault : Fault)
  | invalidOrder (fault : Fault)
  deriving DecidableEq

def Refusal.message : Refusal → String
  | .malformed fault => "JSON codec error: " ++ fault.message
  | .invalidOrder fault => "invalid order update: " ++ fault.message

/-- The text of an error: a string as it is, and any other value as it is written. -/
def errorText : Value → String
  | .text s => s
  | v => String.ofList v.write

def ofEnvelope (e : Envelope) : Except Refusal ServerMessage :=
  if e.kind = "order" then
    match Order.ofValue e.data with
    | .ok o => .ok (.order o)
    | .error fault => .error (.invalidOrder fault)
  else if e.kind = "error" then .ok (.error (errorText e.data))
  else .ok (.other e.kind)

def read (s : String) : Except Refusal ServerMessage :=
  match readAll Envelope.schema.read (Text.trim s.toList) with
  | .ok e => ofEnvelope e
  | .error fault => .error (.malformed fault)

end ServerMessage

end MarketTicker
