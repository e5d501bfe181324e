import MarketTicker.Session.Address
import MarketTicker.Session.Transport
import MarketTicker.Text.Numeral
import MarketTicker.Text.Pieces

namespace MarketTicker

inductive Refusal where
  | address (fault : Address.Fault)
  | noHost
  | badHeaderName
  | badHeaderValue
  | unsupportedScheme
  deriving DecidableEq, Repr

def Refusal.message : Refusal → String
  | .address fault => "HTTP format error: " ++ fault.message
  | .noHost => "URL error: No host name in the URL"
  | .badHeaderName => "invalid HTTP header name"
  | .badHeaderValue => "failed to parse header value"
  | .unsupportedScheme => "URL error: URL scheme not supported"

namespace Address

def port? (a : Address) : Option Nat :=
  match (Text.pieces ':' a.authority.toList).reverse with
  | last :: _ :: _ => Text.readBounded 65535 last
  | _ => none

def hasPort (a : Address) : Bool :=
  a.port?.isSome || a.scheme = some "ws" || a.scheme = some "wss"

end Address

namespace ConnectRequest

def headerNameLimit : Nat :=
  65535

def isHeaderNameChar (c : Char) : Bool :=
  c.isAlphanum || "!#$%&'*+-.^_\x60|~".toList.contains c

def isHeaderValueChar (c : Char) : Bool :=
  c = '\t' || (decide (' ' ≤ c) && c ≠ '\x7f')

def headerRefusal? (header : String × String) : Option Refusal :=
  if header.1 = "" ∨ headerNameLimit < header.1.utf8ByteSize ∨ !header.1.toList.all isHeaderNameChar then
    some .badHeaderName
  else if header.2.toList.all isHeaderValueChar then none
  else some .badHeaderValue

/-- The address is looked at first, then one header after the other, and the scheme last. -/
def refusal? (request : ConnectRequest) : Option Refusal :=
  match Address.read request.url with
  | .error fault => some (.address fault)
  | .ok address =>
    if address.authority = "" then some .noHost
    else match request.headers.findSome? headerRefusal? with
      | some refusal => some refusal
      | none => if address.hasPort then none else some .unsupportedScheme

def refused (request : ConnectRequest) : Option TransportFault :=
  request.refusal?.map fun r => .handshake r.message

end ConnectRequest

end MarketTicker
