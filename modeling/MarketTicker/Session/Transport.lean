import MarketTicker.Span
import MarketTicker.Text.Quoted

namespace MarketTicker

inductive TransportFault where
  | handshake (message : String)
  | send (message : String)
  | receive (message : String)
  | closed
  deriving DecidableEq, Repr

namespace TransportFault

def message : TransportFault → String
  | .handshake m => "error while connecting: " ++ m
  | .send m => "error while sending data: " ++ m
  | .receive m => "error while receiving data: " ++ m
  | .closed => "connection closed"

def describe : TransportFault → String
  | .handshake m => "Handshake(" ++ Text.quoted m ++ ")"
  | .send m => "Send(" ++ Text.quoted m ++ ")"
  | .receive m => "Receive(" ++ Text.quoted m ++ ")"
  | .closed => "Closed"

def kind : TransportFault → String
  | .handshake _ => "Handshake"
  | .send _ => "Send"
  | .receive _ => "Receive"
  | .closed => "Closed"

end TransportFault

inductive ConnectFault where
  | transport (fault : TransportFault)
  | cancelled
  | timeout (limit : Span)
  | notRunning
  deriving DecidableEq

namespace ConnectFault

def message : ConnectFault → String
  | .transport fault => fault.message
  | .cancelled => "connect cancelled by close"
  | .timeout limit => "connect timed out after " ++ limit.text
  | .notRunning => "ticker driver is not running"

def kind : ConnectFault → String
  | .transport fault => "Transport." ++ fault.kind
  | .cancelled => "Cancelled"
  | .timeout _ => "Timeout"
  | .notRunning => "NotRunning"

end ConnectFault

structure Credentials where
  apiKey : String
  accessToken : String
  deriving DecidableEq

def Credentials.describe (_ : Credentials) : String :=
  "Credentials \x7b api_key: \"[REDACTED]\", access_token: \"[REDACTED]\" \x7d"

structure ConnectRequest where
  url : String
  headers : List (String × String)
  deriving DecidableEq

namespace ConnectRequest

def defaultRoot : String :=
  "wss://ws.kite.trade/"

def versionHeader : String × String :=
  ("X-Kite-Version", "3")

/-- The credentials stand in the query of the address, as they are. -/
def make (root : String) (credentials : Credentials) : ConnectRequest :=
  ⟨root ++ "?api_key=" ++ credentials.apiKey ++ "&access_token=" ++ credentials.accessToken, [versionHeader]⟩

/-- The address without its query, which holds secrets. -/
def endpoint (request : ConnectRequest) : String :=
  String.ofList (request.url.toList.takeWhile (· ≠ '?'))

def describeHeader (header : String × String) : String :=
  "(" ++ Text.quoted header.1 ++ ", " ++ Text.quoted header.2 ++ ")"

def describe (request : ConnectRequest) : String :=
  "ConnectRequest \x7b url: " ++ Text.quoted request.endpoint ++ ", headers: [" ++
    String.intercalate ", " (request.headers.map describeHeader) ++ "] \x7d"

end ConnectRequest

end MarketTicker
