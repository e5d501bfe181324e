namespace MarketTicker

inductive LogLevel where
  | trace
  | debug
  | info
  | warn
  | error
  deriving DecidableEq, Repr

namespace LogLevel

def name : LogLevel → String
  | .trace => "TRACE"
  | .debug => "DEBUG"
  | .info => "INFO"
  | .warn => "WARN"
  | .error => "ERROR"

def rank : LogLevel → Nat
  | .trace => 5
  | .debug => 4
  | .info => 3
  | .warn => 2
  | .error => 1

end LogLevel

inductive LogSource where
  | program
  | session
  | feed
  | handlers
  deriving DecidableEq, Repr

def LogSource.target : LogSource → String
  | .program => "kite_ticker"
  | .session => "kite_ticker::infrastructure::kite::ticker"
  | .feed => "kite_ticker::infrastructure::kite::codec"
  | .handlers => "kite_ticker::application::services"

structure LogRecord where
  source : LogSource
  level : LogLevel
  message : String
  fields : List (String × String)
  deriving DecidableEq, Repr

namespace LogRecord

/-- A field of that name takes the place of the message. -/
def heading (r : LogRecord) : String :=
  (r.fields.lookup "message").getD r.message

def details (r : LogRecord) : List (String × String) :=
  r.fields.filter (·.1 ≠ "message")

end LogRecord

end MarketTicker
