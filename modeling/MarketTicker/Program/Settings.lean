import MarketTicker.Program.Environment
import MarketTicker.Session.State
import MarketTicker.Text.Pieces

namespace MarketTicker

structure Settings where
  credentials : Credentials
  root : String
  retryEnabled : Bool
  retryInterval : Span
  maxRetries : Nat
  tokens : List Token
  mode : Mode
  metricsPort : Nat
  deriving DecidableEq

inductive SettingsFault where
  | missing (name : String)
  | blank (name : String)
  | invalid (name value : String)
  deriving DecidableEq, Repr

def SettingsFault.message : SettingsFault → String
  | .missing name => "missing required environment variable: " ++ name
  | .blank name => "environment variable " ++ name ++ " cannot be empty"
  | .invalid name value => "invalid value for " ++ name ++ ": " ++ Text.quoted value

namespace Settings

def apiKeyName : String :=
  "KITE_API_KEY"

def accessTokenName : String :=
  "KITE_ACCESS_TOKEN"

def rootName : String :=
  "KITE_TICKER_ROOT"

def retryName : String :=
  "KITE_TICKER_RECONNECT"

def intervalName : String :=
  "KITE_TICKER_RECONNECT_INTERVAL_SECS"

def retriesName : String :=
  "KITE_TICKER_RECONNECT_TRIES"

def tokensName : String :=
  "KITE_TICKER_TOKENS"

def modeName : String :=
  "KITE_TICKER_MODE"

def portName : String :=
  "KITE_TICKER_METRICS_PORT"

def require (env : Environment) (name : String) : Except SettingsFault String :=
  match env name with
  | none => .error (.missing name)
  | some value => if Text.trim value.toList = [] then .error (.blank name) else .ok value

def readSwitch (fallback : Bool) (value : String) : Bool :=
  let word := (String.ofList (Text.trim value.toList)).map Char.toLower
  if ["1", "true", "yes", "on"].contains word then true
  else if ["0", "false", "no", "off"].contains word then false
  else fallback

/-- A number of at most `max`; anything else counts as if it were not there. -/
def readNumber (env : Environment) (name : String) (max fallback : Nat) : Nat :=
  match env name with
  | none => fallback
  | some value => (Text.readBounded max (Text.trim value.toList)).getD fallback

def readToken (item : List Char) : Except SettingsFault Token :=
  match Text.readWord item with
  | some token => .ok token
  | none => .error (.invalid tokensName (String.ofList item))

def items (cs : List Char) : List (List Char) :=
  ((Text.pieces ',' cs).map Text.trim).filter (· ≠ [])

def readTokens (cs : List Char) : Except SettingsFault (List Token) :=
  (items cs).mapM readToken

def readMode (value : String) : Except SettingsFault Mode :=
  match Mode.read value.toList with
  | .ok mode => .ok mode
  | .error _ => .error (.invalid modeName value)

def readRoot (env : Environment) : String :=
  match env rootName with
  | none => ConnectRequest.defaultRoot
  | some root => if root = "" then ConnectRequest.defaultRoot else root

def optional {α : Type} (value : Option String) (read : String → Except SettingsFault α) (fallback : α) :
    Except SettingsFault α :=
  match value with
  | none => .ok fallback
  | some text => read text

def read (env : Environment) : Except SettingsFault Settings := do
  let apiKey ← require env apiKeyName
  let accessToken ← require env accessTokenName
  let tokens ← optional (env tokensName) (readTokens ·.toList) []
  let mode ← optional (env modeName) readMode .initial
  return {
    credentials := ⟨apiKey, accessToken⟩
    root := readRoot env
    retryEnabled := ((env retryName).map (readSwitch true)).getD true
    retryInterval := .ofSeconds (.ofNat (readNumber env intervalName 0xFFFFFFFFFFFFFFFF 5))
    maxRetries := readNumber env retriesName 0xFFFFFFFF 50
    tokens
    mode
    metricsPort := readNumber env portName 0xFFFF 0 }

def rule (s : Settings) : RetryRule :=
  ((RetryRule.off.withEnabled s.retryEnabled).withInterval s.retryInterval).withMaxRetries s.maxRetries

def setup (s : Settings) : Setup :=
  { Setup.standard with root := s.root, rule := s.rule }

end Settings

end MarketTicker
