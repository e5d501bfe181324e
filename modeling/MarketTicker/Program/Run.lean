import MarketTicker.Program.Dotenv
import MarketTicker.Program.LogFilter
import MarketTicker.Program.Settings
import MarketTicker.Program.Telemetry
import MarketTicker.Session.Refusal
import MarketTicker.Session.Scenario

namespace MarketTicker

inductive Signal where
  | terminate
  | interrupt
  deriving DecidableEq, Repr

structure Failure where
  message : String
  causes : List String
  deriving DecidableEq, Repr

def LogRecord.line (r : LogRecord) : String :=
  r.level.name ++ " " ++ r.source.target ++ ": " ++ r.message ++
    String.join (r.fields.map fun (name, value) =>
      if name = "message" then " " ++ value else " " ++ name ++ "=" ++ value)

namespace Failure

def indent (first other : String) (text : String) : List String :=
  match Text.pieces '\n' text.toList with
  | [] => []
  | l :: ls => (first ++ String.ofList l) :: ls.map fun l => other ++ String.ofList l

def numbered (n : Nat) (cause : String) : List String :=
  indent ("    " ++ String.ofList (Text.numeral n) ++ ": ") "       " cause

def causeLines : List String → List String
  | [] => []
  | [cause] => ["", "Caused by:"] ++ indent "    " "    " cause
  | causes => ["", "Caused by:"] ++ causes.zipIdx.flatMap fun (cause, n) => numbered n cause

def lines (f : Failure) : List String :=
  indent "Error: " "" f.message ++ causeLines f.causes

end Failure

namespace Program

structure Report where
  output : List String
  complaints : List String
  deriving DecidableEq, Repr

structure Waiting where
  filter : LogFilter
  session : Session

inductive Start where
  | over (report : Report)
  | waiting (report : Report) (program : Waiting)

def info (message : String) (fields : List (String × String)) : LogRecord :=
  ⟨.program, .info, message, fields⟩

def recordOf : Event → LogRecord
  | .connected => info "Ticker connected" []
  | .closed => info "Ticker closed" []
  | .error message => ⟨.program, .error, "Ticker error", [("message", message)]⟩
  | .reconnecting attempt => ⟨.program, .warn, "Ticker reconnecting", [("attempt", Session.countText attempt)]⟩
  | .exhausted => ⟨.program, .error, "Ticker gave up reconnecting", []⟩
  | .order o => info "Order update" [("order_id", o.orderId), ("status", o.status), ("symbol", o.symbol),
      ("filled", Session.countText o.filledQuantity.toNat)]
  | .tick t => info "Tick" [("token", Session.countText t.token.toNat), ("mode", t.mode.name),
      ("last_price", t.lastPrice.text), ("volume", Session.countText t.volume.toNat)]

def recordOfSettings (s : Settings) : LogRecord :=
  info "Configuration loaded" [("root", s.root), ("reconnect", if s.retryEnabled then "true" else "false"),
    ("reconnect_interval_secs", Session.countText s.retryInterval.seconds),
    ("reconnect_tries", Session.countText s.maxRetries), ("tokens", Session.countText s.tokens.length),
    ("mode", s.mode.name), ("metrics_port", Session.countText s.metricsPort)]

def recordOfHappening? : Happening → Option LogRecord
  | .logged r => some r
  | .handled event _ => some (recordOf event)
  | _ => none

def records (entries : List TraceEntry) : List LogRecord :=
  entries.filterMap fun e => recordOfHappening? e.happening

def lines (filter : LogFilter) (rs : List LogRecord) : List String :=
  (rs.filter filter.allows).flatMap fun r => (Text.pieces '\n' r.line.toList).map String.ofList

def handlers : Handlers Reaction :=
  ⟨fun _ => some ⟨[], false⟩⟩

def connect (settings : Settings) (net : Net) : Session :=
  let start := Session.start settings.setup settings.credentials handlers net ConnectRequest.refused
  [Call.subscribe settings.tokens, .setMode settings.tokens settings.mode, .connect].foldl
    (fun s c => (s.perform (.call c)).2) start

def connectFault? (entries : List TraceEntry) : Option ConnectFault :=
  entries.findSome? fun e => match e.happening with
    | .returned _ (.error fault) => some fault
    | _ => none

def Report.fail (r : Report) (f : Failure) : Start :=
  .over { r with complaints := r.complaints ++ f.lines }

def Report.add (r : Report) (filter : LogFilter) (rs : List LogRecord) : Report :=
  { r with output := r.output ++ lines filter rs }

/-- Without a second try the program ends with a failed connection; otherwise it waits. -/
def startSession (settings : Settings) (net : Net) (filter : LogFilter) (report : Report) : Start :=
  let session := connect settings net
  let report := report.add filter (records session.history)
  match connectFault? session.history with
  | none => .waiting report ⟨filter, session⟩
  | some fault =>
    if settings.retryEnabled then
      .waiting (report.add filter
        [⟨.program, .warn, "Initial connect failed, waiting for reconnect", [("error", fault.message)]⟩])
        ⟨filter, session⟩
    else report.fail ⟨"failed to connect to Kite ticker", [fault.message]⟩

def start (env : Environment) (net : Net) : Start :=
  let (filter, complaints) := LogFilter.read env
  let report : Report := ⟨[], complaints⟩
  let telemetry := Telemetry.read env
  match telemetry.fault? with
  | some fault =>
    let cause := telemetry.faultMessage fault
    report.fail ⟨"failed to initialize telemetry", ["failed to create OTLP exporter: " ++ cause, cause]⟩
  | none =>
    let report := report.add filter [info "Starting Kite ticker" []]
    match Settings.read env with
    | .error fault => report.fail ⟨fault.message, []⟩
    | .ok settings => startSession settings net filter (report.add filter [recordOfSettings settings])

def farewell : Signal → String
  | .terminate => "Received SIGTERM, shutting down"
  | .interrupt => "Received Ctrl+C, shutting down"

def closingTime : Nat :=
  250

def Waiting.stop (p : Waiting) (signal : Signal) : List String :=
  let closed := (p.session.perform (.call .close)).2.advance closingTime
  lines p.filter
    ([info (farewell signal) []] ++ records (closed.since p.session) ++ [info "Kite ticker stopped" []])

end Program

end MarketTicker
