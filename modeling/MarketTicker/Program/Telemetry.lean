import MarketTicker.Program.Environment
import MarketTicker.Session.Address

namespace MarketTicker

structure Telemetry where
  exporting : Bool
  endpoint : String
  serviceName : String
  deriving DecidableEq, Repr

namespace Telemetry

def standard : Telemetry :=
  ⟨true, "http://localhost:4318", "kite-ticker"⟩

def read (env : Environment) : Telemetry where
  exporting := match env "OTEL_ENABLED" with
    | none => true
    | some value => value.map Char.toLower ≠ "false"
  endpoint := (env "OTEL_EXPORTER_OTLP_ENDPOINT").getD standard.endpoint
  serviceName := (env "OTEL_SERVICE_NAME").getD standard.serviceName

def fault? (t : Telemetry) : Option Address.Fault :=
  if t.exporting then
    match Address.read t.endpoint with
    | .ok _ => none
    | .error fault => some fault
  else none

def faultMessage (t : Telemetry) (fault : Address.Fault) : String :=
  "invalid URI " ++ t.endpoint ++ ". Reason " ++ fault.message

end Telemetry

end MarketTicker
