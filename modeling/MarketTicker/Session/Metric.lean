import MarketTicker.Number.Shortest
import MarketTicker.Subscription.Control

namespace MarketTicker

inductive FrameKind where
  | binary
  | heartbeat
  | text
  deriving DecidableEq, Repr

namespace FrameKind

def all : List FrameKind :=
  [.binary, .heartbeat, .text]

def name : FrameKind → String
  | .binary => "binary"
  | .heartbeat => "heartbeat"
  | .text => "text"

def ofName? (s : String) : Option FrameKind :=
  all.find? (·.name = s)

end FrameKind

inductive ErrorSource where
  | connect
  | send
  | receive
  | server
  | decode
  | timeout
  deriving DecidableEq, Repr

namespace ErrorSource

def all : List ErrorSource :=
  [.connect, .send, .receive, .server, .decode, .timeout]

def name : ErrorSource → String
  | .connect => "connect"
  | .send => "send"
  | .receive => "receive"
  | .server => "server"
  | .decode => "decode"
  | .timeout => "timeout"

def ofName? (s : String) : Option ErrorSource :=
  all.find? (·.name = s)

end ErrorSource

inductive Metric where
  | frames
  | ticks
  | packetsSkipped
  | orderUpdates
  | controlMessages
  | reconnects
  | reconnectsExhausted
  | errors
  | connected
  | subscriptions
  deriving DecidableEq, Repr

namespace Metric

def all : List Metric :=
  [.connected, .controlMessages, .errors, .frames, .orderUpdates, .packetsSkipped, .reconnectsExhausted,
   .reconnects, .subscriptions, .ticks]

def name : Metric → String
  | .frames => "kite_ticker_frames_received_total"
  | .ticks => "kite_ticker_ticks_total"
  | .packetsSkipped => "kite_ticker_packets_skipped_total"
  | .orderUpdates => "kite_ticker_order_updates_total"
  | .controlMessages => "kite_ticker_control_messages_total"
  | .reconnects => "kite_ticker_reconnects_total"
  | .reconnectsExhausted => "kite_ticker_reconnect_exhausted_total"
  | .errors => "kite_ticker_errors_total"
  | .connected => "kite_ticker_connected"
  | .subscriptions => "kite_ticker_subscriptions"

def help : Metric → String
  | .frames => "Total frames received from the ticker socket by kind"
  | .ticks => "Total ticks decoded by mode"
  | .packetsSkipped => "Tick packets dropped as malformed or invalid"
  | .orderUpdates => "Total order updates received"
  | .controlMessages => "Control messages sent by action"
  | .reconnects => "Total reconnection attempts"
  | .reconnectsExhausted => "Times reconnection gave up"
  | .errors => "Errors reported to the error callback by source"
  | .connected => "1 while the ticker socket is connected"
  | .subscriptions => "Instruments in the subscription registry"

def isGauge : Metric → Bool
  | .connected => true
  | .subscriptions => true
  | _ => false

def describe (m : Metric) : List String :=
  ["# HELP " ++ m.name ++ " " ++ m.help, "# TYPE " ++ m.name ++ (if m.isGauge then " gauge" else " counter")]

def helpLines : List String :=
  ((all.flatMap describe).mergeSort fun a b => !(b < a))

end Metric

inductive Recording where
  | frame (kind : FrameKind)
  | tick (mode : Mode)
  | packetsSkipped (count : Nat)
  | orderUpdate
  | controlMessage (action : Control.Action)
  | reconnect
  | reconnectsExhausted
  | error (source : ErrorSource)
  | connected (connected : Bool)
  | subscriptions (count : Nat)
  deriving DecidableEq, Repr

structure Series where
  metric : Metric
  label : Option (String × String)
  deriving DecidableEq, Repr

def Series.name (s : Series) : String :=
  match s.label with
  | none => s.metric.name
  | some (key, value) => s.metric.name ++ "\x7b" ++ key ++ "=\"" ++ value ++ "\"\x7d"

namespace Recording

def series : Recording → Series
  | .frame kind => ⟨.frames, some ("kind", kind.name)⟩
  | .tick mode => ⟨.ticks, some ("mode", mode.name)⟩
  | .packetsSkipped _ => ⟨.packetsSkipped, none⟩
  | .orderUpdate => ⟨.orderUpdates, none⟩
  | .controlMessage action => ⟨.controlMessages, some ("action", action.name)⟩
  | .reconnect => ⟨.reconnects, none⟩
  | .reconnectsExhausted => ⟨.reconnectsExhausted, none⟩
  | .error source => ⟨.errors, some ("source", source.name)⟩
  | .connected _ => ⟨.connected, none⟩
  | .subscriptions _ => ⟨.subscriptions, none⟩

def amount : Recording → Nat
  | .packetsSkipped count => count
  | .connected up => if up then 1 else 0
  | .subscriptions count => count
  | _ => 1

end Recording

abbrev Samples := List (Series × Nat)

namespace Samples

def put (series : Series) (update : Option Nat → Nat) : Samples → Samples
  | [] => [(series, update none)]
  | (s, n) :: rest => if s = series then (s, update (some n)) :: rest else (s, n) :: put series update rest

def record (samples : Samples) (r : Recording) : Samples :=
  put r.series (fun before => if r.series.metric.isGauge then r.amount else before.getD 0 + r.amount) samples

def ofRecordings (rs : List Recording) : Samples :=
  rs.foldl record []

def valueText (series : Series) (n : Nat) : String :=
  if series.metric.isGauge then
    match Binary64.ofNat n with
    | some x => String.ofList x.plain
    | none => "+Inf"
  else String.ofList (Text.numeral (n % 0x10000000000000000))

def texts (samples : Samples) : List (String × String) :=
  samples.map fun (series, n) => (series.name, valueText series n)

end Samples

end MarketTicker
