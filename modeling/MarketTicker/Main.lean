import MarketTicker.Program.Run
import Std.Internal.UV.Signal

namespace MarketTicker.Program

def processVariables : IO (List (String × String)) := do
  let text ← try IO.FS.readFile "/proc/self/environ" catch _ => pure ""
  return (Text.pieces '\x00' text.toList).filterMap fun v =>
    match v.span (· ≠ '=') with
    | (name, _ :: value) => some (String.ofList name, String.ofList value)
    | _ => none

def readFile? (path : String) : IO (Option String) := do
  try return some (← IO.FS.readFile path) catch _ => return none

def nearestAbove (path : String) : Nat → IO (Option String)
  | 0 => return none
  | depth + 1 => do
    match ← readFile? path with
    | some text => return some text
    | none => nearestAbove ("../" ++ path) depth

/-- There is no network here, so a handshake that needs one fails. -/
def network : Net :=
  .start [] ⟨.refuse (.handshake "IO error: Network is unreachable (os error 101)"), 0⟩

def awaitSignal : IO Signal := do
  let terminate ← (← Std.Internal.UV.Signal.mk 15 false).next
  let interrupt ← (← Std.Internal.UV.Signal.mk 2 false).next
  IO.waitAny [terminate.result?.map fun _ => .terminate, interrupt.result?.map fun _ => .interrupt]

def write (report : Report) : IO Unit := do
  report.output.forM IO.println
  report.complaints.forM IO.eprintln

end MarketTicker.Program

open MarketTicker Program in
def main : IO UInt32 := do
  let depth := (← IO.currentDir).components.length
  let env := Dotenv.prepare (.ofList (← processVariables)) (← readFile? ".env") (← nearestAbove "../.env" depth)
  match start env network with
  | .over report =>
    write report
    return 1
  | .waiting report program =>
    write report
    let signal ← awaitSignal
    (program.stop signal).forM IO.println
    return 0
