import MarketTicker.Json.Record
import MarketTicker.Json.Scalar
import MarketTicker.Message.Tick
import MarketTicker.Subscription.Control

namespace MarketTicker.Control

open Json

def Action.names : List String :=
  Action.all.map Action.name

def Action.readJson : Reader Action :=
  choice Action.ofName? Action.names

def expected : String :=
  "adjacently tagged enum ControlRequest"

def modeExpected : String :=
  "tuple variant ControlRequest::Mode"

def modeLength : String :=
  modeExpected ++ " with 2 elements"

def readTokens : Reader (List Token) :=
  listOf Json.word32

def readModeContent : Reader Control :=
  onNext fun c =>
    if c = '[' then do
      advance
      if ← nextElement true then
        let mode ← Mode.readJson
        if ← nextElement false then
          let tokens ← readTokens
          endList
          return .mode mode tokens
        else .fail (.invalidLength 1 modeLength)
      else .fail (.invalidLength 0 modeLength)
    else mismatch modeExpected

def readContent : Action → Reader Control
  | .subscribe => .subscribe <$> readTokens
  | .unsubscribe => .unsubscribe <$> readTokens
  | .mode => readModeContent

def tokensOf : Value → Except Fault (List Token)
  | .array items => items.mapM word32Shape.pick
  | v => .error (.invalidType v.found "a sequence")

def unitOf : Value → Except Fault Unit
  | .null => .ok ()
  | .object [] => .ok ()
  | v => .error (.invalidType v.found "unit")

def modeOf : Value → Except Fault Mode
  | .text s => variant Mode.ofName? Mode.names s
  | .object [(key, v)] => do
    let mode ← variant Mode.ofName? Mode.names key
    unitOf v
    return mode
  | .object _ => .error (.invalidValue .map "map with a single key")
  | v => .error (.invalidType v.found "string or map")

def modeContentOf : Value → Except Fault Control
  | .array [] => .error (.invalidLength 0 modeLength)
  | .array [m] => do
    let _ ← modeOf m
    .error (.invalidLength 1 modeLength)
  | .array [m, ts] => do
    return .mode (← modeOf m) (← tokensOf ts)
  | .array (m :: ts :: rest) => do
    let _ ← modeOf m
    let _ ← tokensOf ts
    .error (.invalidLength (rest.length + 2) "2 elements in sequence")
  | v => .error (.invalidType v.found modeExpected)

def contentOf : Action → Value → Except Fault Control
  | .subscribe, v => .subscribe <$> tokensOf v
  | .unsubscribe, v => .unsubscribe <$> tokensOf v
  | .mode, v => modeContentOf v

inductive Progress where
  | nothing
  | action (action : Action)
  | content (content : Value)
  | complete (control : Control)

/-- Content that comes first waits as a value for its action. -/
def stepMember (p : Progress) (key : String) : Reader Progress :=
  if key = "a" then
    match p with
    | .nothing => do
      colon
      return .action (← Action.readJson)
    | .content v => do
      colon
      return .complete (← .lift (contentOf (← Action.readJson) v))
    | _ => .fail (.duplicateField "a")
  else if key = "v" then
    match p with
    | .nothing => do
      colon
      return .content (← Value.written)
    | .action action => do
      colon
      return .complete (← readContent action)
    | _ => .fail (.duplicateField "v")
  else do
    colon
    skipValue
    return p

def Progress.finish : Progress → Except Fault Control
  | .nothing => .error (.missingField "a")
  | .action _ => .error (.missingField "v")
  | .content _ => .error (.missingField "a")
  | .complete control => .ok control

def readPair : Reader Control := do
  advance
  if ← nextElement true then
    let action ← Action.readJson
    if ← nextElement false then
      let control ← readContent action
      endList
      return control
    else .fail (.invalidLength 1 expected)
  else .fail (.invalidLength 0 expected)

def readJson : Reader Control :=
  onNext fun c =>
    if c = '\x7b' then do
      .lift (← members stepMember .nothing).finish
    else if c = '[' then readPair
    else mismatch expected

def writeTokens : List Token → List Char :=
  writeList writeWord32

def writeContent : Control → List Char
  | .subscribe ts => writeTokens ts
  | .unsubscribe ts => writeTokens ts
  | .mode m ts => '[' :: m.writeJson ++ ',' :: writeTokens ts ++ [']']

def writeJson (c : Control) : List Char :=
  ['\x7b', '"', 'a', '"', ':'] ++ writeText c.action.name ++ [',', '"', 'v', '"', ':'] ++ c.writeContent ++ ['\x7d']

def text (c : Control) : String :=
  String.ofList c.writeJson

end MarketTicker.Control
