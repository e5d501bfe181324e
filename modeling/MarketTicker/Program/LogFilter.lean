import MarketTicker.Program.Environment
import MarketTicker.Session.Log
import MarketTicker.Text.Alphanumeric
import MarketTicker.Text.Blank
import MarketTicker.Text.Numeral
import MarketTicker.Text.Pieces

namespace MarketTicker

abbrev LogLimit :=
  Option LogLevel

namespace LogLimit

def allows : LogLimit → LogLevel → Bool
  | none, _ => false
  | some limit, level => decide (level.rank ≤ limit.rank)

def numbered : List LogLimit :=
  [none, some .error, some .warn, some .info, some .debug, some .trace]

def named : List (String × LogLimit) :=
  [("", some .error), ("error", some .error), ("warn", some .warn), ("info", some .info),
    ("debug", some .debug), ("trace", some .trace), ("off", none)]

def read (cs : List Char) : Option LogLimit :=
  match (Text.readBounded 5 cs).bind (numbered[·]?) with
  | some limit => some limit
  | none => named.lookup (String.ofList (cs.map Char.toLower))

end LogLimit

/-- What a part of the program may log. One that names a span lets nothing through on its own. -/
structure LogDirective where
  target : Option String
  inSpan : Bool
  fields : List String
  limit : LogLimit
  deriving DecidableEq, Repr

namespace LogDirective

inductive Fault where
  | malformed
  | badLevel
  deriving DecidableEq, Repr

def Fault.message : Fault → String
  | .malformed => "invalid filter directive"
  | .badLevel => "error parsing level filter: expected one of " ++
      "\"off\", \"error\", \"warn\", \"info\", \"debug\", \"trace\", or a number 0-5"

inductive Place where
  | start
  | name (start : Nat)
  | span (start : Nat)
  | field (start : Nat)
  | fieldsEnd
  | spanEnd
  | level (start : Nat)
  deriving DecidableEq, Repr

structure Draft where
  place : Place
  target : Option (List Char)
  inSpan : Bool
  fields : List String
  deriving DecidableEq, Repr

def Draft.blank : Draft :=
  ⟨.start, none, false, []⟩

def slice (cs : List Char) (start stop : Nat) : List Char :=
  (cs.take stop).drop start

/-- A field may be asked to have a value, which only a span can tell. -/
def Draft.addField (d : Draft) (cs : List Char) : Draft :=
  if cs.contains '=' then { d with place := .fieldsEnd, inSpan := true }
  else { d with place := .fieldsEnd, fields := d.fields ++ [String.ofList cs] }

def Draft.step (text : List Char) (d : Draft) (i : Nat) (c : Char) : Option Draft :=
  match d.place with
  | .start =>
    if c = '[' then some { d with place := .span (i + 1) }
    else if c = '-' ∨ c = ':' ∨ c = '_' ∨ Text.isAlphanumeric c then some { d with place := .name i }
    else none
  | .name start =>
    if c = '=' then some { d with place := .level (i + 1), target := some (slice text start i) }
    else if c = '[' then some { d with place := .span (i + 1), target := some (slice text start i) }
    else some d
  | .span start =>
    if c = ']' then some { d with place := .spanEnd, inSpan := true }
    else if c = '{' then
      some { d with place := .field (i + 1), inSpan := decide (slice text start i ≠ []) }
    else some d
  | .field start =>
    if c = '}' then
      let name := slice text start i
      if name = [] then none else some (d.addField name)
    else some d
  | .fieldsEnd => if c = ']' then some { d with place := .spanEnd } else none
  | .spanEnd => if c = '=' then some { d with place := .level (i + 1) } else none
  | .level _ => some d

def Draft.run (text : List Char) (d : Draft) (i : Nat) : List Char → Option Draft
  | [] => some d
  | c :: cs =>
    match d.step text i c with
    | none => none
    | some d => d.run text (i + 1) cs

def Draft.finish (d : Draft) (target : Option (List Char)) (limit : LogLimit) : LogDirective :=
  ⟨target.map String.ofList, d.inSpan, d.fields, limit⟩

/-- A target, a span in brackets with fields in braces, and a level after `=`, of which each may be missing.
A lone word is a level if it can be one. Blanks in front shift what is cut out. -/
def read (text : List Char) : Except Fault LogDirective :=
  match Draft.blank.run text 0 (Text.trim text) with
  | none => .error .malformed
  | some d =>
    match d.place with
    | .name start =>
      let word := text.drop start
      match LogLimit.read word with
      | some limit => .ok (d.finish none limit)
      | none => .ok (d.finish (some word) (some .trace))
    | .level start =>
      let word := text.drop start
      if word = [] then .ok (d.finish d.target (some .trace))
      else match LogLimit.read word with
        | some limit => .ok (d.finish d.target limit)
        | none => .error .badLevel
    | .spanEnd => .ok (d.finish d.target (some .trace))
    | _ => .error .malformed

def concerns (d : LogDirective) (r : LogRecord) : Bool :=
  !d.inSpan && (d.target.all fun t => t.toList.isPrefixOf r.source.target.toList) &&
    d.fields.all fun f => f = "message" || r.fields.any (·.1 = f)

def targetSize (d : LogDirective) : Nat :=
  match d.target with
  | none => 0
  | some t => t.utf8ByteSize + 1

/-- Longer targets go first, then more fields. -/
def outranks (d e : LogDirective) : Bool :=
  decide (e.targetSize < d.targetSize) ||
    (d.targetSize == e.targetSize && decide (e.fields.length < d.fields.length))

end LogDirective

/-- Of the directives that concern a record, the one that outranks the others decides; of equals the
last. -/
structure LogFilter where
  directives : List LogDirective
  deriving DecidableEq, Repr

namespace LogFilter

def choose (found : Option LogDirective) (d : LogDirective) : Option LogDirective :=
  match found with
  | none => some d
  | some e => if e.outranks d then some e else some d

def allows (f : LogFilter) (r : LogRecord) : Bool :=
  match (f.directives.filter (·.concerns r)).foldl choose none with
  | none => false
  | some d => LogLimit.allows d.limit r.level

def standard : LogDirective :=
  ⟨some LogSource.program.target, false, [], some .info⟩

def complaint (text : List Char) (fault : LogDirective.Fault) : String :=
  "ignoring \x60" ++ String.ofList text ++ "\x60: " ++ fault.message

def read (env : Environment) : LogFilter × List String :=
  let texts := (Text.pieces ',' ((env "RUST_LOG").getD "").toList).filter (· ≠ [])
  let results := texts.map fun t => (t, LogDirective.read t)
  (⟨results.filterMap (fun (_, r) => r.toOption) ++ [standard]⟩,
    results.filterMap fun (t, r) => match r with
      | .ok _ => none
      | .error fault => some (complaint t fault))

end LogFilter

end MarketTicker
