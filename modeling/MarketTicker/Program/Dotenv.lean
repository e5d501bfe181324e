import MarketTicker.Program.Environment
import MarketTicker.Text.Alphanumeric
import MarketTicker.Text.Blank
import MarketTicker.Text.Bytes
import MarketTicker.Text.Pieces

namespace MarketTicker.Dotenv

inductive Quoting where
  | bare
  | blank
  | escape
  | strong
  | strongEscape
  | weak
  | weakEscape
  deriving DecidableEq, Repr

namespace Quoting

def opened (c : Char) : Quoting :=
  if c = '\\' then .escape else if c = '"' then .weak else if c = '\x27' then .strong else .bare

/-- `none` where a comment begins: at a `#` right after a blank. -/
def step : Quoting → Char → Option Quoting
  | .blank, c => if c = '#' then none else some (opened c)
  | .bare, c => some (if Text.isBlank c ∧ c ≠ '\n' ∧ c ≠ '\r' then .blank else opened c)
  | .escape, _ => some .bare
  | .weak, c => some (if c = '\\' then .weakEscape else if c = '"' then .bare else .weak)
  | .weakEscape, _ => some .weak
  | .strong, c => some (if c = '\\' then .strongEscape else if c = '\x27' then .bare else .strong)
  | .strongEscape, _ => some .strong

def scan (q : Quoting) (column : Nat) : List Char → Except Nat Quoting
  | [] => .ok q
  | c :: cs =>
    match q.step c with
    | none => .error column
    | some q => scan q (column + c.utf8Size) cs

end Quoting

def lines (cs : List Char) : List (List Char) :=
  let ps := Text.pieces '\n' cs
  ps.dropLast.map (· ++ ['\n']) ++ ps.getLast?.toList.filter (· ≠ [])

/-- Lines that quotes hold together make one entry, and `none` is one that never ends. A comment behind
such lines cuts all of them at its own column. -/
def entriesFrom (text : List Char) (q : Quoting) : List (List Char) → List (Option (List Char))
  | [] => if q = .bare then [] else [none]
  | line :: rest =>
    let text := text ++ line
    if (Text.trimLeft text).head? = some '#' then some [] :: entriesFrom [] .bare rest
    else match q.scan 0 line with
      | .error column => some (Text.takeBytes column text) :: entriesFrom [] .bare rest
      | .ok .bare => some text :: entriesFrom [] .bare rest
      | .ok q => entriesFrom text q rest

def entries (cs : List Char) : List (Option (List Char)) :=
  entriesFrom [] .bare (lines cs)

inductive Part where
  | plain
  | escape
  | strong
  | name (read : List Char)
  | braced (read : List Char)
  | after
  deriving DecidableEq, Repr

def fetch (env : Environment) (name : List Char) : List Char :=
  ((env (String.ofList name)).getD "").toList

/-- The value from here on, `out` being what was read of it, and `weak` whether it stands in double quotes.
Outside single quotes `$` brings in a variable. -/
def valueFrom (env : Environment) (out : List Char) (weak : Bool) : Part → List Char → Option (List Char)
  | .plain, [] => if weak then none else some out
  | .escape, [] => if weak then none else some out
  | .strong, [] => none
  | .name n, [] => if weak then none else some (out ++ fetch env n)
  | .braced _, [] => none
  | .after, [] => some out
  | .after, c :: cs =>
    if c = ' ' ∨ c = '\t' then valueFrom env out weak .after cs
    else if c = '#' then some out
    else none
  | .escape, c :: cs =>
    if "\\\x27\"$ ".toList.contains c then valueFrom env (out ++ [c]) weak .plain cs
    else if c = 'n' then valueFrom env (out ++ ['\n']) weak .plain cs
    else none
  | .strong, c :: cs =>
    if c = '\x27' then valueFrom env out weak .plain cs else valueFrom env (out ++ [c]) weak .strong cs
  | .name n, c :: cs =>
    if Text.isAlphanumeric c then valueFrom env out weak (.name (n ++ [c])) cs
    else if c = '{' ∧ n = [] then valueFrom env out weak (.braced []) cs
    else if c = '$' then valueFrom env (out ++ fetch env n) weak (.name []) cs
    else valueFrom env (out ++ fetch env n ++ [c]) weak .plain cs
  | .braced n, c :: cs =>
    if c = '}' then valueFrom env (out ++ fetch env n) weak .plain cs
    else valueFrom env out weak (.braced (n ++ [c])) cs
  | .plain, c :: cs =>
    if c = '$' then valueFrom env out weak (.name []) cs
    else if c = '\\' then valueFrom env out weak .escape cs
    else if c = '"' then valueFrom env out (!weak) .plain cs
    else if weak then valueFrom env (out ++ [c]) weak .plain cs
    else if c = '\x27' then valueFrom env out weak .strong cs
    else if c = ' ' ∨ c = '\t' then valueFrom env out weak .after cs
    else valueFrom env (out ++ [c]) weak .plain cs

def isNameChar (c : Char) : Bool :=
  c.isAlphanum || c = '_' || c = '.'

def readName (cs : List Char) : Option (List Char × List Char) :=
  match cs with
  | [] => none
  | c :: _ =>
    if c.isAlpha ∨ c = '_' then some (cs.takeWhile isNameChar, Text.trimLeft (cs.dropWhile isNameChar))
    else none

def dropEqual : List Char → Option (List Char)
  | '=' :: cs => some cs
  | _ => none

/-- The word `export` may stand before a name; before `=` it is a name itself. -/
def readHead (cs : List Char) : Option (List Char × List Char) := do
  let (name, rest) ← readName cs
  match dropEqual rest with
  | some rest => return (name, rest)
  | none =>
    guard (name = "export".toList)
    let (name, rest) ← readName rest
    return (name, ← dropEqual rest)

inductive Entry where
  | blank
  | broken
  | variable (name value : String)
  deriving DecidableEq, Repr

def isVoid (cs : List Char) : Bool :=
  cs.head?.all (· = '#')

def readEntry (env : Environment) (cs : List Char) : Entry :=
  let cs := Text.trim cs
  if isVoid cs then .blank
  else match readHead cs with
    | none => .broken
    | some (name, rest) =>
      let rest := Text.trimLeft rest
      if isVoid rest then .variable (String.ofList name) ""
      else match valueFrom env [] false .plain rest with
        | none => .broken
        | some value => .variable (String.ofList name) (String.ofList value)

def absorb (env : Environment) : List (Option (List Char)) → Environment × Bool
  | [] => (env, true)
  | none :: _ => (env, false)
  | some cs :: rest =>
    match readEntry env cs with
    | .blank => absorb env rest
    | .broken => (env, false)
    | .variable name value => absorb (env.provide name value) rest

def load (env : Environment) (text : String) : Environment × Bool :=
  absorb env (entries (match text.toList with
    | '\ufeff' :: cs => cs
    | cs => cs))

/-- The nearest file counts, and one further up too where the nearest is broken. -/
def prepare (env : Environment) (here above : Option String) : Environment :=
  match here.orElse fun () => above with
  | none => env
  | some text =>
    match load env text, above with
    | (env, false), some text => (load env text).1
    | (env, _), _ => env

end MarketTicker.Dotenv
