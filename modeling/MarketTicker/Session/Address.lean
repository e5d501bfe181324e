namespace MarketTicker

/-- Where a connection leads. An address that is a path alone names no authority. -/
structure Address where
  scheme : Option String
  authority : String
  deriving DecidableEq, Repr

namespace Address

inductive Fault where
  | empty
  | tooLong
  | schemeTooLong
  | badCharacter
  | badFormat
  | badAuthority
  deriving DecidableEq, Repr

def Fault.message : Fault → String
  | .empty => "empty string"
  | .tooLong => "uri too long"
  | .schemeTooLong => "scheme too long"
  | .badCharacter => "invalid uri character"
  | .badFormat => "invalid format"
  | .badAuthority => "invalid authority"

def sizeLimit : Nat :=
  65534

def schemeLimit : Nat :=
  64

def isSchemeChar (c : Char) : Bool :=
  c.isAlphanum || "+-.~".toList.contains c

def splitScheme (cs : List Char) : Option (List Char × List Char) :=
  let name := cs.takeWhile isSchemeChar
  match cs.drop name.length with
  | ':' :: '/' :: '/' :: rest => some (name, rest)
  | _ => none

def endsAuthority (c : Char) : Bool :=
  "/?#".toList.contains c

def isAuthorityChar (c : Char) : Bool :=
  c.isAlphanum || "!$&'()*+,-.;=_~".toList.contains c

/-- What was seen of an authority. A bracket or an `@` makes what came before it no port. -/
structure Scan where
  colons : Nat
  opened : Bool
  closed : Bool
  percent : Bool
  deriving DecidableEq, Repr

namespace Scan

def start : Scan :=
  ⟨0, false, false, false⟩

def step (s : Scan) (c : Char) : Except Fault Scan :=
  if c = ':' then
    if 8 ≤ s.colons then .error .badAuthority else .ok { s with colons := s.colons + 1 }
  else if c = '[' then
    if s.percent || s.opened then .error .badAuthority else .ok { s with opened := true }
  else if c = ']' then
    if !s.opened || s.closed then .error .badAuthority
    else .ok { s with closed := true, colons := 0, percent := false }
  else if c = '@' then .ok { s with colons := 0, percent := false }
  else if c = '%' then .ok { s with percent := true }
  else if isAuthorityChar c then .ok s
  else .error .badCharacter

def sound (s : Scan) : Bool :=
  s.opened == s.closed && decide (s.colons ≤ 1) && !s.percent

end Scan

def checkAuthority (cs : List Char) : Except Fault Unit := do
  let s ← cs.foldlM Scan.step .start
  if s.sound && cs.getLast? ≠ some '@' then return () else throw .badAuthority

def isPathChar (c : Char) : Bool :=
  decide (' ' < c) && !"<>\x60".toList.contains c

def isQueryChar (c : Char) : Bool :=
  decide (' ' < c) && !"<>\"".toList.contains c

def checkTarget (cs : List Char) : Except Fault Unit :=
  let seen := cs.takeWhile (· ≠ '#')
  let path := seen.takeWhile (· ≠ '?')
  if path.all isPathChar && (seen.drop path.length).all isQueryChar then .ok () else .error .badCharacter

def readAbsolute (scheme rest : List Char) : Except Fault Address := do
  if schemeLimit < scheme.length then throw .schemeTooLong
  if rest.isEmpty then throw .empty
  let authority := rest.takeWhile (!endsAuthority ·)
  checkAuthority authority
  if authority.isEmpty then throw .badFormat
  checkTarget (rest.drop authority.length)
  return ⟨some (String.ofList scheme), String.ofList authority⟩

def readAuthority (cs : List Char) : Except Fault Address := do
  let authority := cs.takeWhile (!endsAuthority ·)
  checkAuthority authority
  if authority = cs then return ⟨none, String.ofList cs⟩
  throw (if cs.length = 1 then .badCharacter else .badFormat)

def read (s : String) : Except Fault Address :=
  if sizeLimit < s.utf8ByteSize then .error .tooLong
  else match s.toList with
    | [] => .error .empty
    | ['*'] => .ok ⟨none, ""⟩
    | '/' :: rest => (checkTarget ('/' :: rest)).map fun () => ⟨none, ""⟩
    | cs => match splitScheme cs with
      | some (scheme, rest) => readAbsolute scheme rest
      | none => readAuthority cs

end Address

end MarketTicker
