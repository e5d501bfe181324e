import MarketTicker.Json.Reader
import MarketTicker.Text.Bytes

namespace MarketTicker.Json

def hexValue? (c : Char) : Option Nat :=
  if '0' ≤ c ∧ c ≤ '9' then some (c.toNat - 48)
  else if 'a' ≤ c ∧ c ≤ 'f' then some (c.toNat - 87)
  else if 'A' ≤ c ∧ c ≤ 'F' then some (c.toNat - 55)
  else none

def hexQuad? (a b c d : Char) : Option Nat := do
  return ((← hexValue? a) * 16 + (← hexValue? b)) * 256 + (← hexValue? c) * 16 + (← hexValue? d)

/-- Four hexadecimal digits, of a text that has at least four more bytes. -/
def hexQuad : Reader Nat := fun s =>
  match s with
  | a :: b :: c :: d :: rest =>
    match hexQuad? a b c d with
    | some n => .ok ⟨n, rest, by simp only [List.length_cons]; omega⟩
    | none => .error .invalidEscape
  | _ => if Text.byteLength s < 4 then .error .endOfString else .error .invalidEscape

def simpleEscape? : Char → Option Char
  | '"' => some '"'
  | '\\' => some '\\'
  | '/' => some '/'
  | 'b' => some '\x08'
  | 'f' => some '\x0c'
  | 'n' => some '\n'
  | 'r' => some '\r'
  | 't' => some '\t'
  | _ => none

def isHighSurrogate (n : Nat) : Bool :=
  0xD800 ≤ n && n ≤ 0xDBFF

def isLowSurrogate (n : Nat) : Bool :=
  0xDC00 ≤ n && n ≤ 0xDFFF

def escapePart (c : Char) : Reader Unit := do
  match ← peek with
  | none => .fail .endOfString
  | some d => if d = c then advance else .fail .endOfHexEscape

/-- After `\u`: two surrogates make one character, and none may stand alone. -/
def unicodeEscape : Reader Char := do
  let n ← hexQuad
  if isLowSurrogate n then .fail .loneSurrogate
  else if isHighSurrogate n then
    escapePart '\\'
    escapePart 'u'
    let low ← hexQuad
    if isLowSurrogate low then return Char.ofNat (0x10000 + (n - 0xD800) * 0x400 + (low - 0xDC00))
    else .fail .loneSurrogate
  else return Char.ofNat n

def escape : Reader Char := do
  match ← peek with
  | none => .fail .endOfString
  | some c =>
    advance
    match simpleEscape? c with
    | some d => return d
    | none => if c = 'u' then unicodeEscape else .fail .invalidEscape

def chars (s : List Char) : Except Fault (Taken (List Char) s) :=
  match s with
  | [] => .error .endOfString
  | c :: r =>
    if c = '"' then .ok ⟨[], r, Nat.le_succ _⟩
    else if c = '\\' then
      match escape r with
      | .error e => .error e
      | .ok t => (chars t.rest).map (·.cons t.value (Nat.le_succ_of_le t.rest_le))
    else if c.toNat < 0x20 then .error .controlCharacter
    else (chars r).map (·.cons c (Nat.le_succ _))
  termination_by s.length
  decreasing_by
    all_goals simp only [List.length_cons]
    · have := t.rest_le; omega
    · omega

def text : Reader String := do
  advance
  return String.ofList (← chars)

def skipEscape : Reader Unit := do
  match ← peek with
  | none => .fail .endOfString
  | some c =>
    advance
    match simpleEscape? c with
    | some _ => return ()
    | none =>
      if c = 'u' then
        let _ ← hexQuad
      else .fail .invalidEscape

/-- Passes over a string, where surrogates are not looked at. -/
def skipChars (s : List Char) : Except Fault (Taken Unit s) :=
  match s with
  | [] => .error .endOfString
  | c :: r =>
    if c = '"' then .ok ⟨(), r, Nat.le_succ _⟩
    else if c = '\\' then
      match skipEscape r with
      | .error e => .error e
      | .ok t => (skipChars t.rest).map (·.after (Nat.le_succ_of_le t.rest_le))
    else if c.toNat < 0x20 then .error .controlCharacter
    else (skipChars r).map (·.after (Nat.le_succ _))
  termination_by s.length
  decreasing_by
    all_goals simp only [List.length_cons]
    · have := t.rest_le; omega
    · omega

def writeChar (c : Char) : List Char :=
  if c = '"' then ['\\', '"']
  else if c = '\\' then ['\\', '\\']
  else if c = '\n' then ['\\', 'n']
  else if c = '\r' then ['\\', 'r']
  else if c = '\t' then ['\\', 't']
  else if c = '\x08' then ['\\', 'b']
  else if c = '\x0c' then ['\\', 'f']
  else if c.toNat < 0x20 then ['\\', 'u', '0', '0', Text.hexDigit (c.toNat / 16), Text.hexDigit (c.toNat % 16)]
  else [c]

def writeText (s : String) : List Char :=
  '"' :: s.toList.flatMap writeChar ++ ['"']

end MarketTicker.Json
