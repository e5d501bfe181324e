import MarketTicker.Json.Reader

namespace MarketTicker.Json

def wordMax : Nat :=
  18446744073709551615

/-- The value of as many digits as fit a word, and how many more there are. -/
def gatherWhole (n : Nat) : List Char → Nat × Nat
  | [] => (n, 0)
  | c :: cs =>
    let n' := 10 * n + Text.digitValue c
    if n' ≤ wordMax then gatherWhole n' cs else (n, cs.length + 1)

def gatherDecimals (n places : Nat) : List Char → Nat × Nat
  | [] => (n, places)
  | c :: cs =>
    let n' := 10 * n + Text.digitValue c
    if n' ≤ wordMax then gatherDecimals n' (places + 1) cs else (n, places)

def isDigitOpt : Option Char → Bool
  | some c => Text.isDigit c
  | none => false

def digits : Reader (List Char) := fun s =>
  .ok ⟨s.takeWhile Text.isDigit, s.dropWhile Text.isDigit, (List.dropWhile_suffix _).length_le⟩

def wholeDigits : Reader (List Char) := do
  match ← peek with
  | none => .fail .endOfValue
  | some '0' =>
    advance
    if isDigitOpt (← peek) then .fail .invalidNumber else return ['0']
  | some c => if Text.isDigit c then digits else .fail .invalidNumber

def decimals : Reader (List Char) := do
  advance
  match ← peek with
  | none => .fail .endOfValue
  | some c => if Text.isDigit c then digits else .fail .invalidNumber

def exponentSign : Reader Bool := do
  match ← peek with
  | some '+' =>
    advance
    return false
  | some '-' =>
    advance
    return true
  | _ => return false

def exponentPart : Reader (Bool × List Char) := do
  advance
  let negative ← exponentSign
  match ← peek with
  | none => .fail .endOfValue
  | some c => if Text.isDigit c then return (negative, ← digits) else .fail .invalidNumber

def realNumber (negative : Bool) (n : Nat) (exponent : Int) : Except Fault Number :=
  match Binary64.ofDecimal n exponent with
  | some x => .ok (.real negative x)
  | none => .error .numberOutOfRange

/-- An exponent past 31 bits makes the number zero or too large without a further look. -/
def withExponent (negative : Bool) (n : Nat) (shift : Int) (exponent : Bool × List Char) : Except Fault Number :=
  let e := Text.valueOf exponent.2
  if e ≤ 2147483647 then realNumber negative n (if exponent.1 then shift - e else shift + e)
  else if n ≠ 0 ∧ !exponent.1 then .error .numberOutOfRange
  else .ok (.real negative .zero)

/-- A number too long for a word, and minus zero, are no longer whole. -/
def wholeNumber (negative : Bool) (n extra : Nat) : Except Fault Number :=
  if extra ≠ 0 then realNumber negative n extra
  else if !negative then .ok (.whole n)
  else if 1 ≤ n ∧ n ≤ 0x8000000000000000 then .ok (.whole (-n))
  else realNumber negative n 0

def isExponentMark (c : Char) : Bool :=
  c = 'e' || c = 'E'

def optionalExponent (negative : Bool) (n : Nat) (shift : Int) : Reader (Option Number) := do
  match ← peek with
  | some c =>
    if isExponentMark c then
      let exponent ← exponentPart
      return some (← .lift (withExponent negative n shift exponent))
    else return none
  | none => return none

def unsignedNumber (negative : Bool) : Reader Number := do
  let (n, extra) := gatherWhole 0 (← wholeDigits)
  if (← peek) = some '.' then
    let (n, places) := gatherDecimals n 0 (← decimals)
    let shift : Int := extra - places
    match ← optionalExponent negative n shift with
    | some number => return number
    | none => .lift (realNumber negative n shift)
  else
    match ← optionalExponent negative n extra with
    | some number => return number
    | none => .lift (wholeNumber negative n extra)

def number : Reader Number := do
  if (← peek) = some '-' then
    advance
    unsignedNumber true
  else unsignedNumber false

def skipDigits : Reader Unit := do
  let _ ← digits

def someDigits : Reader Unit := do
  if isDigitOpt (← peek) then skipDigits else .fail .invalidNumber

def skipExponent : Reader Unit := do
  match ← peek with
  | some c =>
    if isExponentMark c then
      advance
      let _ ← exponentSign
      someDigits
    else return ()
  | none => return ()

def skipNumberAfter (c : Char) : Reader Unit := do
  if c = '0' then
    if isDigitOpt (← peek) then .fail .invalidNumber
  else skipDigits
  if (← peek) = some '.' then
    advance
    someDigits
  skipExponent

def skipUnsigned : Reader Unit := do
  match ← peek with
  | some c =>
    if Text.isDigit c then
      advance
      skipNumberAfter c
    else .fail .invalidNumber
  | none => .fail .invalidNumber

end MarketTicker.Json
