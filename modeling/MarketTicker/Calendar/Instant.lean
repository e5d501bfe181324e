import MarketTicker.Calendar.Scan
import MarketTicker.Text.Bytes

namespace MarketTicker

structure Instant where
  date : Date
  clock : Clock
  nano : Nat
  nano_lt : nano < 1000000000
  deriving DecidableEq

namespace Instant

open Calendar

def ofEpochSecond? (n : Nat) : Option Instant :=
  (Date.ofDayNumber? (n / 86400)).map fun date => ⟨date, Clock.ofSecond (n % 86400), 0, by decide⟩

/-- The fraction has no digits, or three, six or nine. -/
def spellFraction (nano : Nat) : List Char :=
  if nano = 0 then []
  else if nano % 1000000 = 0 then '.' :: Text.padded 3 (nano / 1000000)
  else if nano % 1000 = 0 then '.' :: Text.padded 6 (nano / 1000)
  else '.' :: Text.padded 9 nano

def spell (t : Instant) : List Char :=
  spellDate t.date ++ 'T' :: spellClock t.clock ++ spellFraction t.nano ++ ['Z']

def text (t : Instant) : String :=
  String.ofList t.spell

/-- Digits past the ninth are dropped. -/
def fraction : Scan Nat
  | '.' :: rest => do
    let (n, after) ← number 9 rest
    let used := rest.length - after.length
    .ok (n * Nat.pow 10 (9 - used), after.dropWhile Text.isDigit)
  | s => .ok (0, s)

def separator : Scan Unit
  | [] => .error .tooShort
  | c :: rest => if c = 't' ∨ c = 'T' ∨ c = ' ' then .ok ((), rest) else .error .invalid

def sign : Scan Bool
  | [] => .error .tooShort
  | c :: rest =>
    if c = '+' then .ok (false, rest)
    else if c = '-' ∨ c = '−' then .ok (true, rest)
    else .error .invalid

def offsetHours : Scan Nat := fun s =>
  if Text.byteLength s < 2 then .error .tooShort
  else match s with
    | a :: b :: rest =>
      if Text.isDigit a ∧ Text.isDigit b then .ok (10 * Text.digitValue a + Text.digitValue b, rest)
      else .error .invalid
    | _ => .error .invalid

def offsetMinutes : Scan Nat := fun s =>
  if Text.byteLength s < 2 then .error .tooShort
  else match s with
    | a :: b :: rest =>
      if Text.isDigit a ∧ Text.isDigit b then
        if Text.digitValue a < 6 then .ok (10 * Text.digitValue a + Text.digitValue b, rest)
        else .error .outOfRange
      else .error .invalid
    | _ => .error .invalid

def isColonOrBlank (c : Char) : Bool :=
  c = ':' || Text.isBlank c

/-- Minutes east of universal time. -/
def offset : Scan Int := fun s =>
  match s with
  | 'Z' :: rest => .ok (0, rest)
  | 'z' :: rest => .ok (0, rest)
  | a :: b :: c :: rest =>
    if (a = 'U' ∨ a = 'u') ∧ (b = 'T' ∨ b = 't') ∧ (c = 'C' ∨ c = 'c') then .ok (0, rest)
    else signedOffset s
  | _ => signedOffset s
where
  signedOffset : Scan Int := do
    let negative ← sign
    let hours ← offsetHours
    modify (·.dropWhile isColonOrBlank)
    let minutes ← offsetMinutes
    let total : Int := (hours * 60 + minutes : Nat)
    return if negative then -total else total

/-- The same moment with its date and time of day moved back by an offset of less than a day. -/
def minus (date : Date) (clock : Clock) (offset : Int) : Except Fault (Date × Clock) :=
  let minutes : Int := (clock.hour * 60 + clock.minute : Nat) - offset
  let day? := if minutes < 0 then date.prev? else if 1440 ≤ minutes then date.next? else some date
  let rest := (minutes % 1440).toNat
  match day?, Clock.make? (rest / 60) (rest % 60) clock.second with
  | some date, some clock => .ok (date, clock)
  | _, _ => .error .impossible

structure Fields where
  date : DateFields
  clock : ClockFields
  nano : Nat
  offset : Int

def fields : Scan Fields := do
  let date ← dateFields true
  separator
  let clock ← clockFields true
  let nano ← fraction
  skipBlanks
  let offset ← offset
  return ⟨date, clock, nano, offset⟩

def read (cs : List Char) : Except Fault Instant := do
  let (f, rest) ← fields cs
  if Text.trimLeft rest ≠ [] then .error .tooLong
  else
    let date ← f.date.date
    let clock ← f.clock.clock
    if f.offset.natAbs < 1440 then
      let (date, clock) ← minus date clock f.offset
      if h : f.nano < 1000000000 then .ok ⟨date, clock, f.nano, h⟩ else .error .outOfRange
    else .error .outOfRange

end Instant

end MarketTicker
