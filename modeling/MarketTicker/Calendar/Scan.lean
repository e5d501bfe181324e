import MarketTicker.Text.Blank
import MarketTicker.Text.Numeral
import MarketTicker.Calendar.Date

namespace MarketTicker.Calendar

inductive Fault where
  | invalid
  | outOfRange
  | tooShort
  | tooLong
  | impossible
  deriving DecidableEq, Repr

def Fault.message : Fault → String
  | .invalid => "input contains invalid characters"
  | .outOfRange => "input is out of range"
  | .tooShort => "premature end of input"
  | .tooLong => "trailing input"
  | .impossible => "no possible date and time matching input"

abbrev Scan (α : Type) := StateT (List Char) (Except Fault) α

def fail {α : Type} (fault : Fault) : Scan α :=
  fun _ => .error fault

/-- One up to `max` digits. Numbers past 64 bits with sign are out of range. -/
def number (max : Nat) : Scan Nat := fun s =>
  let ds := (s.take max).takeWhile Text.isDigit
  match s, ds with
  | [], _ => .error .tooShort
  | _, [] => .error .invalid
  | _, _ => if Text.valueOf ds < 0x8000000000000000 then .ok (Text.valueOf ds, s.drop ds.length) else .error .outOfRange

def skipBlanks : Scan Unit := fun s =>
  .ok ((), Text.trimLeft s)

def field (max : Nat) : Scan Nat := do
  skipBlanks
  number max

def literal (c : Char) : Scan Unit
  | [] => .error .tooShort
  | d :: rest => if d = c then .ok ((), rest) else .error .invalid

/-- A year without a sign has at most four digits. -/
def yearNumber : Scan Int := do
  skipBlanks
  fun s => match s with
    | '-' :: rest => (number rest.length |>.map fun n => -(n : Int)) rest
    | '+' :: rest => (number rest.length |>.map fun n => (n : Int)) rest
    | _ => (number 4 |>.map fun n => (n : Int)) s

def within (low high : Int) (n : Int) : Scan Unit :=
  if low ≤ n ∧ n ≤ high then pure () else fail .outOfRange

def year : Scan Int := do
  let y ← yearNumber
  within (-2147483648) 2147483647 y
  return y

def bounded (low high : Nat) : Scan Nat := do
  let n ← field 2
  within low high n
  return n

structure DateFields where
  year : Int
  month : Nat
  day : Nat

/-- A mark between two numbers; a `loose` one may have blanks before it. -/
def mark (loose : Bool) (c : Char) : Scan Unit := do
  if loose then skipBlanks
  literal c

def dateFields (loose : Bool) : Scan DateFields := do
  let year ← year
  mark loose '-'
  let month ← bounded 1 12
  mark loose '-'
  let day ← bounded 1 31
  return ⟨year, month, day⟩

structure ClockFields where
  hour : Nat
  minute : Nat
  second : Nat

def clockFields (loose : Bool) : Scan ClockFields := do
  let hour ← bounded 0 23
  mark loose ':'
  let minute ← bounded 0 59
  mark loose ':'
  let second ← bounded 0 60
  return ⟨hour, minute, second⟩

def DateFields.date (f : DateFields) : Except Fault Date :=
  match Date.make? f.year f.month f.day with
  | some d => .ok d
  | none => .error .outOfRange

def ClockFields.clock (f : ClockFields) : Except Fault Clock :=
  match Clock.make? f.hour f.minute f.second with
  | some c => .ok c
  | none => .error .outOfRange

/-- Four digits from year 0 to 9999, else a sign and at least four digits. -/
def spellYear (y : Int) : List Char :=
  if 0 ≤ y ∧ y ≤ 9999 then Text.padded 4 y.natAbs
  else (if y < 0 then '-' else '+') :: Text.padded 4 y.natAbs

def spellDate (d : Date) : List Char :=
  spellYear d.year ++ '-' :: Text.padded 2 d.month ++ '-' :: Text.padded 2 d.day

def spellClock (c : Clock) : List Char :=
  Text.padded 2 c.hour ++ ':' :: Text.padded 2 c.minute ++ ':' :: Text.padded 2 c.second

end MarketTicker.Calendar
