import MarketTicker.Calendar.Instant
import MarketTicker.Calendar.Stamp
import MarketTicker.Json.Record
import MarketTicker.Number.Spelling

namespace MarketTicker.Json

structure Shape (α : Type) where
  read : Reader α
  pick : Value → Except Fault α
  write : α → List Char

def writeWord32 (w : UInt32) : List Char :=
  Text.numeral w.toNat

def pickText : Value → Except Fault String
  | .text s => .ok s
  | v => .error (.invalidType v.found "a string")

def textShape : Shape String :=
  ⟨textAs "a string", pickText, writeText⟩

def pickOptional {α : Type} (pick : Value → Except Fault α) : Value → Except Fault (Option α)
  | .null => .ok none
  | v => some <$> pick v

def optionalShape {α : Type} (shape : Shape α) : Shape (Option α) :=
  ⟨optional shape.read, pickOptional shape.pick, writeOption shape.write⟩

/-- `null` stands for the default. -/
def lenientShape {α : Type} (default : α) (shape : Shape α) : Shape α :=
  ⟨(·.getD default) <$> optional shape.read, fun v => (·.getD default) <$> pickOptional shape.pick v, shape.write⟩

def pickInteger (low high : Int) (expected : String) : Value → Except Fault Int
  | .number n => intoRange low high expected n
  | v => .error (.invalidType v.found expected)

def word32Shape : Shape UInt32 :=
  ⟨word32, fun v => (fun n => .ofNat n.toNat) <$> pickInteger 0 4294967295 "u32" v, writeWord32⟩

def int32Shape : Shape Int32 :=
  ⟨int32, fun v => (fun n => .ofInt n) <$> pickInteger (-2147483648) 2147483647 "i32" v,
    fun n => Text.integral n.toInt⟩

def decimalExpected : String :=
  "a Decimal type representing a fixed-point number"

/-- A number that is not whole counts by its shortest digits. -/
def decimalOfNumber (n : Number) : Except Fault Decimal :=
  let decimal? := match n with
    | .whole k => Decimal.make? k 0
    | .real negative x => Decimal.readPlain ((if negative then ['-'] else []) ++ x.plain)
  match decimal? with
  | some d => .ok d
  | none => .error (.invalidValue (.number n) decimalExpected)

def decimalOfText (s : String) : Except Fault Decimal :=
  match Decimal.read s.toList with
  | some d => .ok d
  | none => .error (.invalidValue (.text s) decimalExpected)

def readDecimal : Reader Decimal :=
  onNext fun c =>
    if c = '"' then do
      .lift (decimalOfText (← text))
    else if c = '-' ∨ Text.isDigit c then do
      .lift (decimalOfNumber (← number))
    else mismatch decimalExpected

def pickDecimal : Value → Except Fault Decimal
  | .text s => decimalOfText s
  | .number n => decimalOfNumber n
  | v => .error (.invalidType v.found decimalExpected)

def writeDecimal (d : Decimal) : List Char :=
  '"' :: d.spell ++ ['"']

def decimalShape : Shape Decimal :=
  ⟨readDecimal, pickDecimal, writeDecimal⟩

/-- Blanks around the time do not count, and nothing at all is no time. -/
def stampOfText (s : Option String) : Except Fault (Option Stamp) :=
  match s with
  | none => .ok none
  | some s =>
    let cs := Text.trim s.toList
    if cs = [] then .ok none
    else match Stamp.read cs with
      | .ok t => .ok (some t)
      | .error e => .error (.calendar e)

def stampShape : Shape (Option Stamp) where
  read := do
    .lift (stampOfText (← optional textShape.read))
  pick v := do
    stampOfText (← pickOptional pickText v)
  write := writeOption fun t => '"' :: t.spell ++ ['"']

def instantOfText (s : String) : Except Fault Instant :=
  match Instant.read s.toList with
  | .ok t => .ok t
  | .error e => .error (.calendar e)

def readInstant : Reader Instant := do
  .lift (instantOfText (← textAs "an RFC 3339 formatted date and time string"))

def writeInstant (t : Instant) : List Char :=
  '"' :: t.spell ++ ['"']

end MarketTicker.Json
