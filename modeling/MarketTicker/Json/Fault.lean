import MarketTicker.Calendar.Scan
import MarketTicker.Number.Shortest
import MarketTicker.Text.Quoted

namespace MarketTicker.Json

/-- A whole number is kept exactly while it fits 64 bits. -/
inductive Number where
  | whole (n : Int)
  | real (negative : Bool) (magnitude : Binary64)
  deriving DecidableEq, Repr

def Number.spell : Number → List Char
  | .whole n => Text.integral n
  | .real negative x => (if negative then ['-'] else []) ++ x.text

inductive Found where
  | null
  | boolean (b : Bool)
  | number (n : Number)
  | text (s : String)
  | sequence
  | map
  deriving DecidableEq, Repr

def inBackticks (s : String) : String :=
  "\x60" ++ s ++ "\x60"

def Found.describe : Found → String
  | .null => "null"
  | .boolean b => "boolean " ++ inBackticks (if b then "true" else "false")
  | .number (.whole n) => "integer " ++ inBackticks (String.ofList (Text.integral n))
  | .number n => "floating point " ++ inBackticks (String.ofList n.spell)
  | .text s => "string " ++ Text.quoted s
  | .sequence => "sequence"
  | .map => "map"

inductive Fault where
  | endOfValue
  | endOfList
  | endOfObject
  | endOfString
  | expectedColon
  | expectedListCommaOrEnd
  | expectedObjectCommaOrEnd
  | expectedIdent
  | expectedValue
  | invalidEscape
  | invalidNumber
  | numberOutOfRange
  | controlCharacter
  | keyMustBeText
  | loneSurrogate
  | endOfHexEscape
  | trailingComma
  | trailingCharacters
  | recursionLimit
  | invalidType (found : Found) (expected : String)
  | invalidValue (found : Found) (expected : String)
  | invalidLength (length : Nat) (expected : String)
  | missingField (name : String)
  | duplicateField (name : String)
  | unknownVariant (name : String) (known : List String)
  | calendar (fault : Calendar.Fault)
  deriving DecidableEq, Repr

def Fault.message : Fault → String
  | .endOfValue => "EOF while parsing a value"
  | .endOfList => "EOF while parsing a list"
  | .endOfObject => "EOF while parsing an object"
  | .endOfString => "EOF while parsing a string"
  | .expectedColon => "expected " ++ inBackticks ":"
  | .expectedListCommaOrEnd => "expected " ++ inBackticks "," ++ " or " ++ inBackticks "]"
  | .expectedObjectCommaOrEnd => "expected " ++ inBackticks "," ++ " or " ++ inBackticks "\x7d"
  | .expectedIdent => "expected ident"
  | .expectedValue => "expected value"
  | .invalidEscape => "invalid escape"
  | .invalidNumber => "invalid number"
  | .numberOutOfRange => "number out of range"
  | .controlCharacter => "control character (\\u0000-\\u001F) found while parsing a string"
  | .keyMustBeText => "key must be a string"
  | .loneSurrogate => "lone leading surrogate in hex escape"
  | .endOfHexEscape => "unexpected end of hex escape"
  | .trailingComma => "trailing comma"
  | .trailingCharacters => "trailing characters"
  | .recursionLimit => "recursion limit exceeded"
  | .invalidType found expected => "invalid type: " ++ found.describe ++ ", expected " ++ expected
  | .invalidValue found expected => "invalid value: " ++ found.describe ++ ", expected " ++ expected
  | .invalidLength n expected => s!"invalid length {n}, expected " ++ expected
  | .missingField name => "missing field " ++ inBackticks name
  | .duplicateField name => "duplicate field " ++ inBackticks name
  | .unknownVariant name known =>
    "unknown variant " ++ inBackticks name ++ ", expected one of " ++
      String.intercalate ", " (known.map inBackticks)
  | .calendar fault => fault.message

end MarketTicker.Json
