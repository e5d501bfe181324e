import MarketTicker.Number.Decimal

namespace MarketTicker.Decimal

def signed (negative : Bool) (n : Nat) : Int :=
  if negative then -(n : Int) else n

/-- Rounds the digits read so far on the character after them: five and up rounds up, and an
underscore or a first point counts as a zero. Nothing after that character is read. -/
def roundOn (negative : Bool) (n scale : Nat) (point : Bool) (c : Char) : Option Decimal :=
  if Text.isDigit c ∨ c = '_' ∨ (c = '.' ∧ !point) then
    if !Text.isDigit c ∨ Text.digitValue c < 5 then make? (signed negative n) scale
    else if n + 1 < 0x1000000000000000000000000 then make? (signed negative (n + 1)) scale
    else if scale = 0 then none
    else make? (signed negative ((n + 5) / 10)) (scale - 1)
  else none

/-- From here on an underscore after the last place is passed over. -/
def wideFrom : Nat :=
  1844674407370954906

def readDigits (negative : Bool) (n scale : Nat) (point some? : Bool) : List Char → Option Decimal
  | [] => if some? then make? (signed negative n) scale else none
  | c :: rest =>
    if point ∧ 28 ≤ scale then
      if c = '_' ∧ wideFrom ≤ n then readDigits negative n scale point some? rest
      else roundOn negative n scale point c
    else if Text.isDigit c then
      let n' := 10 * n + Text.digitValue c
      if n' < 0x1000000000000000000000000 then readDigits negative n' (if point then scale + 1 else scale) point true rest
      else if point then roundOn negative n scale point c
      else none
    else if c = '.' ∧ !point then readDigits negative n scale true some? rest
    else if c = '_' ∧ some? then readDigits negative n scale point some? rest
    else none

def readPlain : List Char → Option Decimal
  | '-' :: rest => readDigits true 0 0 false false rest
  | '+' :: rest => readDigits false 0 0 false false rest
  | cs => readDigits false 0 0 false false cs

def raise (d : Decimal) (e : Nat) : Option Decimal :=
  if e ≤ d.scale then make? d.coefficient (d.scale - e)
  else if e ≤ 28 then make? (d.coefficient * (Nat.pow 10 (e - d.scale) : Nat)) 0
  else none

def lowerBy (d : Decimal) (e : Nat) : Option Decimal :=
  if e ≤ 28 then make? d.coefficient (d.scale + e) else none

def readExponent (d : Decimal) : List Char → Option Decimal
  | '-' :: rest => (Text.readBounded 0xFFFFFFFF rest).bind d.lowerBy
  | '+' :: rest => (Text.readBounded 0xFFFFFFFF rest).bind d.raise
  | cs => (Text.readBounded 0xFFFFFFFF cs).bind d.raise

def isExponentMark (c : Char) : Bool :=
  c = 'e' || c = 'E'

def readScientific (cs : List Char) : Option Decimal :=
  match cs.dropWhile (!isExponentMark ·) with
  | [] => none
  | _ :: exponent => (readPlain (cs.takeWhile (!isExponentMark ·))).bind (readExponent · exponent)

def read (cs : List Char) : Option Decimal :=
  (readPlain cs).orElse fun _ => readScientific cs

end MarketTicker.Decimal
