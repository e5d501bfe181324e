import MarketTicker.Number.Binary64
import MarketTicker.Text.Numeral

namespace MarketTicker.Binary64

structure Digits where
  digits : Nat
  exponent : Int
  deriving DecidableEq, Repr

/-- The numbers that round to `x`, from `low` to `high` in units of `2 ^ (x.exponent - 2)`. -/
def low (x : Binary64) : Nat :=
  4 * x.significand - if x.significand = 0x10000000000000 ∧ -1074 < x.exponent then 1 else 2

def high (x : Binary64) : Nat :=
  4 * x.significand + 2

def Digits.compareTo (d : Digits) (x : Binary64) (n : Nat) : Ordering :=
  let tens (e : Int) : Nat := Nat.pow 10 e.toNat
  let twos (e : Int) : Nat := Nat.pow 2 e.toNat
  compare (d.digits * tens d.exponent * twos (2 - x.exponent)) (n * twos (x.exponent - 2) * tens (-d.exponent))

/-- Whether `d` rounds to `x`: the ends of the interval do so when the significand is even. -/
def Digits.roundsTo (d : Digits) (x : Binary64) : Bool :=
  match d.compareTo x x.low, d.compareTo x x.high with
  | .gt, .lt => true
  | .eq, _ => x.significand % 2 = 0
  | _, .eq => x.significand % 2 = 0
  | _, _ => false

def leading (x : Binary64) : Int :=
  let (n, d) := x.toRatio
  (Text.numeral (n * Nat.pow 10 400 / d)).length - 401

def below (x : Binary64) (exponent : Int) : Digits :=
  let (n, d) := x.toRatio
  ⟨n * Nat.pow 10 (-exponent).toNat / (d * Nat.pow 10 exponent.toNat), exponent⟩

/-- Whether the upper of two neighbours is the nearer; of two equally near the even one counts. -/
def upperNearer (x : Binary64) (d : Digits) : Bool :=
  match (Digits.mk (2 * d.digits + 1) d.exponent).compareTo x (8 * x.significand) with
  | .lt => true
  | .eq => d.digits % 2 = 1
  | .gt => false

def onGrid (x : Binary64) (exponent : Int) : Option Digits :=
  let d := x.below exponent
  let u : Digits := ⟨d.digits + 1, exponent⟩
  match d.roundsTo x, u.roundsTo x with
  | true, true => some (if x.upperNearer d then u else d)
  | true, false => some d
  | false, true => some u
  | false, false => none

/-- The first of the grids of 1, 2, … digits that has a number which rounds to `x`. -/
def shortestFrom (x : Binary64) (exponent : Int) : Nat → Digits
  | 0 => x.below exponent
  | n + 1 => match x.onGrid exponent with
    | some d => d
    | none => shortestFrom x (exponent - 1) n

def Digits.carried (d : Digits) : Digits :=
  if d.digits = 10 then ⟨1, d.exponent + 1⟩ else d

def shortest (x : Binary64) : Digits :=
  if x.significand = 0 then ⟨0, 0⟩ else (shortestFrom x x.leading 17).carried

def plain (x : Binary64) : List Char :=
  let d := x.shortest
  if 0 ≤ d.exponent then Text.numeral (d.digits * Nat.pow 10 d.exponent.toNat)
  else
    let places := (-d.exponent).toNat
    let ds := Text.padded (places + 1) d.digits
    ds.take (ds.length - places) ++ '.' :: ds.drop (ds.length - places)

def scientific (x : Binary64) : List Char :=
  let d := x.shortest
  let ds := Text.numeral d.digits
  let e : Int := d.exponent + ds.length - 1
  let mantissa := match ds with
    | first :: rest => if rest = [] then [first] else first :: '.' :: rest
    | [] => []
  mantissa ++ 'e' :: (if e < 0 then '-' else '+') :: Text.numeral e.natAbs

/-- Plain with at least one decimal from 1e-5 up to 1e16, and scientific outside. -/
def text (x : Binary64) : List Char :=
  let d := x.shortest
  let e : Int := d.exponent + (Text.numeral d.digits).length - 1
  if x.significand = 0 then ['0', '.', '0']
  else if -5 ≤ e ∧ e < 16 then
    if 0 ≤ d.exponent then x.plain ++ ['.', '0'] else x.plain
  else x.scientific

end MarketTicker.Binary64
