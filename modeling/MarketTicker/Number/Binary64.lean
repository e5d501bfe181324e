namespace MarketTicker

/-- A non-negative finite binary64 number `significand * 2 ^ exponent`. -/
structure Binary64 where
  significand : Nat
  exponent : Int
  deriving DecidableEq, Repr

namespace Binary64

def zero : Binary64 :=
  ⟨0, -1074⟩

def scaleRatio (num den : Nat) : Int → Nat × Nat
  | .ofNat e => (num, den * Nat.pow 2 e)
  | .negSucc e => (num * Nat.pow 2 (e + 1), den)

def roundDiv (num den : Nat) : Nat :=
  let q := num / den
  let r := num % den
  if 2 * r > den ∨ (2 * r = den ∧ q % 2 = 1) then q + 1 else q

/-- The exponent with which `num / den` has a significand of 53 bits, but never below the least. -/
def exponentOf (num den : Nat) : Int :=
  let guess : Int := (Nat.log2 num : Int) - Nat.log2 den - 52
  let ratio := scaleRatio num den guess
  max (-1074) (if ratio.1 / ratio.2 < 0x10000000000000 then guess - 1 else guess)

/-- The binary64 number nearest to `num / den`; `none` beyond the largest. -/
def ofRatio (num den : Nat) : Option Binary64 :=
  if num = 0 then some zero
  else
    let e := exponentOf num den
    let ratio := scaleRatio num den e
    let m := roundDiv ratio.1 ratio.2
    let (m, e) := if m = 0x20000000000000 then (0x10000000000000, e + 1) else (m, e)
    if e ≤ 971 then some ⟨m, e⟩ else none

def ofNat (n : Nat) : Option Binary64 :=
  ofRatio n 1

def toRatio (x : Binary64) : Nat × Nat :=
  match x.exponent with
  | .ofNat e => (x.significand * Nat.pow 2 e, 1)
  | .negSucc e => (x.significand, Nat.pow 2 (e + 1))

def mul (x y : Binary64) : Option Binary64 :=
  ofRatio (x.toRatio.1 * y.toRatio.1) (x.toRatio.2 * y.toRatio.2)

def div (x y : Binary64) : Option Binary64 :=
  ofRatio (x.toRatio.1 * y.toRatio.2) (x.toRatio.2 * y.toRatio.1)

def powerOfTen (e : Nat) : Option Binary64 :=
  ofNat (Nat.pow 10 e)

/-- `n * 10 ^ exponent`, as a whole number of up to 64 bits that is rounded once and then multiplied
or divided by a power of ten, which is rounded too; a power below the table is taken in steps of 308. -/
def ofDecimal (n : Nat) (exponent : Int) : Option Binary64 :=
  (ofNat n).bind fun x => steps x exponent
where
  steps (x : Binary64) (exponent : Int) : Option Binary64 :=
    if 0 ≤ exponent then
      if exponent ≤ 308 then (powerOfTen exponent.toNat).bind x.mul
      else if x.significand = 0 then some x
      else none
    else if -308 ≤ exponent then (powerOfTen (-exponent).toNat).bind x.div
    else if x.significand = 0 then some x
    else ((powerOfTen 308).bind x.div).bind fun y => steps y (exponent + 308)
  termination_by (-exponent).toNat
  decreasing_by omega

end Binary64

end MarketTicker
