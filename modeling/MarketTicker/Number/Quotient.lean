import MarketTicker.Number.Decimal

namespace MarketTicker

/-- A quotient under development: `(quotient + remainder / divisor) / 10 ^ scale`. -/
structure Development where
  quotient : Nat
  remainder : Nat
  scale : Nat
  quotient_lt : quotient < 0x1000000000000000000000000
  scale_le : scale ≤ 28

namespace Development

/-- The most places, at most nine, that the quotient can still take. -/
def room (d : Development) : Nat → Nat
  | 0 => 0
  | p + 1 => if d.quotient * Nat.pow 10 (p + 1) < 0x1000000000000000000000000 then p + 1 else room d p

theorem room_le (d : Development) (n : Nat) : d.room n ≤ n := by
  induction n with
  | zero => exact Nat.le_refl 0
  | succ p ih => rw [room]; split <;> omega

def places (d : Development) : Nat :=
  d.room (min 9 (28 - d.scale))

theorem places_le (d : Development) : d.scale + d.places ≤ 28 := by
  have := room_le d (min 9 (28 - d.scale))
  have := d.scale_le
  unfold places
  omega

/-- A half goes to the even neighbour; the rest that was left out before says whether it is a half. -/
def nearest (quotient rest unit : Nat) (more : Bool) : Nat :=
  if 2 * rest > unit ∨ (2 * rest = unit ∧ (more ∨ quotient % 2 = 1)) then quotient + 1 else quotient

def shorten (quotient scale : Nat) (more : Bool) : Nat × Nat :=
  (nearest (quotient / 10) (quotient % 10) 10 more, scale - 1)

/-- Rounds at the last place; a quotient that fills all its bits loses that place first. -/
def round (divisor : Nat) (d : Development) : Nat × Nat :=
  let q := nearest d.quotient d.remainder divisor false
  if q < 0x1000000000000000000000000 then (q, d.scale) else shorten q d.scale false

def develop (divisor : Nat) (d : Development) : Nat × Nat :=
  if d.remainder = 0 then (d.quotient, d.scale)
  else if _hp : d.places = 0 then round divisor d
  else
    let unit := Nat.pow 10 d.places
    let q := d.quotient * unit + d.remainder * unit / divisor
    let r := d.remainder * unit % divisor
    if hq : q < 0x1000000000000000000000000 then
      develop divisor ⟨q, r, d.scale + d.places, hq, places_le d⟩
    else shorten q (d.scale + d.places) (r ≠ 0)
  termination_by 28 - d.scale
  decreasing_by have := places_le d; omega

def dropZeros (n : Nat) (value : Nat × Nat) : Nat × Nat :=
  if n ≤ value.2 ∧ value.1 % Nat.pow 10 n = 0 then (value.1 / Nat.pow 10 n, value.2 - n) else value

def dropEights (value : Nat × Nat) : Nat × Nat :=
  if h : value.1 % 0x100000000 = 0 ∧ 8 ≤ value.2 ∧ value.1 % 100000000 = 0 then
    dropEights (value.1 / 100000000, value.2 - 8)
  else value
  termination_by value.2
  decreasing_by omega

/-- Drops zeros in steps of eight, four, two and one, so that some may stay. -/
def tidy (value : Nat × Nat) : Nat × Nat :=
  dropZeros 1 (dropZeros 2 (dropZeros 4 (dropEights value)))

end Development

namespace Decimal

def divide? (d : Decimal) (divisor : Nat) : Option Decimal :=
  if divisor = 0 then none
  else if d.coefficient = 0 then some zero
  else
    let n := d.coefficient.natAbs
    let start : Development :=
      ⟨n / divisor, n % divisor, d.scale, Nat.lt_of_le_of_lt (Nat.div_le_self ..) d.coefficient_lt, d.scale_le⟩
    let value := if start.remainder = 0 then (start.quotient, start.scale)
      else Development.tidy (start.develop divisor)
    make? (if d.coefficient < 0 then -value.1 else value.1) value.2

end Decimal

end MarketTicker
