import MarketTicker.Text.Numeral

namespace MarketTicker

/-- The number `coefficient / 10 ^ scale`. The scale belongs to the value: `1.50` is not `1.5`. -/
structure Decimal where
  coefficient : Int
  scale : Nat
  coefficient_lt : coefficient.natAbs < 0x1000000000000000000000000
  scale_le : scale ≤ 28
  deriving DecidableEq

namespace Decimal

def make? (coefficient : Int) (scale : Nat) : Option Decimal :=
  if h : coefficient.natAbs < 0x1000000000000000000000000 ∧ scale ≤ 28 then some ⟨coefficient, scale, h.1, h.2⟩ else none

theorem make?_self (d : Decimal) : make? d.coefficient d.scale = some d := by
  exact dif_pos ⟨d.coefficient_lt, d.scale_le⟩

def zero : Decimal :=
  ⟨0, 0, by decide, by decide⟩

instance : Inhabited Decimal := ⟨zero⟩

def ofUInt32 (n : UInt32) : Decimal :=
  ⟨n.toNat, 0, by have := n.toNat_lt; omega, by decide⟩

def ofInt32 (n : Int32) : Decimal :=
  ⟨n.toInt, 0, by have := n.toInt_lt; have := n.le_toInt; omega, by decide⟩

def pointed (scale : Nat) (ds : List Char) : List Char :=
  if scale = 0 then ds else ds.take (ds.length - scale) ++ '.' :: ds.drop (ds.length - scale)

/-- Exactly `scale` places, at least one digit before the point, and no sign on a zero. -/
def spell (d : Decimal) : List Char :=
  (if d.coefficient < 0 then ['-'] else []) ++
    pointed d.scale (Text.padded (d.scale + 1) d.coefficient.natAbs)

def text (d : Decimal) : String :=
  String.ofList d.spell

end Decimal

end MarketTicker
