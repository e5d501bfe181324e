import Mathlib.Algebra.Ring.Int.Defs
import Mathlib.Algebra.Ring.Nat
import MarketTicker.Number.Quotient

namespace MarketTicker

namespace Development

structure Trims (v w : Nat × Nat) : Prop where
  same : w.1 * 10 ^ v.2 = v.1 * 10 ^ w.2
  le : w.1 ≤ v.1
  places : w.2 ≤ v.2

namespace Trims

theorem refl (v : Nat × Nat) : Trims v v :=
  ⟨rfl, Nat.le_refl _, Nat.le_refl _⟩

theorem trans {v w x : Nat × Nat} (h : Trims v w) (h' : Trims w x) : Trims v x := by
  refine ⟨?_, Nat.le_trans h'.le h.le, Nat.le_trans h'.places h.places⟩
  apply Nat.eq_of_mul_eq_mul_right (Nat.pow_pos (by decide : 0 < 10) (n := w.2))
  calc x.1 * 10 ^ v.2 * 10 ^ w.2
      = x.1 * 10 ^ w.2 * 10 ^ v.2 := Nat.mul_right_comm _ _ _
    _ = w.1 * 10 ^ x.2 * 10 ^ v.2 := by rw [h'.same]
    _ = w.1 * 10 ^ v.2 * 10 ^ x.2 := Nat.mul_right_comm _ _ _
    _ = v.1 * 10 ^ w.2 * 10 ^ x.2 := by rw [h.same]
    _ = v.1 * 10 ^ x.2 * 10 ^ w.2 := Nat.mul_right_comm _ _ _

theorem of_zeros {v : Nat × Nat} {n : Nat} (hn : n ≤ v.2) (hz : v.1 % 10 ^ n = 0) :
    Trims v (v.1 / 10 ^ n, v.2 - n) := by
  refine ⟨?_, Nat.div_le_self _ _, Nat.sub_le _ _⟩
  have hv : v.1 / 10 ^ n * 10 ^ n = v.1 := Nat.div_mul_cancel (Nat.dvd_of_mod_eq_zero hz)
  have hp : 10 ^ v.2 = 10 ^ n * 10 ^ (v.2 - n) := by rw [← Nat.pow_add, Nat.add_sub_cancel' hn]
  calc v.1 / 10 ^ n * 10 ^ v.2
      = v.1 / 10 ^ n * 10 ^ n * 10 ^ (v.2 - n) := by rw [hp, Nat.mul_assoc]
    _ = v.1 * 10 ^ (v.2 - n) := by rw [hv]

end Trims

theorem trims_dropZeros (n : Nat) (v : Nat × Nat) : Trims v (dropZeros n v) := by
  unfold dropZeros
  split
  · rename_i h
    exact .of_zeros h.1 h.2
  · exact .refl v

theorem trims_dropEights (v : Nat × Nat) : Trims v (dropEights v) := by
  induction v using dropEights.induct with
  | case1 v h ih =>
    rw [dropEights, dif_pos h]
    exact (Trims.of_zeros h.2.1 h.2.2).trans ih
  | case2 v h =>
    rw [dropEights, dif_neg h]
    exact .refl v

theorem trims_tidy (v : Nat × Nat) : Trims v (tidy v) :=
  (((trims_dropEights v).trans (trims_dropZeros 4 _)).trans (trims_dropZeros 2 _)).trans (trims_dropZeros 1 _)

theorem decimals_lt {r divisor : Nat} (hr : r < divisor) : r * 10 ^ 9 / divisor < 10 ^ 9 := by
  apply Nat.div_lt_of_lt_mul
  exact Nat.mul_lt_mul_of_pos_right hr (by decide)

theorem develop_exact {divisor : Nat} {d : Development} (hd : divisor ∣ 10 ^ 9) (hs : d.scale = 0)
    (hq : d.quotient < 2 ^ 32) (hr : d.remainder < divisor) (hne : d.remainder ≠ 0) :
    d.develop divisor = (d.quotient * 10 ^ 9 + d.remainder * 10 ^ 9 / divisor, 9) := by
  -- nine places are enough for a divisor of `10 ^ 9`, and there is room for them at once
  have hplaces : d.places = 9 := by
    rw [places, hs, show min 9 (28 - 0) = 9 from rfl, room, if_pos]
    have : d.quotient * Nat.pow 10 (8 + 1) = d.quotient * 1000000000 := rfl
    omega
  have hrest : d.remainder * 10 ^ 9 % divisor = 0 :=
    Nat.mod_eq_zero_of_dvd (Nat.dvd_trans hd (Nat.dvd_mul_left _ _))
  have hlast := decimals_lt hr
  rw [develop, if_neg hne, dif_neg (by omega)]
  simp only [hplaces, hs]
  rw [dif_pos (by simp only [Nat.pow_eq]; omega)]
  rw [develop]
  simp only [Nat.pow_eq, hrest, if_true]

theorem tidy_exact {divisor : Nat} {d : Development} (hd : divisor ∣ 10 ^ 9) (hs : d.scale = 0)
    (hq : d.quotient < 2 ^ 32) (hr : d.remainder < divisor) (hne : d.remainder ≠ 0) :
    (tidy (d.develop divisor)).1 * divisor =
        (d.quotient * divisor + d.remainder) * 10 ^ (tidy (d.develop divisor)).2 ∧
      (tidy (d.develop divisor)).1 < 2 ^ 96 ∧ (tidy (d.develop divisor)).2 ≤ 28 := by
  have hlast : d.remainder * 10 ^ 9 / divisor * divisor = d.remainder * 10 ^ 9 :=
    Nat.div_mul_cancel (Nat.dvd_trans hd (Nat.dvd_mul_left _ _))
  have hlt := decimals_lt hr
  rw [develop_exact hd hs hq hr hne]
  generalize hlong : d.quotient * 10 ^ 9 + d.remainder * 10 ^ 9 / divisor = long
  have htidy := trims_tidy (long, 9)
  have hvalue : long * divisor = (d.quotient * divisor + d.remainder) * 10 ^ 9 := by
    rw [← hlong, Nat.add_mul, hlast, Nat.add_mul, Nat.mul_right_comm]
  refine ⟨?_, ?_, Nat.le_trans htidy.places (by simp)⟩
  · apply Nat.eq_of_mul_eq_mul_right (by decide : 0 < 10 ^ 9)
    have hsame := htidy.same
    dsimp only at hsame
    calc (tidy (long, 9)).1 * divisor * 10 ^ 9
        = (tidy (long, 9)).1 * 10 ^ 9 * divisor := Nat.mul_right_comm _ _ _
      _ = long * 10 ^ (tidy (long, 9)).2 * divisor := by rw [hsame]
      _ = long * divisor * 10 ^ (tidy (long, 9)).2 := Nat.mul_right_comm _ _ _
      _ = (d.quotient * divisor + d.remainder) * 10 ^ 9 * 10 ^ (tidy (long, 9)).2 := by rw [hvalue]
      _ = (d.quotient * divisor + d.remainder) * 10 ^ (tidy (long, 9)).2 * 10 ^ 9 := Nat.mul_right_comm _ _ _
  · have hle := htidy.le
    dsimp only at hle
    omega

end Development

namespace Decimal

def times? (d : Decimal) (n : Nat) : Option Int :=
  if d.coefficient * n % 10 ^ d.scale = 0 then some (d.coefficient * n / 10 ^ d.scale) else none

theorem times?_of_eq {d : Decimal} {n : Nat} {raw : Int} (h : d.coefficient * n = raw * 10 ^ d.scale) :
    d.times? n = some raw := by
  have hpos : (10 : Int) ^ d.scale ≠ 0 := Int.pow_ne_zero (by decide)
  rw [times?, h, Int.mul_emod_left, if_pos rfl, Int.mul_ediv_cancel _ hpos]

theorem make?_signed {n : Int} {divisor : Nat} {value : Nat × Nat} (hv : value.1 * divisor = n.natAbs * 10 ^ value.2)
    (hlt : value.1 < 2 ^ 96) (hle : value.2 ≤ 28) :
    ∃ p, make? (if n < 0 then -value.1 else value.1) value.2 = some p ∧ p.coefficient * divisor = n * 10 ^ p.scale := by
  have hfits : (if n < 0 then -(value.1 : Int) else value.1).natAbs < 2 ^ 96 ∧ value.2 ≤ 28 := by
    refine ⟨?_, hle⟩
    split
    · omega
    · omega
  refine ⟨⟨_, _, hfits.1, hfits.2⟩, dif_pos hfits, ?_⟩
  have hv' : (value.1 : Int) * divisor = n.natAbs * 10 ^ value.2 := by exact_mod_cast hv
  split
  · rename_i hneg
    rw [Int.neg_mul, hv', ← Int.neg_mul]
    congr 1
    omega
  · rename_i hnonneg
    rw [hv']
    congr 1
    omega

theorem divide?_exact {c : Decimal} {divisor : Nat} (hd : divisor ∣ 10 ^ 9) (hs : c.scale = 0)
    (hc : c.coefficient.natAbs < 2 ^ 32) :
    ∃ p, c.divide? divisor = some p ∧ p.coefficient * divisor = c.coefficient * 10 ^ p.scale := by
  have hpos : 0 < divisor := Nat.pos_of_dvd_of_pos hd (by decide)
  unfold divide?
  rw [if_neg (Nat.ne_of_gt hpos)]
  split
  · rename_i hz
    exact ⟨zero, rfl, by simp [zero, hz]⟩
  · dsimp only
    generalize hvalue : (if c.coefficient.natAbs % divisor = 0 then _ else _ : Nat × Nat) = value
    split at hvalue
    · rename_i hr
      subst hvalue
      refine make?_signed ?_ (Nat.lt_of_le_of_lt (Nat.div_le_self _ _) c.coefficient_lt) c.scale_le
      dsimp only
      rw [hs, Nat.div_mul_cancel (Nat.dvd_of_mod_eq_zero hr), Nat.pow_zero, Nat.mul_one]
    · rename_i hne
      subst hvalue
      have hle := Nat.div_le_self c.coefficient.natAbs divisor
      let start : Development :=
        ⟨c.coefficient.natAbs / divisor, c.coefficient.natAbs % divisor, c.scale,
          Nat.lt_of_le_of_lt hle c.coefficient_lt, c.scale_le⟩
      have hq : start.quotient < 2 ^ 32 := Nat.lt_of_le_of_lt hle hc
      have hr : start.remainder < divisor := Nat.mod_lt _ hpos
      obtain ⟨hv, hlt, hle⟩ := Development.tidy_exact hd (d := start) hs hq hr hne
      refine make?_signed ?_ hlt hle
      rw [hv]
      congr 1
      exact Nat.div_add_mod' _ _

end Decimal

end MarketTicker
