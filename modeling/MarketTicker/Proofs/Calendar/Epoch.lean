import Mathlib.Algebra.Ring.Nat
import MarketTicker.Calendar.Instant

namespace MarketTicker

namespace Date

def daysOfYears (year : Int) : Nat → Nat
  | 0 => 0
  | k + 1 => daysInYear year + daysOfYears (year + 1) k

def daysOfMonths (year : Int) (month : Nat) : Nat → Nat
  | 0 => 0
  | k + 1 => daysInMonth year month + daysOfMonths year (month + 1) k

def dayNumber (d : Date) : Nat :=
  daysOfYears 1970 (d.year - 1970).toNat + daysOfMonths d.year 1 (d.month - 1) + (d.day - 1)

theorem daysInYear_eq (year : Int) : daysInYear year = daysOfMonths year 1 12 := by
  unfold daysInYear
  by_cases h : isLeapYear year = true
  · simp [daysOfMonths, daysInMonth, h]
  · simp [daysOfMonths, daysInMonth, h]

theorem daysInYear_pos (year : Int) : 0 < daysInYear year := by
  unfold daysInYear
  split
  · decide
  · decide

theorem le_daysOfYears (year : Int) (k : Nat) : k ≤ daysOfYears year k := by
  induction k generalizing year with
  | zero => exact Nat.le_refl 0
  | succ k ih =>
    have hy := daysInYear_pos year
    have hk := ih (year + 1)
    rw [daysOfYears]
    omega

theorem fromYear_spec (year : Int) (n : Nat) :
    ∃ k : Nat, (fromYear year n).1 = year + k ∧ n = daysOfYears year k + (fromYear year n).2 ∧
      (fromYear year n).2 < daysInYear (fromYear year n).1 := by
  induction year, n using fromYear.induct with
  | case1 year n h =>
    rw [fromYear, if_pos h]
    exact ⟨0, by simp, by simp [daysOfYears], h⟩
  | case2 year n h ih =>
    rw [fromYear, if_neg h]
    obtain ⟨k, hy, hn, hlt⟩ := ih
    refine ⟨k + 1, by rw [hy]; omega, ?_, hlt⟩
    rw [daysOfYears]
    omega

theorem inYear_spec (year : Int) {month n : Nat} (hm : month ≤ 12)
    (hn : n < daysOfMonths year month (13 - month)) :
    ∃ k, (inYear year month n).1 = month + k ∧ month + k ≤ 12 ∧
      n + 1 = daysOfMonths year month k + (inYear year month n).2 ∧
      1 ≤ (inYear year month n).2 ∧ (inYear year month n).2 ≤ daysInMonth year (inYear year month n).1 := by
  induction month, n using inYear.induct year with
  | case1 month n h =>
    rw [inYear, if_pos h]
    refine ⟨0, rfl, hm, by simp [daysOfMonths], by simp, ?_⟩
    rcases h with h | h
    · obtain rfl : month = 12 := Nat.le_antisymm hm h
      have hn : n < daysInMonth year 12 := by simpa [daysOfMonths] using hn
      exact hn
    · exact h
  | case2 month n h ih =>
    rw [inYear, if_neg h]
    have hlt : month < 12 := by omega
    have hsucc : 13 - month = 13 - (month + 1) + 1 := by omega
    rw [hsucc, daysOfMonths] at hn
    obtain ⟨k, hf, hk, hd, hpos, hle⟩ := ih hlt (by omega)
    refine ⟨k + 1, by rw [hf]; omega, by omega, ?_, hpos, hle⟩
    rw [daysOfMonths]
    omega

theorem ofDayNumber?_spec {n : Nat} (hn : n < 100000) : ∃ d, ofDayNumber? n = some d ∧ d.dayNumber = n := by
  obtain ⟨k, hy, hsum, hlt⟩ := fromYear_spec 1970 n
  have hk := le_daysOfYears 1970 k
  rw [daysInYear_eq] at hlt
  obtain ⟨j, hm, hj, hd, hpos, hle⟩ := inYear_spec (fromYear 1970 n).1 (by decide : 1 ≤ 12) hlt
  unfold ofDayNumber?
  have hmake : (-262143 ≤ (fromYear 1970 n).1 ∧ (fromYear 1970 n).1 ≤ 262142) ∧
      (1 ≤ (inYear (fromYear 1970 n).1 1 (fromYear 1970 n).2).1 ∧
        (inYear (fromYear 1970 n).1 1 (fromYear 1970 n).2).1 ≤ 12) ∧
      1 ≤ (inYear (fromYear 1970 n).1 1 (fromYear 1970 n).2).2 ∧
      (inYear (fromYear 1970 n).1 1 (fromYear 1970 n).2).2 ≤
        daysInMonth (fromYear 1970 n).1 (inYear (fromYear 1970 n).1 1 (fromYear 1970 n).2).1 :=
    ⟨by omega, by omega, hpos, hle⟩
  refine ⟨_, dif_pos hmake, ?_⟩
  have hyears : ((fromYear 1970 n).1 - 1970).toNat = k := by omega
  have hmonths : (inYear (fromYear 1970 n).1 1 (fromYear 1970 n).2).1 - 1 = j := by omega
  simp only [dayNumber, hyears, hmonths]
  omega

end Date

def Clock.secondOfDay (c : Clock) : Nat :=
  (c.hour * 60 + c.minute) * 60 + c.second

theorem Clock.secondOfDay_ofSecond {n : Nat} (h : n < 86400) : (ofSecond n).secondOfDay = n := by
  simp only [secondOfDay, ofSecond]
  omega

def Instant.epochSecond (t : Instant) : Nat :=
  t.date.dayNumber * 86400 + t.clock.secondOfDay

theorem Instant.ofEpochSecond?_spec {n : Nat} (hn : n < 2 ^ 32) :
    ∃ t, ofEpochSecond? n = some t ∧ t.epochSecond = n ∧ t.nano = 0 := by
  obtain ⟨date, hdate, hnumber⟩ := Date.ofDayNumber?_spec (by omega : n / 86400 < 100000)
  have hclock := Clock.secondOfDay_ofSecond (Nat.mod_lt n (by decide : 0 < 86400))
  refine ⟨_, by rw [ofEpochSecond?, hdate]; rfl, ?_, rfl⟩
  rw [epochSecond, hnumber, hclock]
  omega

end MarketTicker
