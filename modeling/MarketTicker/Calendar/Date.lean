namespace MarketTicker

def isLeapYear (year : Int) : Bool :=
  year % 4 = 0 && (year % 100 ≠ 0 || year % 400 = 0)

def daysInYear (year : Int) : Nat :=
  if isLeapYear year then 366 else 365

def daysInMonth (year : Int) (month : Nat) : Nat :=
  if month = 2 then if isLeapYear year then 29 else 28
  else if month = 4 ∨ month = 6 ∨ month = 9 ∨ month = 11 then 30
  else 31

structure Date where
  year : Int
  month : Nat
  day : Nat
  year_range : -262143 ≤ year ∧ year ≤ 262142
  month_range : 1 ≤ month ∧ month ≤ 12
  day_range : 1 ≤ day ∧ day ≤ daysInMonth year month
  deriving DecidableEq

namespace Date

def make? (year : Int) (month day : Nat) : Option Date :=
  if h : (-262143 ≤ year ∧ year ≤ 262142) ∧ (1 ≤ month ∧ month ≤ 12) ∧
      1 ≤ day ∧ day ≤ daysInMonth year month then
    some ⟨year, month, day, h.1, h.2.1, h.2.2⟩
  else none

theorem make?_self (d : Date) : make? d.year d.month d.day = some d := by
  simp [make?, d.year_range, d.month_range, d.day_range]

def next? (d : Date) : Option Date :=
  if d.day < daysInMonth d.year d.month then make? d.year d.month (d.day + 1)
  else if d.month < 12 then make? d.year (d.month + 1) 1
  else make? (d.year + 1) 1 1

def prev? (d : Date) : Option Date :=
  if 1 < d.day then make? d.year d.month (d.day - 1)
  else if 1 < d.month then make? d.year (d.month - 1) (daysInMonth d.year (d.month - 1))
  else make? (d.year - 1) 12 31

/-- Month and day of the day with number `n`, counted from the first of `month`. -/
def inYear (year : Int) (month n : Nat) : Nat × Nat :=
  if 12 ≤ month ∨ n < daysInMonth year month then (month, n + 1)
  else inYear year (month + 1) (n - daysInMonth year month)
  termination_by 12 - month
  decreasing_by omega

/-- Year, and day in it, of the day with number `n`, counted from the first of January of `year`. -/
def fromYear (year : Int) (n : Nat) : Int × Nat :=
  if n < daysInYear year then (year, n)
  else fromYear (year + 1) (n - daysInYear year)
  termination_by n
  decreasing_by
    have : 0 < daysInYear year := by unfold daysInYear; split <;> decide
    omega

/-- The day with number `n`, counted from the first of January 1970. -/
def ofDayNumber? (n : Nat) : Option Date :=
  let (year, rest) := fromYear 1970 n
  let (month, day) := inYear year 1 rest
  make? year month day

end Date

/-- A time of day to the second; a leap second is second 60. -/
structure Clock where
  hour : Nat
  minute : Nat
  second : Nat
  hour_lt : hour < 24
  minute_lt : minute < 60
  second_le : second ≤ 60
  deriving DecidableEq

def Clock.make? (hour minute second : Nat) : Option Clock :=
  if h : hour < 24 ∧ minute < 60 ∧ second ≤ 60 then some ⟨hour, minute, second, h.1, h.2.1, h.2.2⟩ else none

theorem Clock.make?_self (c : Clock) : make? c.hour c.minute c.second = some c := by
  simp [make?, c.hour_lt, c.minute_lt, c.second_le]

def Clock.ofSecond (n : Nat) : Clock :=
  ⟨n / 3600 % 24, n / 60 % 60, n % 60, by omega, by omega, by omega⟩

end MarketTicker
