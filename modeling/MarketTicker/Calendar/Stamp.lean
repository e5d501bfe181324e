import MarketTicker.Calendar.Scan

namespace MarketTicker

/-- A local time as order books write it: `2022-03-03 09:24:25`. -/
structure Stamp where
  date : Date
  clock : Clock
  deriving DecidableEq

namespace Stamp

open Calendar

def spell (t : Stamp) : List Char :=
  spellDate t.date ++ ' ' :: spellClock t.clock

def fields : Scan (DateFields × ClockFields) := do
  let date ← dateFields false
  skipBlanks
  let clock ← clockFields false
  return (date, clock)

/-- The form is checked before the date, so that junk at the end hides a day that does not exist. -/
def read (cs : List Char) : Except Fault Stamp := do
  let ((date, clock), rest) ← fields cs
  if rest ≠ [] then .error .tooLong
  else return ⟨← date.date, ← clock.clock⟩

end Stamp

end MarketTicker
