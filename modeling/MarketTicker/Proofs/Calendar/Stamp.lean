import MarketTicker.Calendar.Stamp
import MarketTicker.Proofs.Text.Numeral

namespace MarketTicker

open Text

theorem daysInMonth_le (year : Int) (month : Nat) : daysInMonth year month ≤ 31 := by
  unfold daysInMonth
  split
  · split <;> decide
  · split <;> decide

namespace Calendar

variable {α β : Type}

def Scans (x : Scan α) (s : List Char) (a : α) (rest : List Char) : Prop :=
  x s = .ok (a, rest)

namespace Scans

variable {x : Scan α} {f : α → Scan β} {s r rest ds : List Char} {a : α} {b : β} {c : Char}
  {low high max n : Nat}

theorem pure (a : α) (s : List Char) : Scans (pure a) s a s :=
  rfl

theorem bind (hx : Scans x s a r) (hf : Scans (f a) r b rest) : Scans (x >>= f) s b rest := by
  change (do let (a, s) ← x s; f a s) = Except.ok (b, rest)
  rw [hx]
  exact hf

theorem map (g : α → β) (hx : Scans x s a r) : Scans (x.map g) s (g a) r := by
  change (do let (a, s) ← x s; Except.ok (g a, s)) = Except.ok (g a, r)
  rw [hx]
  rfl

theorem skipBlanks (hc : isBlank c = false) (s : List Char) : Scans skipBlanks (c :: s) () (c :: s) := by
  rw [Scans, Calendar.skipBlanks, trimLeft_cons hc]

theorem literal (c : Char) (s : List Char) : Scans (literal c) (c :: s) () s := by
  rw [Scans, Calendar.literal, if_pos rfl]

theorem mark (loose : Bool) (hc : isBlank c = false) (s : List Char) : Scans (mark loose c) (c :: s) () s := by
  cases loose with
  | false => exact literal c s
  | true => exact (skipBlanks hc s).bind (literal c s)

theorem within {low high n : Int} (h : low ≤ n ∧ n ≤ high) (s : List Char) :
    Scans (within low high n) s () s := by
  rw [Calendar.within, if_pos h]
  exact .pure () s

theorem number (hd : AllDigits ds) (hne : ds ≠ []) (hmax : ds.length ≤ max)
    (hfits : valueOf ds < 0x8000000000000000) (hrest : NoDigit rest) :
    Scans (number max) (ds ++ rest) (valueOf ds) rest := by
  have htake : ((ds ++ rest).take max).takeWhile isDigit = ds := by
    rw [List.take_append, List.take_of_length_le hmax]
    exact hd.takeWhile (hrest.take _)
  obtain ⟨c, cs, rfl, -⟩ := hd.exists_cons hne
  unfold Scans Calendar.number
  rw [htake]
  exact (if_pos hfits).trans (by rw [List.drop_left])

theorem field (hd : AllDigits ds) (hne : ds ≠ []) (hmax : ds.length ≤ max)
    (hfits : valueOf ds < 0x8000000000000000) (hrest : NoDigit rest) :
    Scans (field max) (ds ++ rest) (valueOf ds) rest := by
  obtain ⟨c, cs, hcs, hc⟩ := hd.exists_cons hne
  have hblanks : Scans Calendar.skipBlanks (ds ++ rest) () (ds ++ rest) := by
    rw [hcs]
    exact skipBlanks (isBlank_of_isDigit hc) _
  exact hblanks.bind (number hd hne hmax hfits hrest)

theorem bounded (hn : low ≤ n ∧ n ≤ high) (hhigh : high < 100) (hrest : NoDigit rest) :
    Scans (bounded low high) (padded 2 n ++ rest) n rest := by
  have hlength : (padded 2 n).length = 2 := length_padded (by decide) (by omega)
  have hne : padded 2 n ≠ [] := List.ne_nil_of_length_pos (by omega)
  have hfield := field (allDigits_padded 2 n) hne (Nat.le_of_eq hlength)
    (by rw [valueOf_padded]; omega) hrest
  rw [valueOf_padded] at hfield
  refine hfield.bind ?_
  refine Scans.bind (within (by omega) rest) ?_
  exact .pure n rest

theorem yearNumber {y : Int} (hy : y.natAbs < 0x8000000000000000) (hrest : NoDigit rest) :
    Scans yearNumber (spellYear y ++ rest) y rest := by
  have hd := allDigits_padded 4 y.natAbs
  have hlong : 4 ≤ (padded 4 y.natAbs).length := le_length_padded 4 _
  have hne : padded 4 y.natAbs ≠ [] := List.ne_nil_of_length_pos (by omega)
  have hnumber {max : Nat} (hmax : (padded 4 y.natAbs).length ≤ max) :
      Scans (do let n ← Calendar.number max; Pure.pure (n : Int)) (padded 4 y.natAbs ++ rest) y.natAbs rest := by
    have hnumber := number hd hne hmax (by rwa [valueOf_padded]) hrest
    rw [valueOf_padded] at hnumber
    exact hnumber.bind (.pure _ rest)
  have hsigned : (padded 4 y.natAbs).length ≤ (padded 4 y.natAbs ++ rest).length := by simp
  rw [spellYear]
  by_cases hshort : 0 ≤ y ∧ y ≤ 9999
  · rw [if_pos hshort]
    have hlength : (padded 4 y.natAbs).length = 4 := length_padded (by decide) (by omega)
    have hyear := (hnumber (Nat.le_of_eq hlength)).map fun n : Int => n
    rw [Int.natAbs_of_nonneg hshort.1] at hyear
    obtain ⟨c, cs, hcs, hc⟩ := hd.exists_cons hne
    rw [hcs] at hyear ⊢
    refine (skipBlanks (isBlank_of_isDigit hc) _).bind ?_
    rw [Scans]
    split
    · rename_i h
      obtain rfl := (List.cons.inj h).1
      exact absurd hc (by decide)
    · rename_i h
      obtain rfl := (List.cons.inj h).1
      exact absurd hc (by decide)
    · exact hyear
  rw [if_neg hshort]
  by_cases hneg : y < 0
  · rw [if_pos hneg]
    have hyear := (hnumber hsigned).map fun n : Int => -n
    rw [show -(y.natAbs : Int) = y by omega] at hyear
    exact (skipBlanks rfl _).bind hyear
  · rw [if_neg hneg]
    have hyear := (hnumber hsigned).map fun n : Int => n
    rw [Int.natAbs_of_nonneg (Int.not_lt.1 hneg)] at hyear
    exact (skipBlanks rfl _).bind hyear

theorem dateFields (loose : Bool) (d : Date) (hrest : NoDigit rest) :
    Scans (dateFields loose) (spellDate d ++ rest) ⟨d.year, d.month, d.day⟩ rest := by
  obtain ⟨hlow, hhigh⟩ := d.year_range
  have hday : d.day ≤ 31 := Nat.le_trans d.day_range.2 (daysInMonth_le _ _)
  have hdash (s : List Char) : NoDigit ('-' :: s) := noDigit_cons rfl s
  simp only [spellDate, List.append_assoc, List.cons_append]
  have hyear : Scans year (spellYear d.year ++ '-' :: (padded 2 d.month ++ '-' :: (padded 2 d.day ++ rest)))
      d.year ('-' :: (padded 2 d.month ++ '-' :: (padded 2 d.day ++ rest))) := by
    refine (yearNumber (by omega) (hdash _)).bind ?_
    refine Scans.bind (within (by omega) _) ?_
    exact .pure _ _
  refine hyear.bind ?_
  refine (mark loose rfl _).bind ?_
  refine (bounded d.month_range (by decide) (hdash _)).bind ?_
  refine (mark loose rfl _).bind ?_
  refine (bounded ⟨d.day_range.1, hday⟩ (by decide) hrest).bind ?_
  exact .pure _ rest

theorem clockFields (loose : Bool) (c : Clock) (hrest : NoDigit rest) :
    Scans (clockFields loose) (spellClock c ++ rest) ⟨c.hour, c.minute, c.second⟩ rest := by
  have hhour : 0 ≤ c.hour ∧ c.hour ≤ 23 := ⟨Nat.zero_le _, Nat.le_of_lt_succ c.hour_lt⟩
  have hminute : 0 ≤ c.minute ∧ c.minute ≤ 59 := ⟨Nat.zero_le _, Nat.le_of_lt_succ c.minute_lt⟩
  have hcolon (s : List Char) : NoDigit (':' :: s) := noDigit_cons rfl s
  simp only [spellClock, List.append_assoc, List.cons_append]
  refine (bounded hhour (by decide) (hcolon _)).bind ?_
  refine (mark loose rfl _).bind ?_
  refine (bounded hminute (by decide) (hcolon _)).bind ?_
  refine (mark loose rfl _).bind ?_
  refine (bounded ⟨Nat.zero_le _, c.second_le⟩ (by decide) hrest).bind ?_
  exact .pure _ rest

end Scans

theorem DateFields.date_self (d : Date) : DateFields.date ⟨d.year, d.month, d.day⟩ = .ok d := by
  simp only [date, Date.make?_self]

theorem ClockFields.clock_self (c : Clock) : ClockFields.clock ⟨c.hour, c.minute, c.second⟩ = .ok c := by
  simp only [clock, Clock.make?_self]

theorem padded_ne_nil (width n : Nat) : padded width n ≠ [] := by
  intro h
  exact numeral_ne_nil n (List.append_eq_nil_iff.1 h).2

theorem spellClock_eq_cons (c : Clock) : ∃ d cs, spellClock c = d :: cs ∧ isDigit d = true := by
  obtain ⟨d, cs, hcs, hd⟩ := (allDigits_padded 2 c.hour).exists_cons (padded_ne_nil 2 c.hour)
  rw [spellClock, hcs]
  exact ⟨d, _, rfl, hd⟩

theorem spellYear_eq_cons (y : Int) : ∃ c cs, spellYear y = c :: cs ∧ isBlank c = false := by
  rw [spellYear]
  split
  · obtain ⟨c, cs, hcs, hc⟩ := (allDigits_padded 4 y.natAbs).exists_cons (padded_ne_nil 4 y.natAbs)
    exact ⟨c, cs, hcs, isBlank_of_isDigit hc⟩
  · split
    · exact ⟨'-', _, rfl, rfl⟩
    · exact ⟨'+', _, rfl, rfl⟩

section Characters

variable {P : Char → Prop} (hdigit : ∀ c, isDigit c = true → P c)

include hdigit

theorem forall_mem_padded (width n : Nat) : ∀ c ∈ padded width n, P c :=
  fun c hc => hdigit c (allDigits_padded width n c hc)

theorem forall_mem_spellDate (d : Date) (hdash : P '-') (hplus : P '+') : ∀ c ∈ spellDate d, P c := by
  have hyear : ∀ c ∈ spellYear d.year, P c := by
    rw [spellYear]
    split
    · exact forall_mem_padded hdigit 4 _
    · refine List.forall_mem_cons.2 ⟨?_, forall_mem_padded hdigit 4 _⟩
      split
      · exact hdash
      · exact hplus
  simp only [spellDate, List.forall_mem_append, List.forall_mem_cons]
  exact ⟨⟨hyear, hdash, forall_mem_padded hdigit 2 _⟩, hdash, forall_mem_padded hdigit 2 _⟩

theorem forall_mem_spellClock (c : Clock) (hcolon : P ':') : ∀ d ∈ spellClock c, P d := by
  simp only [spellClock, List.forall_mem_append, List.forall_mem_cons]
  exact ⟨⟨forall_mem_padded hdigit 2 _, hcolon, forall_mem_padded hdigit 2 _⟩, hcolon, forall_mem_padded hdigit 2 _⟩

end Characters

end Calendar

namespace Stamp

open Calendar

theorem scans_fields (t : Stamp) :
    Scans fields t.spell
      (⟨t.date.year, t.date.month, t.date.day⟩, ⟨t.clock.hour, t.clock.minute, t.clock.second⟩) [] := by
  refine Scans.bind (Scans.dateFields false t.date (noDigit_cons rfl (spellClock t.clock))) ?_
  have hclock := Scans.clockFields false t.clock noDigit_nil
  rw [List.append_nil] at hclock
  have hblanks : Scans skipBlanks (' ' :: spellClock t.clock) () (spellClock t.clock) := by
    obtain ⟨c, cs, hcs, hc⟩ := spellClock_eq_cons t.clock
    rw [hcs]
    exact (Scans.skipBlanks (isBlank_of_isDigit hc) cs)
  refine hblanks.bind ?_
  exact hclock.bind (.pure _ [])

theorem read_spell (t : Stamp) : read t.spell = .ok t := by
  have hfields := scans_fields t
  rw [Scans] at hfields
  rw [read, hfields]
  change (do
    let date ← DateFields.date ⟨t.date.year, t.date.month, t.date.day⟩
    let clock ← ClockFields.clock ⟨t.clock.hour, t.clock.minute, t.clock.second⟩
    return ⟨date, clock⟩) = Except.ok t
  rw [DateFields.date_self, ClockFields.clock_self]
  rfl

theorem trim_spell (t : Stamp) : trim t.spell = t.spell := by
  apply trim_eq_self
  · obtain ⟨c, cs, hcs, hc⟩ := spellYear_eq_cons t.date.year
    simp only [spell, spellDate, hcs, List.cons_append, List.head?_cons, Option.mem_some_iff, forall_eq']
    exact hc
  · have hsplit : t.spell = (spellDate t.date ++ ' ' :: padded 2 t.clock.hour ++ ':' :: padded 2 t.clock.minute ++
        [':']) ++ padded 2 t.clock.second := by
      simp [spell, spellClock]
    intro c hc
    rw [hsplit, List.getLast?_append] at hc
    have hlast : c ∈ (padded 2 t.clock.second).getLast? := by
      cases hs : (padded 2 t.clock.second).getLast? with
      | none => exact absurd (List.getLast?_eq_none_iff.1 hs) (padded_ne_nil 2 _)
      | some d =>
        rw [hs] at hc
        exact hc
    exact isBlank_of_isDigit (allDigits_padded 2 _ c (List.mem_of_getLast? hlast))

end Stamp

end MarketTicker
