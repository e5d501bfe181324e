import MarketTicker.Calendar.Instant
import MarketTicker.Proofs.Calendar.Stamp

namespace MarketTicker

open Text

theorem Instant.spellFraction_cases {nano : Nat} (h : nano < 1000000000) :
    nano = 0 ∧ spellFraction nano = [] ∨ ∃ width n, width ≠ 0 ∧ width ≤ 9 ∧ n < 10 ^ width ∧
      n * 10 ^ (9 - width) = nano ∧ spellFraction nano = '.' :: padded width n := by
  by_cases h0 : nano = 0
  · exact .inl ⟨h0, if_pos h0⟩
  right
  by_cases h3 : nano % 1000000 = 0
  · refine ⟨3, nano / 1000000, by decide, by decide, by omega, by omega, ?_⟩
    rw [spellFraction, if_neg h0, if_pos h3]
  by_cases h6 : nano % 1000 = 0
  · refine ⟨6, nano / 1000, by decide, by decide, by omega, by omega, ?_⟩
    rw [spellFraction, if_neg h0, if_neg h3, if_pos h6]
  · refine ⟨9, nano, by decide, by decide, h, by omega, ?_⟩
    rw [spellFraction, if_neg h0, if_neg h3, if_neg h6]

namespace Calendar.Scans

variable {rest : List Char} {width n : Nat}

theorem fraction_digits (hpos : width ≠ 0) (hwidth : width ≤ 9) (hn : n < 10 ^ width) (hrest : NoDigit rest) :
    Scans Instant.fraction ('.' :: (padded width n ++ rest)) (n * 10 ^ (9 - width)) rest := by
  have hlength : (padded width n).length = width := length_padded hpos hn
  have hfits : n < 0x8000000000000000 := by
    have hle : 10 ^ width ≤ 10 ^ 9 := Nat.pow_le_pow_right (by decide) hwidth
    omega
  have hnumber := number (allDigits_padded width n) (padded_ne_nil width n) (hlength ▸ hwidth)
    (by rwa [valueOf_padded]) hrest
  rw [valueOf_padded] at hnumber
  have hdrop : rest.dropWhile isDigit = rest := by
    cases rest with
    | nil => rfl
    | cons c cs => exact List.dropWhile_cons_of_neg (by simp [hrest c rfl])
  have hused : (padded width n ++ rest).length - rest.length = width := by
    rw [List.length_append, hlength, Nat.add_sub_cancel]
  rw [Scans] at hnumber
  rw [Scans, Instant.fraction, hnumber]
  change Except.ok (n * 10 ^ (9 - ((padded width n ++ rest).length - rest.length)), rest.dropWhile isDigit) = _
  rw [hused, hdrop]

theorem fraction {nano : Nat} (h : nano < 1000000000) (rest : List Char) :
    Scans Instant.fraction (Instant.spellFraction nano ++ 'Z' :: rest) nano ('Z' :: rest) := by
  rcases Instant.spellFraction_cases h with ⟨rfl, -⟩ | ⟨width, n, hpos, hwidth, hn, rfl, hspell⟩
  · rfl
  · rw [hspell]
    exact fraction_digits hpos hwidth hn (noDigit_cons rfl rest)

end Calendar.Scans

namespace Instant

open Calendar

theorem scans_fields (t : Instant) :
    Scans fields t.spell
      ⟨⟨t.date.year, t.date.month, t.date.day⟩, ⟨t.clock.hour, t.clock.minute, t.clock.second⟩, t.nano, 0⟩ [] := by
  have hfraction : NoDigit (spellFraction t.nano ++ ['Z']) := by
    rcases spellFraction_cases t.nano_lt with ⟨-, hspell⟩ | ⟨width, n, -, -, -, -, hspell⟩
    · rw [hspell]
      exact noDigit_cons rfl []
    · rw [hspell]
      exact noDigit_cons rfl _
  have hsplit : t.spell = spellDate t.date ++ 'T' :: (spellClock t.clock ++ (spellFraction t.nano ++ ['Z'])) := by
    simp [spell]
  rw [hsplit]
  refine Scans.bind (Scans.dateFields true t.date (noDigit_cons rfl _)) ?_
  refine Scans.bind (r := spellClock t.clock ++ (spellFraction t.nano ++ ['Z'])) rfl ?_
  refine Scans.bind (Scans.clockFields true t.clock hfraction) ?_
  refine Scans.bind (Scans.fraction t.nano_lt []) ?_
  refine Scans.bind (Scans.skipBlanks rfl []) ?_
  exact Scans.bind (r := []) (a := 0) rfl (.pure _ [])

theorem minus_zero (date : Date) (clock : Clock) : minus date clock 0 = .ok (date, clock) := by
  have hhour := clock.hour_lt
  have hminute := clock.minute_lt
  have hrest : (((clock.hour * 60 + clock.minute : Nat) - 0 : Int) % 1440).toNat = clock.hour * 60 + clock.minute := by
    omega
  have hdiv : (clock.hour * 60 + clock.minute) / 60 = clock.hour := by omega
  have hmod : (clock.hour * 60 + clock.minute) % 60 = clock.minute := by omega
  rw [minus]
  simp only [hrest, hdiv, hmod, Clock.make?_self]
  rw [if_neg (by omega), if_neg (by omega)]

theorem read_spell (t : Instant) : read t.spell = .ok t := by
  have hfields := t.scans_fields
  rw [Scans] at hfields
  have hrest : ¬trimLeft [] ≠ [] := not_not_intro rfl
  have hoffset : (0 : Int).natAbs < 1440 := by decide
  rw [read, hfields]
  simp only [bind, Except.bind, if_neg hrest, DateFields.date_self, ClockFields.clock_self, if_pos hoffset, minus_zero,
    dif_pos t.nano_lt]

theorem forall_mem_spell {P : Char → Prop} (hdigit : ∀ c, isDigit c = true → P c)
    (hmarks : ∀ c ∈ ['-', '+', 'T', ':', '.', 'Z'], P c) (t : Instant) : ∀ c ∈ t.spell, P c := by
  have hfraction : ∀ c ∈ spellFraction t.nano, P c := by
    rcases spellFraction_cases t.nano_lt with ⟨-, hspell⟩ | ⟨width, n, -, -, -, -, hspell⟩
    · rw [hspell]
      exact nofun
    · rw [hspell]
      exact List.forall_mem_cons.2 ⟨hmarks '.' (by decide), forall_mem_padded hdigit width n⟩
  have hdate := forall_mem_spellDate hdigit t.date (hmarks '-' (by decide)) (hmarks '+' (by decide))
  have hclock := forall_mem_spellClock hdigit t.clock (hmarks ':' (by decide))
  simp only [spell, List.forall_mem_append, List.forall_mem_cons]
  exact ⟨⟨⟨hdate, hmarks 'T' (by decide), hclock⟩, hfraction⟩, hmarks 'Z' (by decide), nofun⟩

end Instant

end MarketTicker
