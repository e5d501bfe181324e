import MarketTicker.Proofs.Json.Grammar
import MarketTicker.Proofs.Json.Reading

namespace MarketTicker.Json

open Text

variable {rest : List Char} {n : Nat}

theorem Stops.noDigit (h : Stops rest) : NoDigit rest := by
  intro c hc
  have hstop := h c hc
  simp only [continuesNumber, Bool.or_eq_false_iff] at hstop
  exact hstop.1.1

theorem Stops.not_point (h : Stops rest) : rest.head? ≠ some '.' := by
  intro hc
  exact absurd (h '.' hc) (by decide)

theorem Stops.not_exponent (h : Stops rest) : ∀ c ∈ rest.head?, isExponentMark c = false := by
  intro c hc
  have hstop := h c hc
  simp only [continuesNumber, Bool.or_eq_false_iff] at hstop
  exact hstop.2

theorem isDigitOpt_head? (h : NoDigit rest) : isDigitOpt rest.head? = false := by
  cases hr : rest.head? with
  | none => rfl
  | some c => exact h c hr

theorem yields_digits {ds : List Char} (hd : AllDigits ds) (h : NoDigit rest) : Yields digits (ds ++ rest) ds rest := by
  refine ⟨by simp, ?_⟩
  simp only [digits, hd.takeWhile h, hd.dropWhile h]

namespace DigitRun

variable (run : DigitRun)

theorem exists_cons : ∃ c cs, run.chars = c :: cs ∧ isDigit c = true :=
  run.all.exists_cons run.ne_nil

theorem yields_digits (h : NoDigit rest) : Yields digits (run.chars ++ rest) run.chars rest :=
  Json.yields_digits run.all h

theorem skips (h : NoDigit rest) : Yields skipDigits (run.chars ++ rest) () rest :=
  (run.yields_digits h).bind (.pure () rest)

theorem yields_whole (hzero : run.chars.head? = some '0' → run.chars = ['0']) (h : NoDigit rest) :
    Yields wholeDigits (run.chars ++ rest) run.chars rest := by
  refine (Yields.peek _).bind ?_
  obtain ⟨c, cs, hcs, hc⟩ := run.exists_cons
  have hdigits := run.yields_digits h
  rw [hcs] at hdigits hzero ⊢
  simp only [List.cons_append, List.head?_cons]
  split
  · rename_i hx
    cases hx
  · rename_i hx
    obtain rfl := Option.some.inj hx
    obtain rfl := (List.cons.inj (hzero rfl)).2
    refine (Yields.advance '0' rest).bind ?_
    refine (Yields.peek rest).bind ?_
    rw [isDigitOpt_head? h]
    exact .pure _ rest
  · rename_i hx
    obtain rfl := Option.some.inj hx
    rw [if_pos hc]
    exact hdigits

theorem yields_decimals (h : NoDigit rest) : Yields decimals ('.' :: (run.chars ++ rest)) run.chars rest := by
  refine (Yields.advance '.' _).bind ?_
  refine (Yields.peek _).bind ?_
  obtain ⟨c, cs, hcs, hc⟩ := run.exists_cons
  have hdigits := run.yields_digits h
  rw [hcs] at hdigits ⊢
  simp only [List.cons_append, List.head?_cons, if_pos hc]
  exact hdigits

theorem skips_some (h : NoDigit rest) : Yields someDigits (run.chars ++ rest) () rest := by
  refine (Yields.peek _).bind ?_
  obtain ⟨c, cs, hcs, hc⟩ := run.exists_cons
  have hskips := run.skips h
  rw [hcs] at hskips ⊢
  have hdigit : isDigitOpt (c :: cs ++ rest).head? = true := hc
  rw [hdigit]
  exact hskips

end DigitRun

namespace Exponent

variable (e : Exponent)

theorem yields_sign (rest : List Char) :
    Yields exponentSign (signText e.sign ++ (e.run.chars ++ rest)) e.negative (e.run.chars ++ rest) := by
  refine (Yields.peek _).bind ?_
  unfold negative
  cases e.sign with
  | some negative =>
    cases negative with
    | false => exact (Yields.advance '+' _).bind (.pure _ _)
    | true => exact (Yields.advance '-' _).bind (.pure _ _)
  | none =>
    obtain ⟨c, cs, hcs, hc⟩ := e.run.exists_cons
    rw [hcs]
    simp only [signText, List.nil_append, List.cons_append, List.head?_cons]
    split
    · rename_i hx
      obtain rfl := Option.some.inj hx
      exact absurd hc (by decide)
    · rename_i hx
      obtain rfl := Option.some.inj hx
      exact absurd hc (by decide)
    · exact .pure _ _

theorem yields_part (h : NoDigit rest) : Yields exponentPart (e.text ++ rest) (e.negative, e.run.chars) rest := by
  rw [text, List.cons_append, List.append_assoc]
  refine (Yields.advance e.mark _).bind ?_
  refine (e.yields_sign rest).bind ?_
  refine (Yields.peek _).bind ?_
  obtain ⟨c, cs, hcs, hc⟩ := e.run.exists_cons
  have hdigits := e.run.yields_digits h
  rw [hcs] at hdigits ⊢
  simp only [List.cons_append, List.head?_cons, if_pos hc]
  exact hdigits.bind (.pure _ rest)

theorem noDigit_text (rest : List Char) : NoDigit (e.text ++ rest) := by
  refine noDigit_cons ?_ _
  have hmark := e.isMark
  simp only [isExponentMark, Bool.or_eq_true, decide_eq_true_eq] at hmark
  rcases hmark with h | h
  · rw [h]
    rfl
  · rw [h]
    rfl

end Exponent

theorem yields_optionalExponent (negative : Bool) (n : Nat) (shift : Int) (h : Stops rest) :
    Yields (optionalExponent negative n shift) rest none rest := by
  refine (Yields.peek rest).bind ?_
  cases hr : rest.head? with
  | none => exact .pure none rest
  | some c =>
    simp only [h.not_exponent c hr]
    exact .pure none rest

theorem Exponent.yields_optional (e : Exponent) {negative : Bool} {shift : Int} {number : Number}
    (hvalue : withExponent negative n shift (e.negative, e.run.chars) = .ok number) (h : Stops rest) :
    Yields (optionalExponent negative n shift) (e.text ++ rest) (some number) rest := by
  refine (Yields.peek _).bind ?_
  have hpart := e.yields_part h.noDigit
  simp only [text, List.cons_append, List.head?_cons, if_pos e.isMark] at hpart ⊢
  refine hpart.bind ?_
  exact (Yields.lift hvalue rest).bind (.pure _ rest)

namespace Numeral

variable (m : Numeral)

theorem noDigit_exponent (h : Stops rest) : NoDigit (exponentText m.exponent ++ rest) := by
  cases m.exponent with
  | none => exact h.noDigit
  | some e => exact e.noDigit_text rest

theorem noDigit_fraction (h : Stops rest) :
    NoDigit (fractionText m.fraction ++ (exponentText m.exponent ++ rest)) := by
  cases m.fraction with
  | none => exact m.noDigit_exponent h
  | some run => exact noDigit_cons rfl _

theorem not_point (h : Stops rest) : (exponentText m.exponent ++ rest).head? ≠ some '.' := by
  cases m.exponent with
  | none => exact h.not_point
  | some e =>
    intro hc
    have hmark : e.mark = '.' := Option.some.inj hc
    have := e.isMark
    rw [hmark] at this
    exact absurd this (by decide)

theorem yields_unsigned {number : Number} (hvalue : m.value = .ok number) (h : Stops rest) :
    Yields (unsignedNumber m.negative) (m.unsignedText ++ rest) number rest := by
  rw [unsignedText, List.append_assoc, List.append_assoc]
  refine (m.whole.yields_whole m.leading (m.noDigit_fraction h)).bind ?_
  rw [value] at hvalue
  generalize gatherWhole 0 m.whole.chars = gathered at hvalue ⊢
  obtain ⟨whole, extra⟩ := gathered
  refine (Yields.peek _).bind ?_
  cases hf : m.fraction with
  | none =>
    rw [fractionText, List.nil_append, if_neg (m.not_point h)]
    cases he : m.exponent with
    | none =>
      simp only [hf, he] at hvalue
      exact (yields_optionalExponent _ whole _ h).bind (.lift hvalue rest)
    | some e =>
      simp only [hf, he] at hvalue
      exact (e.yields_optional hvalue h).bind (.pure _ rest)
  | some run =>
    have hpoint : ('.' :: run.chars ++ (exponentText m.exponent ++ rest)).head? = some '.' := rfl
    rw [fractionText, if_pos hpoint]
    refine (run.yields_decimals (m.noDigit_exponent h)).bind ?_
    simp only [hf] at hvalue
    generalize gatherDecimals whole 0 run.chars = gathered at hvalue ⊢
    obtain ⟨all, places⟩ := gathered
    cases he : m.exponent with
    | none =>
      simp only [he] at hvalue
      exact (yields_optionalExponent _ all _ h).bind (.lift hvalue rest)
    | some e =>
      simp only [he] at hvalue
      exact (e.yields_optional hvalue h).bind (.pure _ rest)

theorem unsignedText_eq_cons : ∃ c cs, m.unsignedText = c :: cs ∧ isDigit c = true := by
  obtain ⟨c, cs, hcs, hc⟩ := m.whole.exists_cons
  rw [unsignedText, hcs]
  exact ⟨c, _, rfl, hc⟩

theorem text_eq_cons : ∃ c cs, m.text = c :: cs ∧ (c = '-' ∨ isDigit c = true) := by
  unfold text
  cases m.negative with
  | true => exact ⟨'-', m.unsignedText, rfl, .inl rfl⟩
  | false =>
    obtain ⟨c, cs, hcs, hc⟩ := m.unsignedText_eq_cons
    exact ⟨c, cs, hcs, .inr hc⟩

theorem reads {number : Number} (hvalue : m.value = .ok number) : Reads Json.number m.text number := by
  intro rest h
  have hunsigned := m.yields_unsigned hvalue h
  refine (Yields.peek _).bind ?_
  unfold text
  cases hneg : m.negative with
  | true =>
    rw [hneg] at hunsigned
    exact (Yields.advance '-' _).bind hunsigned
  | false =>
    rw [hneg] at hunsigned
    obtain ⟨c, cs, hcs, hc⟩ := m.unsignedText_eq_cons
    have hsign : (m.unsignedText ++ rest).head? ≠ some '-' := by
      rw [hcs]
      intro hx
      obtain rfl := Option.some.inj hx
      exact absurd hc (by decide)
    simp only [Bool.false_eq_true, if_false, if_neg hsign]
    exact hunsigned

theorem skips_exponent (h : Stops rest) : Yields skipExponent (exponentText m.exponent ++ rest) () rest := by
  refine (Yields.peek _).bind ?_
  cases m.exponent with
  | none =>
    rw [exponentText, List.nil_append]
    cases hr : rest.head? with
    | none => exact .pure () rest
    | some c =>
      simp only [h.not_exponent c hr]
      exact .pure () rest
  | some e =>
    simp only [exponentText, Exponent.text, List.cons_append, List.append_assoc, List.head?_cons, if_pos e.isMark]
    refine (Yields.advance e.mark _).bind ?_
    refine (e.yields_sign rest).bind ?_
    exact e.run.skips_some h.noDigit

theorem skips_fraction (h : Stops rest) :
    Yields (do
      if (← peek) = some '.' then
        advance
        someDigits
      skipExponent) (fractionText m.fraction ++ (exponentText m.exponent ++ rest)) () rest := by
  refine (Yields.peek _).bind ?_
  have hexponent := m.skips_exponent h
  cases m.fraction with
  | none =>
    rw [fractionText, List.nil_append, if_neg (m.not_point h)]
    exact hexponent
  | some run =>
    refine (Yields.advance '.' _).bind ?_
    exact (run.skips_some (m.noDigit_exponent h)).bind hexponent

theorem skips_after {c : Char} {cs : List Char} (hcs : m.unsignedText = c :: cs) (h : Stops rest) :
    Yields (skipNumberAfter c) (cs ++ rest) () rest := by
  obtain ⟨d, ds, hds, _⟩ := m.whole.exists_cons
  rw [unsignedText, hds, List.cons_append] at hcs
  obtain ⟨rfl, rfl⟩ := List.cons.inj hcs
  have hfraction := m.skips_fraction h
  rw [List.append_assoc, List.append_assoc]
  unfold skipNumberAfter
  by_cases h0 : d = '0'
  · subst h0
    have hwhole := m.leading (by rw [hds]; rfl)
    rw [hds] at hwhole
    obtain rfl := (List.cons.inj hwhole).2
    refine (Yields.peek _).bind ?_
    rw [List.nil_append, isDigitOpt_head? (m.noDigit_fraction h)]
    exact hfraction
  · have hrun : ∀ c ∈ ds, isDigit c = true := fun c hc => m.whole.all c (hds ▸ List.mem_cons_of_mem d hc)
    rw [if_neg h0]
    have hdigits : Yields skipDigits (ds ++ (fractionText m.fraction ++ (exponentText m.exponent ++ rest))) ()
        (fractionText m.fraction ++ (exponentText m.exponent ++ rest)) :=
      (yields_digits hrun (m.noDigit_fraction h)).bind (.pure () _)
    exact hdigits.bind hfraction

theorem skips_unsigned (h : Stops rest) : Yields skipUnsigned (m.unsignedText ++ rest) () rest := by
  obtain ⟨c, cs, hcs, hc⟩ := m.unsignedText_eq_cons
  refine (Yields.peek _).bind ?_
  rw [hcs]
  simp only [List.cons_append, List.head?_cons, if_pos hc]
  refine (Yields.advance c _).bind ?_
  exact m.skips_after hcs h

end Numeral

theorem gatherWhole_of_le {ds : List Char} (h : extend n ds ≤ wordMax) : gatherWhole n ds = (extend n ds, 0) := by
  induction ds generalizing n with
  | nil => rfl
  | cons c ds ih =>
    have hfits : 10 * n + digitValue c ≤ wordMax := Nat.le_trans (le_extend _ ds) h
    simp only [gatherWhole, if_pos hfits]
    exact ih h

theorem numeral_leading (n : Nat) (h : (numeral n).head? = some '0') : numeral n = ['0'] := by
  by_cases h0 : n = 0
  · rw [h0, numeral_zero]
  · obtain ⟨c, cs, hcs, _, hc⟩ := numeral_eq_cons h0
    rw [hcs] at h
    exact absurd (Option.some.inj h) hc

def Numeral.ofInt (k : Int) : Numeral where
  negative := decide (k < 0)
  whole := ⟨numeral k.natAbs, allDigits_numeral _, numeral_ne_nil _⟩
  fraction := none
  exponent := none
  leading := numeral_leading _

theorem Numeral.text_ofInt (k : Int) : (ofInt k).text = integral k := by
  cases k with
  | ofNat n => simp [text, ofInt, unsignedText, fractionText, exponentText, integral]
  | negSucc n => simp [text, ofInt, unsignedText, fractionText, exponentText, integral]

theorem Numeral.value_ofInt {k : Int} (hlo : -0x8000000000000000 ≤ k) (hhi : k ≤ wordMax) :
    (ofInt k).value = .ok (.whole k) := by
  have hgather : gatherWhole 0 (numeral k.natAbs) = (k.natAbs, 0) := by
    have hvalue : extend 0 (numeral k.natAbs) = k.natAbs := valueOf_numeral _
    rw [gatherWhole_of_le, hvalue]
    rw [hvalue]
    simp only [wordMax] at hhi ⊢
    omega
  have hvalue : (ofInt k).value = wholeNumber (decide (k < 0)) k.natAbs 0 := by
    simp only [value, ofInt, hgather]
  rw [hvalue, wholeNumber, if_neg (by simp)]
  by_cases hneg : k < 0
  · rw [if_neg (by simpa using hneg), if_pos (by omega)]
    exact congrArg (Except.ok ∘ Number.whole) (by omega)
  · rw [if_pos (by simpa using hneg)]
    exact congrArg (Except.ok ∘ Number.whole) (by omega)

theorem reads_number {k : Int} (hlo : -0x8000000000000000 ≤ k) (hhi : k ≤ wordMax) :
    Reads number (integral k) (.whole k) := by
  rw [← Numeral.text_ofInt]
  exact Numeral.reads _ (Numeral.value_ofInt hlo hhi)

theorem isBlank_of_numeric {c : Char} (hc : c = '-' ∨ isDigit c = true) : Json.isBlank c = false := by
  have hne {d : Char} (hd : ¬(d = '-' ∨ isDigit d = true)) : c ≠ d := by
    rintro rfl
    exact hd hc
  simp only [Json.isBlank, Bool.or_eq_false_iff, decide_eq_false_iff_not]
  exact ⟨⟨⟨hne (by decide), hne (by decide)⟩, hne (by decide)⟩, hne (by decide)⟩

end MarketTicker.Json
