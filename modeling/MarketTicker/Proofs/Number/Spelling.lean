import MarketTicker.Number.Spelling
import MarketTicker.Proofs.Text.Numeral

namespace MarketTicker.Decimal

open Text

variable {negative point some? : Bool} {n scale : Nat} {c : Char} {ds rest : List Char}

theorem signed_natAbs (k : Int) : signed (decide (k < 0)) k.natAbs = k := by
  rw [signed]
  split <;> rename_i h <;> simp only [decide_eq_true_eq] at h <;> omega

/-- A digit counts while it fits: the value below `2 ^ 96`, and at most 28 places. -/
theorem readDigits_digit (hc : isDigit c = true) (hfits : 10 * n + digitValue c < 0x1000000000000000000000000)
    (hroom : point = true → scale < 28) :
    readDigits negative n scale point some? (c :: rest) =
      readDigits negative (10 * n + digitValue c) (if point then scale + 1 else scale) point true rest := by
  have hplaces : ¬(point = true ∧ 28 ≤ scale) := by
    rintro ⟨hp, hs⟩
    exact absurd (hroom hp) (by omega)
  rw [readDigits, if_neg hplaces, if_pos hc, if_pos hfits]

theorem readDigits_append (hd : AllDigits ds) (hfits : extend n ds < 0x1000000000000000000000000)
    (hroom : point = true → scale + ds.length ≤ 28) :
    readDigits negative n scale point some? (ds ++ rest) =
      readDigits negative (extend n ds) (if point then scale + ds.length else scale) point
        (some? || !ds.isEmpty) rest := by
  induction ds generalizing n scale some? with
  | nil => simp [extend]
  | cons c ds ih =>
    have hstep : 10 * n + digitValue c < 0x1000000000000000000000000 :=
      Nat.lt_of_le_of_lt (le_extend _ ds) hfits
    have hplace : point = true → scale < 28 := by
      intro hp
      have := hroom hp
      rw [List.length_cons] at this
      omega
    rw [List.cons_append, readDigits_digit (hd c List.mem_cons_self) hstep hplace,
      ih (fun c hc => hd c (List.mem_cons_of_mem _ hc)) hfits]
    · cases point <;> simp [extend, Nat.add_assoc, Nat.add_comm 1]
    · intro hp
      have := hroom hp
      rw [List.length_cons] at this
      rw [if_pos hp]
      omega

theorem readDigits_pointed (hd : AllDigits ds) (hlength : scale < ds.length) (hscale : scale ≤ 28)
    (hfits : valueOf ds < 0x1000000000000000000000000) :
    readDigits negative 0 0 false false (pointed scale ds) = make? (signed negative (valueOf ds)) scale := by
  obtain ⟨as, bs, rfl, hbs, has⟩ : ∃ as bs, as ++ bs = ds ∧ bs.length = scale ∧ as.isEmpty = false := by
    refine ⟨_, _, List.take_append_drop (ds.length - scale) ds, ?_, ?_⟩
    · rw [List.length_drop]
      omega
    · simp only [List.isEmpty_eq_false_iff, ne_eq, List.take_eq_nil_iff]
      rintro (h | rfl)
      · omega
      · simp at hlength
  have has' : AllDigits as := fun c hc => hd c (List.mem_append_left _ hc)
  have hbs' : AllDigits bs := fun c hc => hd c (List.mem_append_right _ hc)
  have hvalue : valueOf (as ++ bs) = extend (valueOf as) bs := extend_append 0 as bs
  rw [hvalue] at hfits ⊢
  have hfront : valueOf as < 0x1000000000000000000000000 := Nat.lt_of_le_of_lt (le_extend _ bs) hfits
  have hwhole (rest : List Char) : readDigits negative 0 0 false false (as ++ rest) =
      readDigits negative (valueOf as) 0 false true rest := by
    rw [readDigits_append has' hfront (by simp), has]
    rfl
  rw [pointed]
  by_cases h0 : scale = 0
  · have hnil : bs = [] := List.eq_nil_of_length_eq_zero (hbs.trans h0)
    rw [if_pos h0, hwhole, hnil, h0]
    rfl
  · have hcut : (as ++ bs).length - scale = as.length := by
      rw [List.length_append, hbs, Nat.add_sub_cancel]
    rw [if_neg h0, hcut, List.take_left, List.drop_left, hwhole]
    -- the point itself takes no place
    have hpoint : readDigits negative (valueOf as) 0 false true ('.' :: bs) =
        readDigits negative (valueOf as) 0 true true (bs ++ []) := by
      rw [List.append_nil]
      rfl
    rw [hpoint, readDigits_append hbs' hfits (by omega)]
    simp [readDigits, hbs]

theorem pointed_eq_cons (hd : AllDigits ds) (hlength : scale < ds.length) :
    ∃ c cs, pointed scale ds = c :: cs ∧ isDigit c = true := by
  obtain ⟨c, cs, rfl, hc⟩ := hd.exists_cons (List.ne_nil_of_length_pos (Nat.zero_lt_of_lt hlength))
  rw [pointed]
  split
  · exact ⟨c, cs, rfl, hc⟩
  · obtain ⟨k, hk⟩ := Nat.exists_eq_add_of_lt hlength
    have hcut : (c :: cs).length - scale = k + 1 := by omega
    rw [hcut]
    exact ⟨c, _, rfl, hc⟩

theorem mem_pointed (hd : AllDigits ds) (hc : c ∈ pointed scale ds) : isDigit c = true ∨ c = '.' := by
  rw [pointed] at hc
  split at hc
  · exact .inl (hd c hc)
  · rcases List.mem_append.1 hc with hc | hc
    · exact .inl (hd c (List.mem_of_mem_take hc))
    · rcases List.mem_cons.1 hc with rfl | hc
      · exact .inr rfl
      · exact .inl (hd c (List.mem_of_mem_drop hc))

theorem mem_spell {d : Decimal} (hc : c ∈ d.spell) : isDigit c = true ∨ c = '.' ∨ c = '-' := by
  rcases List.mem_append.1 hc with hc | hc
  · split at hc
    · exact .inr (.inr (List.mem_singleton.1 hc))
    · cases hc
  · rcases mem_pointed (allDigits_padded _ _) hc with hc | hc
    · exact .inl hc
    · exact .inr (.inl hc)

theorem readPlain_of_digit (hc : isDigit c = true) (cs : List Char) :
    readPlain (c :: cs) = readDigits false 0 0 false false (c :: cs) := by
  rw [readPlain]
  · rintro rest hx
    obtain rfl := (List.cons.inj hx).1
    exact absurd hc (by decide)
  · rintro rest hx
    obtain rfl := (List.cons.inj hx).1
    exact absurd hc (by decide)

theorem read_spell (d : Decimal) : read d.spell = some d := by
  have hwidth : d.scale < (padded (d.scale + 1) d.coefficient.natAbs).length := le_length_padded _ _
  have hdigits := allDigits_padded (d.scale + 1) d.coefficient.natAbs
  have hread (negative : Bool) : readDigits negative 0 0 false false
      (pointed d.scale (padded (d.scale + 1) d.coefficient.natAbs)) =
      make? (signed negative d.coefficient.natAbs) d.scale := by
    rw [readDigits_pointed hdigits hwidth d.scale_le]
    · rw [valueOf_padded]
    · rw [valueOf_padded]
      exact d.coefficient_lt
  have hself : make? (signed (decide (d.coefficient < 0)) d.coefficient.natAbs) d.scale = some d := by
    rw [signed_natAbs]
    exact make?_self d
  have hplain : readPlain d.spell = some d := by
    rw [spell]
    by_cases hneg : d.coefficient < 0
    · rw [if_pos hneg]
      rw [decide_eq_true hneg] at hself
      exact (hread true).trans hself
    · rw [if_neg hneg, List.nil_append]
      rw [decide_eq_false hneg] at hself
      obtain ⟨c, cs, hcs, hc⟩ := pointed_eq_cons hdigits hwidth
      rw [← hself, ← hread false, hcs]
      exact readPlain_of_digit hc cs
  rw [read, hplain]
  rfl

end MarketTicker.Decimal
