import Mathlib.Data.List.Basic
import MarketTicker.Text.LetterCase

namespace MarketTicker.Text

/-- A small letter that only itself and its capital become, unlike `k`, which the sign of the kelvin becomes too. -/
def Own (c : Char) : Prop :=
  'a' ≤ c ∧ c ≤ 'z' ∧ c ≠ 'k'

instance (c : Char) : Decidable (Own c) :=
  inferInstanceAs (Decidable (_ ∧ _ ∧ _))

theorem not_own_of_le {c : Char} (h : 0x80 ≤ c.toNat) : ¬Own c := by
  rintro ⟨-, hz, -⟩
  have hz : c.toNat ≤ 0x7A := hz
  omega

theorem not_own_ofNat {n : Nat} (h : 0x80 ≤ n) : ¬Own (Char.ofNat n) := by
  by_cases hn : n.isValidChar
  · refine not_own_of_le ?_
    rw [Char.ofNat, dif_pos hn]
    exact h
  · rw [Char.ofNat, dif_neg hn]
    decide

/-- No capital outside ASCII but the sign of the kelvin has its small letter in it. -/
theorem capitalRuns_stay : ∀ run ∈ capitalRuns, 0x80 ≤ run.last →
    0x80 ≤ run.first + run.shift ∨ run = ⟨0x212A, 0x212A, 1, -8383⟩ := by
  decide +kernel

theorem not_own_of_holds {run : CapitalRun} (hrun : run ∈ capitalRuns) {n : Nat} (hn : run.holds n = true)
    (h : 0x80 ≤ n) : ¬Own (Char.ofNat (n + run.shift).toNat) := by
  simp only [CapitalRun.holds, Bool.and_eq_true, decide_eq_true_eq] at hn
  obtain ⟨⟨hfirst, hlast⟩, -⟩ := hn
  rcases capitalRuns_stay run hrun (by omega) with hstay | rfl
  · exact not_own_ofNat (by omega)
  · obtain rfl : n = 0x212A := Nat.le_antisymm hlast hfirst
    decide

theorem exists_not_own {c : Char} (h : 0x80 ≤ c.toNat) : ∃ d ∈ lowerChar c, ¬Own d := by
  unfold lowerChar
  rw [if_neg (by omega)]
  split
  · exact ⟨'\u0307', by simp, by decide⟩
  · split
    · rename_i run hrun
      have hholds : run.holds c.toNat = true := by simpa using List.find?_some hrun
      exact ⟨_, List.mem_singleton_self _, not_own_of_holds (List.mem_of_find?_eq_some hrun) hholds h⟩
    · exact ⟨c, List.mem_singleton_self c, not_own_of_le h⟩

theorem lowerAscii_eq (c : Char) : lowerAscii c = c.toLower := by
  by_cases h : 'A' ≤ c ∧ c ≤ 'Z'
  · have key : ∀ k < 26, lowerAscii (Char.ofNat (0x41 + k)) = (Char.ofNat (0x41 + k)).toLower := by decide
    have hlo : 0x41 ≤ c.toNat := h.1
    have hhi : c.toNat ≤ 0x5A := h.2
    have hc := key (c.toNat - 0x41) (by omega)
    rwa [Nat.add_sub_cancel' hlo, Char.ofNat_toNat] at hc
  · have hc : c.toLower = c := dif_neg (show ¬(c.val ≥ 'A'.val ∧ c.val ≤ 'Z'.val) from h)
    rw [lowerAscii, if_neg h, hc]

theorem lowerFrom_eq_iff {before cs ds : List Char} (h : ∀ d ∈ ds, Own d) :
    lowerFrom before cs = ds ↔ cs.map Char.toLower = ds := by
  induction cs generalizing before ds with
  | nil => rfl
  | cons c cs ih =>
    rw [lowerFrom, List.map_cons]
    by_cases hc : c.toNat < 0x80
    · have hsigma : c ≠ 'Σ' := by
        rintro rfl
        exact absurd hc (by decide)
      rw [if_neg hsigma, lowerChar, if_pos hc, lowerAscii_eq, List.singleton_append]
      cases ds with
      | nil => simp
      | cons d ds => rw [List.cons.injEq, List.cons.injEq, ih fun x hx => h x (List.mem_cons_of_mem d hx)]
    · -- outside ASCII neither side can be made of such letters alone
      have hc : 0x80 ≤ c.toNat := Nat.le_of_not_lt hc
      have hleft : ∃ d ∈ if c = 'Σ' then [smallSigma before cs] else lowerChar c, ¬Own d := by
        split
        · unfold smallSigma
          split
          · exact ⟨'ς', by simp, by decide⟩
          · exact ⟨'σ', by simp, by decide⟩
        · exact exists_not_own hc
      have hright : c.toLower = c := by
        rw [← lowerAscii_eq, lowerAscii, if_neg]
        intro hletter
        have hz : c.toNat ≤ 0x5A := hletter.2
        omega
      constructor
      · rintro rfl
        obtain ⟨d, hd, hown⟩ := hleft
        exact absurd (h d (List.mem_append_left _ hd)) hown
      · rintro rfl
        exact absurd (h c (by simp [hright])) (not_own_of_le hc)

theorem lower_eq_iff {cs ds : List Char} (h : ∀ d ∈ ds, Own d) : lower cs = ds ↔ cs.map Char.toLower = ds :=
  lowerFrom_eq_iff h

end MarketTicker.Text
