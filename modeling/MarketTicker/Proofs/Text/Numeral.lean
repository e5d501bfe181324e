import Mathlib.Algebra.Ring.Nat
import MarketTicker.Text.Blank
import MarketTicker.Text.Numeral

namespace MarketTicker.Text

variable {ds rest : List Char} {c : Char} {n : Nat}

def AllDigits (ds : List Char) : Prop :=
  ∀ c ∈ ds, isDigit c = true

def NoDigit (s : List Char) : Prop :=
  ∀ c ∈ s.head?, isDigit c = false

theorem noDigit_nil : NoDigit [] := by
  simp [NoDigit]

theorem noDigit_cons {c : Char} (hc : isDigit c = false) (s : List Char) : NoDigit (c :: s) := by
  simpa [NoDigit] using hc

theorem NoDigit.take {s : List Char} (h : NoDigit s) (n : Nat) : NoDigit (s.take n) := by
  intro c hc
  cases s with
  | nil => simp at hc
  | cons d s =>
    cases n with
    | zero => simp at hc
    | succ n => exact h c hc

theorem le_extend (n : Nat) (ds : List Char) : n ≤ extend n ds := by
  induction ds generalizing n with
  | nil => exact Nat.le_refl n
  | cons c ds ih =>
    refine Nat.le_trans ?_ (ih (10 * n + digitValue c))
    omega

theorem AllDigits.append {es : List Char} (hd : AllDigits ds) (he : AllDigits es) : AllDigits (ds ++ es) := by
  intro c hc
  rcases List.mem_append.1 hc with hc | hc
  · exact hd c hc
  · exact he c hc

theorem AllDigits.takeWhile (hd : AllDigits ds) (hrest : NoDigit rest) :
    (ds ++ rest).takeWhile isDigit = ds := by
  rw [List.takeWhile_append_of_pos hd]
  cases rest with
  | nil => simp
  | cons c rest => rw [List.takeWhile_cons_of_neg (by simp [hrest c rfl]), List.append_nil]

theorem AllDigits.dropWhile (hd : AllDigits ds) (hrest : NoDigit rest) :
    (ds ++ rest).dropWhile isDigit = rest := by
  rw [List.dropWhile_append_of_pos hd]
  cases rest with
  | nil => rfl
  | cons c rest => exact List.dropWhile_cons_of_neg (by simp [hrest c rfl])

theorem allDigits_numeral (n : Nat) : AllDigits (numeral n) :=
  numeral_all_digits n

theorem numeral_zero : numeral 0 = ['0'] := by
  rw [numeral]
  rfl

theorem AllDigits.exists_cons (hd : AllDigits ds) (hne : ds ≠ []) : ∃ c cs, ds = c :: cs ∧ isDigit c = true := by
  cases ds with
  | nil => exact absurd rfl hne
  | cons c cs => exact ⟨c, cs, rfl, hd c List.mem_cons_self⟩

theorem numeral_eq_cons (h : n ≠ 0) : ∃ c cs, numeral n = c :: cs ∧ isDigit c = true ∧ c ≠ '0' := by
  fun_induction numeral n with
  | case1 n hn =>
    have key : ∀ k : Fin 10, k.val ≠ 0 → digitChar k ≠ '0' := by decide
    exact ⟨digitChar n, [], rfl, isDigit_digitChar hn, key ⟨n, hn⟩ h⟩
  | case2 n hn ih =>
    obtain ⟨c, cs, hcs, hc, hzero⟩ := ih (by omega)
    exact ⟨c, cs ++ [digitChar (n % 10)], by rw [hcs]; rfl, hc, hzero⟩

theorem toList_repr (n : Nat) : n.repr.toList = numeral n := by
  have hchar {k : Nat} (h : k < 10) : k.digitChar = digitChar k := by
    have key : ∀ k : Fin 10, Nat.digitChar k = digitChar k := by decide
    exact key ⟨k, h⟩
  rw [Nat.toList_repr]
  fun_induction numeral n with
  | case1 n h => rw [Nat.toDigits_of_lt_base h, hchar h]
  | case2 n h ih =>
    rw [Nat.toDigits_of_base_le (by decide) (Nat.not_lt.1 h), ih, hchar (Nat.mod_lt n (by decide))]

theorem length_numeral_le {width : Nat} (hw : width ≠ 0) (h : n < 10 ^ width) : (numeral n).length ≤ width := by
  fun_induction numeral n generalizing width with
  | case1 n hn =>
    rw [List.length_singleton]
    omega
  | case2 n hn ih =>
    obtain ⟨w, rfl⟩ := Nat.exists_eq_succ_of_ne_zero hw
    rw [Nat.pow_succ] at h
    have hwide : w ≠ 0 := by
      rintro rfl
      omega
    have hlen := ih hwide (by omega)
    rw [List.length_append, List.length_singleton]
    omega

theorem allDigits_padded (width n : Nat) : AllDigits (padded width n) := by
  refine AllDigits.append ?_ (allDigits_numeral n)
  intro c hc
  rw [List.eq_of_mem_replicate hc]
  rfl

theorem valueOf_padded (width n : Nat) : valueOf (padded width n) = n := by
  have hzeros (k : Nat) : extend 0 (List.replicate k '0') = 0 := by
    induction k with
    | zero => rfl
    | succ k ih => exact ih
  rw [valueOf, padded, extend_append, hzeros]
  exact valueOf_numeral n

theorem length_padded {width n : Nat} (hw : width ≠ 0) (h : n < 10 ^ width) : (padded width n).length = width := by
  have hlen := length_numeral_le hw h
  rw [padded, List.length_append, List.length_replicate]
  omega

theorem le_length_padded (width n : Nat) : width ≤ (padded width n).length := by
  rw [padded, List.length_append, List.length_replicate]
  omega

theorem isDigit_iff : isDigit c = true ↔ 48 ≤ c.toNat ∧ c.toNat ≤ 57 := by
  simp only [isDigit, Bool.and_eq_true, decide_eq_true_eq, Char.le_def, UInt32.le_iff_toNat_le]
  rfl

theorem isBlank_of_isDigit (h : isDigit c = true) : isBlank c = false := by
  obtain ⟨hlo, hhi⟩ := isDigit_iff.1 h
  rw [isBlank, List.any_eq_false]
  intro (lo, hi) hrange hin
  simp only [blankRanges, List.mem_cons, Prod.mk.injEq, List.not_mem_nil, or_false] at hrange
  simp only [Bool.and_eq_true, decide_eq_true_eq] at hin
  omega

theorem trimLeft_append {left : List Char} (h : ∀ c ∈ left, isBlank c = true) (cs : List Char) :
    trimLeft (left ++ cs) = trimLeft cs :=
  List.dropWhile_append_of_pos h

theorem trim_padded {left right cs : List Char} (hleft : ∀ c ∈ left, isBlank c = true)
    (hright : ∀ c ∈ right, isBlank c = true) (hfirst : ∀ c ∈ cs.head?, isBlank c = false)
    (hlast : ∀ c ∈ cs.getLast?, isBlank c = false) : trim (left ++ (cs ++ right)) = cs := by
  have key {ds : List Char} (h : ∀ c ∈ ds.head?, isBlank c = false) : trimLeft ds = ds := by
    cases ds with
    | nil => rfl
    | cons c ds => exact trimLeft_cons (h c rfl) ds
  rw [trim, trimLeft_append hleft]
  cases cs with
  | nil =>
    have hnil : trimLeft right = [] := by
      rw [← List.append_nil right, trimLeft_append hright]
      rfl
    rw [List.nil_append, hnil]
    rfl
  | cons c cs =>
    have hreverse : ∀ d ∈ right.reverse, isBlank d = true := fun d hd => hright d (List.mem_reverse.1 hd)
    rw [List.cons_append, trimLeft_cons (hfirst c rfl), ← List.cons_append, List.reverse_append,
      trimLeft_append hreverse, key, List.reverse_reverse]
    rw [List.head?_reverse]
    exact hlast

theorem trim_eq_self {cs : List Char} (hfirst : ∀ c ∈ cs.head?, isBlank c = false)
    (hlast : ∀ c ∈ cs.getLast?, isBlank c = false) : trim cs = cs := by
  have hpadded : trim ([] ++ (cs ++ [])) = cs := trim_padded nofun nofun hfirst hlast
  rwa [List.append_nil] at hpadded

end MarketTicker.Text
