namespace MarketTicker.Text

def digitChar (n : Nat) : Char :=
  Char.ofNat (48 + n)

def isDigit (c : Char) : Bool :=
  decide ('0' ≤ c) && decide (c ≤ '9')

def digitValue (c : Char) : Nat :=
  c.toNat - 48

theorem digitValue_digitChar {n : Nat} (h : n < 10) : digitValue (digitChar n) = n := by
  have : ∀ k : Fin 10, digitValue (digitChar k) = k := by decide
  exact this ⟨n, h⟩

theorem isDigit_digitChar {n : Nat} (h : n < 10) : isDigit (digitChar n) = true := by
  have : ∀ k : Fin 10, isDigit (digitChar k) = true := by decide
  exact this ⟨n, h⟩

def numeral (n : Nat) : List Char :=
  if n < 10 then [digitChar n] else numeral (n / 10) ++ [digitChar (n % 10)]
  termination_by n
  decreasing_by omega

def extend (n : Nat) (ds : List Char) : Nat :=
  ds.foldl (fun n c => 10 * n + digitValue c) n

def valueOf (ds : List Char) : Nat :=
  extend 0 ds

theorem extend_append (n : Nat) (xs ys : List Char) : extend n (xs ++ ys) = extend (extend n xs) ys := by
  simp [extend]

theorem valueOf_numeral (n : Nat) : valueOf (numeral n) = n := by
  fun_induction numeral n with
  | case1 n h => simp [valueOf, extend, digitValue_digitChar h]
  | case2 n h ih =>
    rw [valueOf, extend_append, ← valueOf, ih]
    simp only [extend, List.foldl_cons, List.foldl_nil, digitValue_digitChar (Nat.mod_lt n (by decide))]
    omega

theorem numeral_all_digits (n : Nat) : ∀ c ∈ numeral n, isDigit c = true := by
  fun_induction numeral n with
  | case1 n h => simpa using isDigit_digitChar h
  | case2 n h ih =>
    intro c hc
    rcases List.mem_append.1 hc with hc | hc
    · exact ih c hc
    · rw [List.mem_singleton.1 hc]
      exact isDigit_digitChar (Nat.mod_lt n (by decide))

theorem numeral_ne_nil (n : Nat) : numeral n ≠ [] := by
  rw [numeral]
  split <;> simp

def integral : Int → List Char
  | .ofNat n => numeral n
  | .negSucc n => '-' :: numeral (n + 1)

def padded (width n : Nat) : List Char :=
  List.replicate (width - (numeral n).length) '0' ++ numeral n

def dropPlus : List Char → List Char
  | '+' :: rest => rest
  | cs => cs

theorem dropPlus_numeral (n : Nat) : dropPlus (numeral n) = numeral n := by
  unfold dropPlus
  split
  · rename_i rest he
    exact absurd (numeral_all_digits n '+' (by simp [he])) (by decide)
  · rfl

def readBounded (max : Nat) (cs : List Char) : Option Nat :=
  let ds := dropPlus cs
  if ds ≠ [] ∧ ds.all isDigit ∧ valueOf ds ≤ max then some (valueOf ds) else none

theorem readBounded_numeral {max n : Nat} (h : n ≤ max) : readBounded max (numeral n) = some n := by
  simp only [readBounded, dropPlus_numeral, valueOf_numeral]
  rw [if_pos ⟨numeral_ne_nil n, List.all_eq_true.2 (numeral_all_digits n), h⟩]

def readWord (cs : List Char) : Option UInt32 :=
  (readBounded 0xFFFFFFFF cs).map UInt32.ofNat

end MarketTicker.Text
