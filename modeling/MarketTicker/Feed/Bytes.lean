namespace MarketTicker.Feed

abbrev Take (α : Type) := StateT (List UInt8) Option α

def word16Of (a b : UInt8) : UInt16 :=
  UInt16.ofNat (a.toNat * 256 + b.toNat)

def word32Of (a b c d : UInt8) : UInt32 :=
  UInt32.ofNat (((a.toNat * 256 + b.toNat) * 256 + c.toNat) * 256 + d.toNat)

def word16 : Take UInt16
  | a :: b :: rest => some (word16Of a b, rest)
  | _ => none

def word32 : Take UInt32
  | a :: b :: c :: d :: rest => some (word32Of a b c d, rest)
  | _ => none

def bytes16 (w : UInt16) : List UInt8 :=
  [UInt8.ofNat (w.toNat / 256), UInt8.ofNat w.toNat]

def bytes32 (w : UInt32) : List UInt8 :=
  [UInt8.ofNat (w.toNat / 16777216), UInt8.ofNat (w.toNat / 65536), UInt8.ofNat (w.toNat / 256),
    UInt8.ofNat w.toNat]

theorem bytes16_word16Of (a b : UInt8) : bytes16 (word16Of a b) = [a, b] := by
  have ha := a.toNat_lt
  have hb := b.toNat_lt
  simp only [bytes16, word16Of, UInt16.toNat_ofNat', List.cons.injEq, and_true]
  constructor <;> apply UInt8.toNat_inj.1 <;> simp only [UInt8.toNat_ofNat'] <;> omega

theorem bytes32_word32Of (a b c d : UInt8) : bytes32 (word32Of a b c d) = [a, b, c, d] := by
  have ha := a.toNat_lt
  have hb := b.toNat_lt
  have hc := c.toNat_lt
  have hd := d.toNat_lt
  simp only [bytes32, word32Of, UInt32.toNat_ofNat', List.cons.injEq, and_true]
  refine ⟨?_, ?_, ?_, ?_⟩ <;> apply UInt8.toNat_inj.1 <;> simp only [UInt8.toNat_ofNat'] <;> omega

theorem word16_append (w : UInt16) (rest : List UInt8) : word16 (bytes16 w ++ rest) = some (w, rest) := by
  have hw := w.toNat_lt
  simp only [bytes16, List.cons_append, List.nil_append, word16, Option.some.injEq, Prod.mk.injEq, and_true]
  apply UInt16.toNat_inj.1
  simp only [word16Of, UInt16.toNat_ofNat', UInt8.toNat_ofNat']
  omega

theorem eq_of_word32 {bs rest : List UInt8} {w : UInt32} (h : word32 bs = some (w, rest)) :
    bs = bytes32 w ++ rest := by
  unfold word32 at h
  split at h
  · cases h; simp [bytes32_word32Of]
  · cases h

theorem eq_of_word16 {bs rest : List UInt8} {w : UInt16} (h : word16 bs = some (w, rest)) :
    bs = bytes16 w ++ rest := by
  unfold word16 at h
  split at h
  · cases h; simp [bytes16_word16Of]
  · cases h

end MarketTicker.Feed
