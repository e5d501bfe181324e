import MarketTicker.Market.Price
import MarketTicker.Proofs.Number.Quotient

namespace MarketTicker

namespace Segment

theorem priceDivisor_eq (s : Segment) : s.priceDivisor = 100 ∨ s.priceDivisor = 10000000 := by
  unfold priceDivisor
  split
  · exact .inr rfl
  · exact .inl rfl

theorem priceDivisor_ofId (id : UInt8) : (ofId id).priceDivisor = if id = 3 then 10000000 else 100 := by
  by_cases h : id = 3
  · subst h
    rfl
  · have hn : id.toNat ≠ 3 := fun hn => h (UInt8.toNat_inj.1 hn)
    rw [if_neg h, ofId]
    split
    case h_3 heq => exact absurd heq hn
    all_goals rfl

theorem tradable_ofId (id : UInt8) : (ofId id).tradable = true ↔ id ≠ 9 := by
  by_cases h : id = 9
  · subst h
    decide
  · have hn : id.toNat ≠ 9 := fun hn => h (UInt8.toNat_inj.1 hn)
    refine iff_of_true ?_ h
    rw [ofId]
    split
    case h_9 heq => exact absurd heq hn
    all_goals rfl

end Segment

theorem dvd_of_divisor {divisor : Nat} (h : divisor = 100 ∨ divisor = 10000000) : divisor ∣ 10 ^ 9 := by
  rcases h with rfl | rfl
  · decide
  · decide

theorem times?_price {raw : Decimal} {divisor : Nat} (hd : divisor = 100 ∨ divisor = 10000000)
    (hs : raw.scale = 0) (hr : raw.coefficient.natAbs < 2 ^ 32) :
    (price raw divisor).times? divisor = some raw.coefficient := by
  obtain ⟨p, hp, hv⟩ := Decimal.divide?_exact (dvd_of_divisor hd) hs hr
  rw [price, hp]
  exact Decimal.times?_of_eq hv

theorem times?_price_ofUInt32 {divisor : Nat} (hd : divisor = 100 ∨ divisor = 10000000) (raw : UInt32) :
    (price (.ofUInt32 raw) divisor).times? divisor = some raw.toNat :=
  times?_price hd rfl raw.toNat_lt

theorem times?_price_ofInt32 {divisor : Nat} (hd : divisor = 100 ∨ divisor = 10000000) (raw : Int32) :
    (price (.ofInt32 raw) divisor).times? divisor = some raw.toInt := by
  refine times?_price hd rfl ?_
  have hlt := raw.toInt_lt
  have hle := raw.le_toInt
  simp only [Decimal.ofInt32]
  omega

end MarketTicker
