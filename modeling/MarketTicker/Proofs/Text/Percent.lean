import MarketTicker.Json.Text

namespace MarketTicker.Text

open Json (hexValue?)

variable {cs p : List Char}

def utf8 (cs : List Char) : List UInt8 :=
  cs.flatMap String.utf8EncodeChar

def escapedByte? (c a b : Char) : Option UInt8 :=
  if c = '%' then do return .ofNat ((← hexValue? a) * 16 + (← hexValue? b)) else none

def percentBytes : List Char → List UInt8
  | c :: a :: b :: cs =>
    match escapedByte? c a b with
    | some byte => byte :: percentBytes cs
    | none => String.utf8EncodeChar c ++ percentBytes (a :: b :: cs)
  | cs => utf8 cs

def percentText (cs : List Char) : Option String :=
  String.fromUTF8? (percentBytes cs).toByteArray

def HoldsEscape (cs : List Char) : Prop :=
  ∃ a b, ['%', a, b] <:+: cs ∧ (hexValue? a).isSome ∧ (hexValue? b).isSome

theorem isSome_escapedByte? {c a b : Char} :
    (escapedByte? c a b).isSome ↔ c = '%' ∧ (hexValue? a).isSome ∧ (hexValue? b).isSome := by
  unfold escapedByte?
  split
  · cases hexValue? a <;> cases hexValue? b <;> simp_all
  · simp_all

theorem holdsEscape_cons {c : Char} :
    HoldsEscape (c :: cs) ↔ (∃ a b rest, cs = a :: b :: rest ∧ (escapedByte? c a b).isSome) ∨ HoldsEscape cs := by
  simp only [HoldsEscape, List.infix_cons_iff, isSome_escapedByte?, or_and_right, exists_or]
  refine or_congr_left ⟨?_, ?_⟩
  · rintro ⟨a, b, ⟨rest, h⟩, hhex⟩
    obtain ⟨rfl, rfl⟩ := List.cons.inj h
    exact ⟨a, b, rest, rfl, rfl, hhex⟩
  · rintro ⟨a, b, rest, rfl, rfl, hhex⟩
    exact ⟨a, b, ⟨rest, rfl⟩, hhex⟩

theorem length_percentBytes_le (cs : List Char) : (percentBytes cs).length ≤ (utf8 cs).length := by
  fun_induction percentBytes cs with
  | case1 c a b cs byte _ ih =>
    have hc := c.utf8Size_pos
    simp only [utf8, List.flatMap_cons, List.length_append, String.length_utf8EncodeChar, List.length_cons] at ih ⊢
    omega
  | case2 c a b cs _ ih =>
    rw [utf8, List.flatMap_cons, List.length_append, List.length_append]
    exact Nat.add_le_add_left ih _
  | case3 => exact Nat.le_refl _

theorem percentBytes_eq_utf8_iff : percentBytes cs = utf8 cs ↔ ¬HoldsEscape cs := by
  fun_induction percentBytes cs with
  | case1 c a b cs byte hbyte _ =>
    -- Three characters have become one byte, and nothing behind them makes up for it.
    have hle := length_percentBytes_le cs
    have hc := c.utf8Size_pos
    have ha := a.utf8Size_pos
    constructor
    · intro heq
      have hlength := congrArg List.length heq
      simp only [utf8, List.flatMap_cons, List.length_append, String.length_utf8EncodeChar, List.length_cons]
        at hlength hle
      omega
    · intro hfree
      exact absurd (holdsEscape_cons.2 (.inl ⟨a, b, cs, rfl, by rw [hbyte]; rfl⟩)) hfree
  | case2 c a b cs hbyte ih =>
    have hhere : ¬∃ a' b' rest, a :: b :: cs = a' :: b' :: rest ∧ (escapedByte? c a' b').isSome := by
      rintro ⟨a', b', rest, h, hsome⟩
      obtain ⟨rfl, rfl, rfl⟩ : a = a' ∧ b = b' ∧ cs = rest := by simpa using h
      rw [hbyte] at hsome
      exact Bool.noConfusion hsome
    rw [holdsEscape_cons, or_iff_right hhere, ← ih, utf8, List.flatMap_cons, List.append_cancel_left_eq]
    rfl
  | case3 cs hshort =>
    refine iff_of_true rfl ?_
    rintro ⟨a, b, ⟨before, after, rfl⟩, -⟩
    rcases before with _ | ⟨c, _ | ⟨d, _ | ⟨e, before⟩⟩⟩ <;> exact hshort _ _ _ _ rfl

example : percentBytes "a%26b%2".toList = utf8 "a&b%2".toList := by
  decide

instance : Decidable (HoldsEscape cs) :=
  decidable_of_iff (percentBytes cs ≠ utf8 cs) (by rw [ne_eq, percentBytes_eq_utf8_iff, Classical.not_not])

theorem eq_of_length_utf8_le (h : p <+: cs) (hle : (utf8 cs).length ≤ (utf8 p).length) : p = cs := by
  obtain ⟨rest, rfl⟩ := h
  cases rest with
  | nil => exact (List.append_nil p).symm
  | cons c rest =>
    have hc := c.utf8Size_pos
    simp only [utf8, List.flatMap_append, List.flatMap_cons, List.length_append, String.length_utf8EncodeChar] at hle
    omega

theorem percentText_eq_some {s : String} : percentText cs = some s ↔ percentBytes cs = utf8 s.toList := by
  have hbytes : (utf8 s.toList).toByteArray = s.toByteArray := String.utf8Encode_toList
  rw [← List.toByteArray_inj, hbytes, percentText, String.fromUTF8?]
  constructor
  · intro h
    obtain ⟨hvalid, hs⟩ := Option.dite_none_right_eq_some.1 h
    exact congrArg String.toByteArray (Option.some.inj hs)
  · intro h
    have hvalid : (percentBytes cs).toByteArray.IsValidUTF8 := h ▸ s.isValidUTF8
    rw [dif_pos hvalid, Option.some.injEq, ← String.toByteArray_inj]
    exact h

theorem percentText_of_isPrefix {s : String} (h : p <+: s.toList) :
    percentText p = some s ↔ p = s.toList ∧ ¬HoldsEscape s.toList := by
  rw [percentText_eq_some]
  constructor
  · intro heq
    have hp : p = s.toList := eq_of_length_utf8_le h (heq ▸ length_percentBytes_le p)
    rw [hp] at heq
    exact ⟨hp, percentBytes_eq_utf8_iff.1 heq⟩
  · rintro ⟨rfl, hfree⟩
    exact percentBytes_eq_utf8_iff.2 hfree

theorem percentText_toList {s : String} (h : ¬HoldsEscape s.toList) : percentText s.toList = some s :=
  (percentText_of_isPrefix List.prefix_rfl).2 ⟨rfl, h⟩

end MarketTicker.Text
