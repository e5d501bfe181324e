import MarketTicker.Proofs.Json.Grammar
import MarketTicker.Proofs.Json.Reading

namespace MarketTicker.Json

def YieldsChars (s cs rest : List Char) : Prop :=
  ∃ h, chars s = .ok ⟨cs, rest, h⟩

namespace YieldsChars

variable {s cs rest r : List Char} {c d : Char}

theorem close (r : List Char) : YieldsChars ('"' :: r) [] r :=
  ⟨Nat.le_succ _, by rw [chars, if_pos rfl]⟩

theorem plain (hq : c ≠ '"') (hb : c ≠ '\\') (hc : ¬c.toNat < 0x20) (h : YieldsChars s cs rest) :
    YieldsChars (c :: s) (c :: cs) rest := by
  obtain ⟨hle, h⟩ := h
  refine ⟨Nat.le_succ_of_le hle, ?_⟩
  rw [chars, if_neg hq, if_neg hb, if_neg hc, h]
  rfl

theorem escaped (he : Yields escape s d r) (h : YieldsChars r cs rest) :
    YieldsChars ('\\' :: s) (d :: cs) rest := by
  obtain ⟨hr, he⟩ := he
  obtain ⟨hle, h⟩ := h
  refine ⟨Nat.le_succ_of_le (Nat.le_trans hle hr), ?_⟩
  rw [chars, if_neg (by decide), if_pos rfl, he]
  simp only [h]
  rfl

end YieldsChars

theorem yields_simpleEscape {c d : Char} (h : simpleEscape? c = some d) (r : List Char) :
    Yields escape (c :: r) d r := by
  refine (Yields.peek _).bind ?_
  refine (Yields.advance c r).bind ?_
  simp only [h]
  exact .pure d r

theorem yields_hexQuad {a b c d : Char} {n : Nat} (h : hexQuad? a b c d = some n) (r : List Char) :
    Yields hexQuad (a :: b :: c :: d :: r) n r := by
  refine ⟨by simp only [List.length_cons]; omega, ?_⟩
  simp only [hexQuad, h]

theorem yields_code {a b c d : Char} {n : Nat} (h : hexQuad? a b c d = some n) (hhigh : isHighSurrogate n = false)
    (hlow : isLowSurrogate n = false) (r : List Char) :
    Yields escape ('u' :: a :: b :: c :: d :: r) (.ofNat n) r := by
  refine (Yields.peek _).bind ?_
  refine (Yields.advance 'u' _).bind ?_
  refine (yields_hexQuad h r).bind ?_
  rw [hlow, hhigh]
  exact .pure _ r

theorem yields_escapePart (c : Char) (r : List Char) : Yields (escapePart c) (c :: r) () r := by
  refine (Yields.peek _).bind ?_
  simp only [List.head?_cons, if_pos]
  exact .advance c r

theorem yields_pair {a b c d a' b' c' d' : Char} {high low : Nat} (hhigh : hexQuad? a b c d = some high)
    (hisHigh : isHighSurrogate high = true) (hlow : hexQuad? a' b' c' d' = some low)
    (hisLow : isLowSurrogate low = true) (r : List Char) :
    Yields escape ('u' :: a :: b :: c :: d :: '\\' :: 'u' :: a' :: b' :: c' :: d' :: r)
      (.ofNat (0x10000 + (high - 0xD800) * 0x400 + (low - 0xDC00))) r := by
  have hnotLow : isLowSurrogate high = false := by
    simp only [isHighSurrogate, isLowSurrogate, Bool.and_eq_true, decide_eq_true_eq, Bool.and_eq_false_iff,
      decide_eq_false_iff_not] at hisHigh ⊢
    omega
  refine (Yields.peek _).bind ?_
  refine (Yields.advance 'u' _).bind ?_
  refine (yields_hexQuad hhigh _).bind ?_
  rw [hnotLow, hisHigh]
  refine (yields_escapePart '\\' _).bind ?_
  refine (yields_escapePart 'u' _).bind ?_
  refine (yields_hexQuad hlow r).bind ?_
  rw [hisLow]
  exact .pure _ r

theorem writeChar_cases (c : Char) :
    (∃ d, simpleEscape? d = some c ∧ writeChar c = ['\\', d]) ∨
      c.toNat < 0x20 ∧
        writeChar c = ['\\', 'u', '0', '0', Text.hexDigit (c.toNat / 16), Text.hexDigit (c.toNat % 16)] ∨
      (c ≠ '"' ∧ c ≠ '\\' ∧ ¬c.toNat < 0x20) ∧ writeChar c = [c] := by
  by_cases h1 : c = '"'
  · subst h1
    exact .inl ⟨'"', rfl, rfl⟩
  by_cases h2 : c = '\\'
  · subst h2
    exact .inl ⟨'\\', rfl, rfl⟩
  by_cases h3 : c = '\n'
  · subst h3
    exact .inl ⟨'n', rfl, rfl⟩
  by_cases h4 : c = '\r'
  · subst h4
    exact .inl ⟨'r', rfl, rfl⟩
  by_cases h5 : c = '\t'
  · subst h5
    exact .inl ⟨'t', rfl, rfl⟩
  by_cases h6 : c = '\x08'
  · subst h6
    exact .inl ⟨'b', rfl, rfl⟩
  by_cases h7 : c = '\x0c'
  · subst h7
    exact .inl ⟨'f', rfl, rfl⟩
  rw [writeChar, if_neg h1, if_neg h2, if_neg h3, if_neg h4, if_neg h5, if_neg h6, if_neg h7]
  by_cases hc : c.toNat < 0x20
  · exact .inr (.inl ⟨hc, if_pos hc⟩)
  · exact .inr (.inr ⟨⟨h1, h2, hc⟩, if_neg hc⟩)

theorem hexQuad?_control {n : Nat} (h : n < 0x20) :
    hexQuad? '0' '0' (Text.hexDigit (n / 16)) (Text.hexDigit (n % 16)) = some n := by
  have key : ∀ k : Fin 0x20,
      hexQuad? '0' '0' (Text.hexDigit (k / 16)) (Text.hexDigit (k % 16)) = some k.val := by decide
  exact key ⟨n, h⟩

theorem SpellsChars.written {s cs : List Char} (h : SpellsChars s cs) (c : Char) :
    SpellsChars (writeChar c ++ s) (c :: cs) := by
  rcases writeChar_cases c with ⟨d, hd, hw⟩ | ⟨hc, hw⟩ | ⟨⟨hq, hb, hc⟩, hw⟩
  · rw [hw]
    exact .short hd h
  · rw [hw]
    have hsurrogate : isHighSurrogate c.toNat = false ∧ isLowSurrogate c.toNat = false := by
      simp only [isHighSurrogate, isLowSurrogate, Bool.and_eq_false_iff, decide_eq_false_iff_not]
      omega
    have hcode := SpellsChars.code (hexQuad?_control hc) hsurrogate.1 hsurrogate.2 h
    rw [Char.ofNat_toNat] at hcode
    exact hcode
  · rw [hw]
    exact .plain hq hb hc h

theorem spellsText_writeText (s : String) : SpellsText (writeText s) s := by
  have key (cs : List Char) : SpellsChars (cs.flatMap writeChar) cs := by
    induction cs with
    | nil => exact .nil
    | cons c cs ih =>
      rw [List.flatMap_cons]
      exact ih.written c
  exact ⟨_, rfl, key s.toList⟩

theorem SpellsChars.yields {s cs : List Char} (h : SpellsChars s cs) (rest : List Char) :
    YieldsChars (s ++ '"' :: rest) cs rest := by
  induction h with
  | nil => exact .close rest
  | plain hq hb hc _ ih => exact .plain hq hb hc ih
  | short he _ ih => exact .escaped (yields_simpleEscape he _) ih
  | code hn hhigh hlow _ ih => exact .escaped (yields_code hn hhigh hlow _) ih
  | pair hhigh hisHigh hlow hisLow _ ih => exact .escaped (yields_pair hhigh hisHigh hlow hisLow _) ih

theorem SpellsText.eq_cons {t : List Char} {s : String} (h : SpellsText t s) : ∃ cs, t = '"' :: cs := by
  obtain ⟨body, rfl, _⟩ := h
  exact ⟨_, rfl⟩

theorem SpellsText.yields {t : List Char} {s : String} (h : SpellsText t s) (rest : List Char) :
    Yields text (t ++ rest) s rest := by
  obtain ⟨body, rfl, hbody⟩ := h
  have hsplit : ('"' :: body ++ ['"']) ++ rest = '"' :: (body ++ '"' :: rest) := by simp
  rw [hsplit]
  refine (Yields.advance '"' _).bind ?_
  refine Yields.bind (a := s.toList) (hbody.yields rest) ?_
  have hs := Yields.pure (String.ofList s.toList) rest
  rw [String.ofList_toList] at hs
  simpa using hs

theorem yields_text (s : String) (rest : List Char) : Yields text (writeText s ++ rest) s rest :=
  (spellsText_writeText s).yields rest

def SkipsChars (s rest : List Char) : Prop :=
  ∃ h, skipChars s = .ok ⟨(), rest, h⟩

namespace SkipsChars

variable {s rest r : List Char} {c : Char}

theorem close (r : List Char) : SkipsChars ('"' :: r) r :=
  ⟨Nat.le_succ _, by rw [skipChars, if_pos rfl]⟩

theorem plain (hq : c ≠ '"') (hb : c ≠ '\\') (hc : ¬c.toNat < 0x20) (h : SkipsChars s rest) :
    SkipsChars (c :: s) rest := by
  obtain ⟨hle, h⟩ := h
  refine ⟨Nat.le_succ_of_le hle, ?_⟩
  rw [skipChars, if_neg hq, if_neg hb, if_neg hc, h]
  rfl

theorem escaped (he : Yields skipEscape s () r) (h : SkipsChars r rest) : SkipsChars ('\\' :: s) rest := by
  obtain ⟨hr, he⟩ := he
  obtain ⟨hle, h⟩ := h
  refine ⟨Nat.le_succ_of_le (Nat.le_trans hle hr), ?_⟩
  rw [skipChars, if_neg (by decide), if_pos rfl, he]
  simp only [h]
  rfl

end SkipsChars

theorem Letters.skips {s : List Char} (h : Letters s) (rest : List Char) : SkipsChars (s ++ '"' :: rest) rest := by
  induction h with
  | nil => exact .close rest
  | plain hq hb hc _ ih => exact .plain hq hb hc ih
  | @short s e he _ ih =>
    obtain ⟨c, hc⟩ := Option.isSome_iff_exists.1 he
    refine .escaped ?_ ih
    refine (Yields.peek _).bind ?_
    refine (Yields.advance e _).bind ?_
    simp only [hc]
    exact .pure () _
  | @code s a b c d hn _ ih =>
    obtain ⟨n, hn⟩ := Option.isSome_iff_exists.1 hn
    refine .escaped ?_ ih
    refine (Yields.peek _).bind ?_
    refine (Yields.advance 'u' _).bind ?_
    exact (yields_hexQuad hn _).bind (.pure () _)

theorem writeText_of_plain {cs : List Char} (h : ∀ c ∈ cs, writeChar c = [c]) :
    writeText (String.ofList cs) = '"' :: cs ++ ['"'] := by
  have hflat : cs.flatMap writeChar = cs := by
    induction cs with
    | nil => rfl
    | cons c cs ih =>
      rw [List.flatMap_cons, h c List.mem_cons_self, ih fun c hc => h c (List.mem_cons_of_mem _ hc)]
      rfl
  rw [writeText, String.toList_ofList, hflat]

end MarketTicker.Json
