import MarketTicker.Json.Scalar
import MarketTicker.Proofs.Calendar.Instant
import MarketTicker.Proofs.Json.Record
import MarketTicker.Proofs.Number.Spelling

namespace MarketTicker.Json

open Text

variable {α : Type} {c : Char} {cs rest : List Char}

/-- A plain value of a document, whatever is made of containers there. -/
def Spelled (v : Value) (text : List Char) : Prop :=
  ∀ list object, Reads (Value.dispatch list object) text v

theorem Spelled.null : Spelled .null ['n', 'u', 'l', 'l'] := by
  intro list object rest _
  exact (Yields.ahead rfl _).bind (.word 'n' ['u', 'l', 'l'] _ rest)

theorem Spelled.ofText {t : List Char} {s : String} (h : SpellsText t s) : Spelled (.text s) t := by
  intro list object rest _
  have htext := (h.yields rest).map Value.text
  obtain ⟨cs, rfl⟩ := h.eq_cons
  exact (Yields.ahead rfl _).bind htext

theorem Spelled.text (s : String) : Spelled (.text s) (writeText s) :=
  .ofText (spellsText_writeText s)

theorem Spelled.ofNumeral (m : Numeral) {number : Number} (hvalue : m.value = .ok number) :
    Spelled (.number number) m.text := by
  intro list object rest hrest
  have hnumber := (m.reads hvalue rest hrest).map Value.number
  obtain ⟨c, cs, hcs, hc⟩ := m.text_eq_cons
  rw [hcs] at hnumber ⊢
  refine (Yields.ahead (isBlank_of_numeric hc) _).bind ?_
  split
  case h_1 h => cases h
  case h_8 h =>
    obtain rfl := Option.some.inj h
    rw [if_pos hc]
    exact hnumber
  all_goals
    rename_i h
    obtain rfl := Option.some.inj h
    exact absurd hc (by decide)

theorem Spelled.whole {k : Int} (hlo : -0x8000000000000000 ≤ k) (hhi : k ≤ wordMax) :
    Spelled (.number (.whole k)) (integral k) := by
  rw [← Numeral.text_ofInt]
  exact .ofNumeral _ (Numeral.value_ofInt hlo hhi)

theorem integral_eq_cons (k : Int) : ∃ c cs, integral k = c :: cs ∧ (c = '-' ∨ isDigit c = true) := by
  rw [← Numeral.text_ofInt]
  exact (Numeral.ofInt k).text_eq_cons

namespace Shape

structure Faithful (shape : Shape α) (a : α) : Prop where
  reads : Reads shape.read (shape.write a) a
  picks : ∃ v, Spelled v (shape.write a) ∧ shape.pick v = .ok a

structure Solid (shape : Shape α) (a : α) : Prop where
  restores : Restores shape.read shape.write a
  head_ne : (shape.write a).head? ≠ some 'n'
  picks : ∃ v, v ≠ .null ∧ Spelled v (shape.write a) ∧ shape.pick v = .ok a

variable {shape : Shape α} {a : α}

theorem Solid.faithful (h : shape.Solid a) : shape.Faithful a := by
  obtain ⟨v, -, hv, hpick⟩ := h.picks
  exact ⟨h.restores.reads, v, hv, hpick⟩

theorem Solid.picks_optional (h : shape.Solid a) :
    ∃ v, Spelled v (shape.write a) ∧ pickOptional shape.pick v = .ok (some a) := by
  obtain ⟨v, hv, hspelled, hpick⟩ := h.picks
  refine ⟨v, hspelled, ?_⟩
  rw [pickOptional, hpick]
  · rfl
  · exact hv

theorem Solid.optional (h : shape.Solid a) : (optionalShape shape).Faithful (some a) :=
  ⟨(h.restores.option h.head_ne).reads, h.picks_optional⟩

theorem Solid.lenient (h : shape.Solid a) (default : α) : (lenientShape default shape).Faithful a := by
  refine ⟨(h.restores.option h.head_ne).reads.map fun a? : Option α => a?.getD default, ?_⟩
  obtain ⟨v, hspelled, hpick⟩ := h.picks_optional
  refine ⟨v, hspelled, ?_⟩
  change (·.getD default) <$> pickOptional shape.pick v = .ok a
  rw [hpick]
  rfl

theorem faithful_none (shape : Shape α) : (optionalShape shape).Faithful none :=
  ⟨(restores_none shape.read shape.write).reads, .null, .null, rfl⟩

theorem faithful_optional (h : ∀ a, shape.Solid a) (a? : Option α) : (optionalShape shape).Faithful a? := by
  cases a? with
  | none => exact faithful_none shape
  | some a => exact (h a).optional

end Shape

theorem reads_textAs {t : List Char} {s : String} (h : SpellsText t s) (expected : String) :
    Reads (textAs expected) t s := by
  intro rest _
  have htext := h.yields rest
  obtain ⟨cs, rfl⟩ := h.eq_cons
  exact Yields.onNext rfl htext

theorem solid_text (s : String) : textShape.Solid s :=
  ⟨⟨opens_cons rfl (by decide), reads_textAs (spellsText_writeText s) _⟩, nofun, .text s, by simp, .text s, rfl⟩

theorem reads_integer {low high k : Int} (expected : String) (hlo : low ≤ k) (hhi : k ≤ high)
    (hlow : -0x8000000000000000 ≤ low) (hhigh : high ≤ wordMax) :
    Reads (integer low high expected) (integral k) k := by
  intro rest hrest
  have hnumber := reads_number (Int.le_trans hlow hlo) (Int.le_trans hhi hhigh) rest hrest
  obtain ⟨c, cs, hcs, hc⟩ := integral_eq_cons k
  rw [hcs] at hnumber ⊢
  refine Yields.onNext (isBlank_of_numeric hc) ?_
  rw [if_pos hc]
  refine hnumber.bind ?_
  refine Yields.lift ?_ rest
  rw [intoRange, if_pos ⟨hlo, hhi⟩]

theorem opens_integral (k : Int) : Opens (integral k) := by
  rw [← Numeral.text_ofInt]
  exact (Numeral.ofInt k).opens

theorem solid_integral {shape : Shape α} {a : α} {k : Int} (hwrite : shape.write a = integral k)
    (hreads : Reads shape.read (integral k) a) (hlo : -0x8000000000000000 ≤ k) (hhi : k ≤ wordMax)
    (hpick : shape.pick (.number (.whole k)) = .ok a) : shape.Solid a := by
  rw [← hwrite] at hreads
  refine ⟨⟨?_, hreads⟩, ?_, .number (.whole k), by simp, ?_, hpick⟩
  · rw [hwrite]
    exact opens_integral k
  · obtain ⟨c, cs, hcs, hc⟩ := integral_eq_cons k
    rw [hwrite, hcs]
    intro h
    obtain rfl := Option.some.inj h
    exact absurd hc (by decide)
  · rw [hwrite]
    exact .whole hlo hhi

theorem solid_word32 (w : UInt32) : word32Shape.Solid w := by
  have hlt := w.toNat_lt
  have hw : UInt32.ofNat (w.toNat : Int).toNat = w := by simp
  have hrange : (0 : Int) ≤ w.toNat ∧ (w.toNat : Int) ≤ 4294967295 := by omega
  apply solid_integral (k := w.toNat) rfl
  · have hreads := reads_integer "u32" hrange.1 hrange.2 (by decide) (by decide)
    exact hreads.bind fun s => by
      rw [hw]
      exact .pure w s
  · omega
  · simp only [wordMax]
    omega
  · simp only [word32Shape, pickInteger, intoRange, if_pos hrange]
    exact congrArg Except.ok hw

theorem solid_int32 (n : Int32) : int32Shape.Solid n := by
  have hlt := n.toInt_lt
  have hle := n.le_toInt
  have hn : Int32.ofInt n.toInt = n := by simp
  have hrange : -2147483648 ≤ n.toInt ∧ n.toInt ≤ 2147483647 := by omega
  apply solid_integral (k := n.toInt) rfl
  · have hreads := reads_integer "i32" hrange.1 hrange.2 (by decide) (by decide)
    exact hreads.bind fun s => by
      rw [hn]
      exact .pure n s
  · omega
  · simp only [wordMax]
    omega
  · simp only [int32Shape, pickInteger, intoRange, if_pos hrange]
    exact congrArg Except.ok hn

theorem writeChar_of_digit (hc : isDigit c = true) : writeChar c = [c] := by
  have hne {d : Char} (hd : isDigit d = false) : c ≠ d := by
    rintro rfl
    exact absurd hc (by simp [hd])
  have hlow : ¬c.toNat < 0x20 := by
    have := (isDigit_iff.1 hc).1
    omega
  rw [writeChar, if_neg (hne rfl), if_neg (hne rfl), if_neg (hne rfl), if_neg (hne rfl), if_neg (hne rfl),
    if_neg (hne rfl), if_neg (hne rfl), if_neg hlow]

theorem writeDecimal_eq (d : Decimal) : writeDecimal d = writeText (String.ofList d.spell) := by
  refine (writeText_of_plain fun c hc => ?_).symm
  rcases Decimal.mem_spell hc with hc | rfl | rfl
  · exact writeChar_of_digit hc
  · rfl
  · rfl

theorem solid_decimal (d : Decimal) : decimalShape.Solid d := by
  have hd : decimalOfText (String.ofList d.spell) = .ok d := by
    rw [decimalOfText, String.toList_ofList, Decimal.read_spell]
  refine ⟨⟨opens_cons rfl (by decide), ?_⟩, nofun, .text (String.ofList d.spell), by simp, ?_, hd⟩
  · intro rest _
    have htext := yields_text (String.ofList d.spell) rest
    rw [← writeDecimal_eq] at htext
    exact Yields.onNext rfl (htext.bind (.lift hd rest))
  · change Spelled _ (writeDecimal d)
    rw [writeDecimal_eq]
    exact .text _

theorem writeStamp_eq (t : Stamp) : '"' :: t.spell ++ ['"'] = writeText (String.ofList t.spell) := by
  refine (writeText_of_plain ?_).symm
  have hdigit (c : Char) (hc : isDigit c = true) : writeChar c = [c] := writeChar_of_digit hc
  simp only [Stamp.spell, List.forall_mem_append, List.forall_mem_cons]
  exact ⟨Calendar.forall_mem_spellDate hdigit t.date rfl rfl, rfl, Calendar.forall_mem_spellClock hdigit t.clock rfl⟩

theorem stampOfText_spell (t : Stamp) : stampOfText (some (String.ofList t.spell)) = .ok (some t) := by
  have hne : t.spell ≠ [] := by
    simp [Stamp.spell]
  simp only [stampOfText, String.toList_ofList, Stamp.trim_spell, if_neg hne, Stamp.read_spell]

theorem faithful_stamp (t? : Option Stamp) : stampShape.Faithful t? := by
  obtain ⟨s?, hwrite, hstamp⟩ : ∃ s?, stampShape.write t? = (optionalShape textShape).write s? ∧
      stampOfText s? = .ok t? := by
    cases t? with
    | none => exact ⟨none, rfl, rfl⟩
    | some t => exact ⟨some (String.ofList t.spell), writeStamp_eq t, stampOfText_spell t⟩
  obtain ⟨hreads, v, hspelled, hpick⟩ := Shape.faithful_optional solid_text s?
  rw [← hwrite] at hreads hspelled
  refine ⟨hreads.bind (.lift hstamp), v, hspelled, ?_⟩
  change (pickOptional pickText v >>= stampOfText) = .ok t?
  have hpick' : pickOptional pickText v = .ok s? := hpick
  rw [hpick']
  exact hstamp

theorem restores_word16 (w : UInt16) : Restores word16 (fun w => numeral w.toNat) w := by
  have hlt := w.toNat_lt
  have hw : UInt16.ofNat (w.toNat : Int).toNat = w := by simp
  have hreads := reads_integer "u16" (show (0 : Int) ≤ w.toNat by omega) (show (w.toNat : Int) ≤ 65535 by omega)
    (by decide) (by decide)
  refine ⟨opens_integral w.toNat, hreads.bind fun s => ?_⟩
  rw [hw]
  exact .pure w s

theorem restores_boolean (b : Bool) : Restores boolean writeBool b := by
  cases b with
  | true => exact ⟨opens_cons rfl (by decide), fun rest _ => Yields.onNext rfl (.word 't' ['r', 'u', 'e'] true rest)⟩
  | false =>
    exact ⟨opens_cons rfl (by decide), fun rest _ => Yields.onNext rfl (.word 'f' ['a', 'l', 's', 'e'] false rest)⟩

theorem reads_choice {ofName? : String → Option α} {known : List String} {t : List Char} {name : String} {a : α}
    (h : SpellsText t name) (ha : ofName? name = some a) : Reads (choice ofName? known) t a := by
  intro rest _
  have hvariant : variant ofName? known name = .ok a := by rw [variant, ha]
  have hname : Yields (text >>= fun name => .lift (variant ofName? known name)) (t ++ rest) a rest :=
    (h.yields rest).bind (.lift hvariant rest)
  obtain ⟨cs, rfl⟩ := h.eq_cons
  exact Yields.onNext rfl hname

theorem restores_choice {name : α → String} {ofName? : String → Option α} {known : List String} {a : α}
    (h : ofName? (name a) = some a) : Restores (choice ofName? known) (fun a => writeText (name a)) a :=
  ⟨opens_cons rfl (by decide), reads_choice (spellsText_writeText (name a)) h⟩

theorem writeInstant_eq (t : Instant) : writeInstant t = writeText (String.ofList t.spell) := by
  refine (writeText_of_plain (Instant.forall_mem_spell (fun c hc => writeChar_of_digit hc) ?_ t)).symm
  simp only [List.forall_mem_cons]
  exact ⟨rfl, rfl, rfl, rfl, rfl, rfl, nofun⟩

theorem restores_instant (t : Instant) : Restores readInstant writeInstant t := by
  have hinstant : instantOfText (String.ofList t.spell) = .ok t := by
    rw [instantOfText, String.toList_ofList, Instant.read_spell]
  refine ⟨opens_cons rfl (by decide), ?_⟩
  rw [writeInstant_eq]
  exact (reads_textAs (spellsText_writeText _) _).bind (.lift hinstant)

end MarketTicker.Json
