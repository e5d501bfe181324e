import MarketTicker.Proofs.Text.Numeral
import MarketTicker.Text.Pieces

namespace MarketTicker.Text

variable {cs core : List Char} {sep : Char} {ps is : List (List Char)} {max n : Nat}

def Blank (cs : List Char) : Prop :=
  ∀ c ∈ cs, isBlank c = true

structure Wraps (cs core : List Char) : Prop where
  around : ∃ left right, Blank left ∧ Blank right ∧ cs = left ++ (core ++ right)
  first : ∀ c ∈ core.head?, isBlank c = false
  last : ∀ c ∈ core.getLast?, isBlank c = false

theorem trimLeft_ends (cs : List Char) : ∀ c ∈ (trimLeft cs).head?, isBlank c = false := by
  intro c hc
  have hnot := List.head?_dropWhile_not isBlank cs
  rw [show cs.dropWhile isBlank = trimLeft cs from rfl, Option.mem_def.1 hc] at hnot
  simpa using hnot

theorem exists_trimLeft (cs : List Char) : ∃ left, Blank left ∧ cs = left ++ trimLeft cs :=
  ⟨cs.takeWhile isBlank, List.all_eq_true.1 List.all_takeWhile, List.takeWhile_append_dropWhile.symm⟩

theorem wraps_trim (cs : List Char) : Wraps cs (trim cs) := by
  obtain ⟨left, hleft, hcs⟩ := exists_trimLeft cs
  obtain ⟨right, hright, hrest⟩ := exists_trimLeft (trimLeft cs).reverse
  have hinner : trimLeft cs = trim cs ++ right.reverse := by
    rw [← List.reverse_reverse (trimLeft cs), hrest, List.reverse_append, trim]
  refine ⟨⟨left, right.reverse, hleft, fun c hc => hright c (List.mem_reverse.1 hc), ?_⟩, ?_, ?_⟩
  · rw [← hinner, ← hcs]
  · -- What remains of a text is a beginning of it, so that it begins alike.
    intro c hc
    refine trimLeft_ends cs c ?_
    rw [hinner, List.head?_append, Option.mem_def.1 hc]
    rfl
  · rw [trim, List.getLast?_reverse]
    exact trimLeft_ends _

theorem wraps_iff : Wraps cs core ↔ trim cs = core := by
  constructor
  · rintro ⟨⟨left, right, hleft, hright, rfl⟩, hfirst, hlast⟩
    exact trim_padded hleft hright hfirst hlast
  · rintro rfl
    exact wraps_trim cs

theorem blank_nil : Blank [] := by
  simp [Blank]

theorem wraps_nil : Wraps cs [] ↔ Blank cs := by
  constructor
  · rintro ⟨⟨left, right, hleft, hright, rfl⟩, -, -⟩ c hc
    rcases List.mem_append.1 hc with hc | hc
    · exact hleft c hc
    · exact hright c hc
  · intro h
    exact ⟨⟨cs, [], h, blank_nil, (List.append_nil cs).symm⟩, nofun, nofun⟩

theorem trim_eq_nil : trim cs = [] ↔ Blank cs :=
  wraps_iff.symm.trans wraps_nil

def Literal (max : Nat) (cs : List Char) (n : Nat) : Prop :=
  ∃ ds, (cs = ds ∨ cs = '+' :: ds) ∧ ds ≠ [] ∧ AllDigits ds ∧ valueOf ds = n ∧ n ≤ max

theorem AllDigits.dropPlus {ds : List Char} (h : AllDigits ds) : dropPlus ds = ds := by
  unfold Text.dropPlus
  split
  · exact absurd (h '+' List.mem_cons_self) (by decide)
  · rfl

theorem eq_dropPlus (cs : List Char) : cs = dropPlus cs ∨ cs = '+' :: dropPlus cs := by
  unfold dropPlus
  split
  · exact .inr rfl
  · exact .inl rfl

theorem readBounded_eq_some : readBounded max cs = some n ↔ Literal max cs n := by
  constructor
  · intro h
    simp only [readBounded] at h
    split at h
    case isTrue hread =>
      obtain rfl := Option.some.inj h
      exact ⟨dropPlus cs, eq_dropPlus cs, hread.1, List.all_eq_true.1 hread.2.1, rfl, hread.2.2⟩
    case isFalse => cases h
  · rintro ⟨ds, hcs, hne, hdigits, rfl, hmax⟩
    have hdrop : dropPlus cs = ds := by
      rcases hcs with rfl | rfl
      · exact hdigits.dropPlus
      · rfl
    rw [readBounded, hdrop, if_pos ⟨hne, List.all_eq_true.2 hdigits, hmax⟩]

theorem literal_numeral (h : n ≤ max) : Literal max (numeral n) n :=
  readBounded_eq_some.1 (readBounded_numeral h)

theorem readWord_eq_some {w : UInt32} : readWord cs = some w ↔ Literal 0xFFFFFFFF cs w.toNat := by
  rw [readWord, Option.map_eq_some_iff]
  constructor
  · rintro ⟨n, hn, rfl⟩
    obtain ⟨-, -, -, -, -, hmax⟩ := readBounded_eq_some.1 hn
    rw [UInt32.toNat_ofNat_of_lt' (Nat.lt_succ_of_le hmax)]
    exact readBounded_eq_some.1 hn
  · intro h
    exact ⟨w.toNat, readBounded_eq_some.2 h, UInt32.ofNat_toNat⟩

structure Divided (sep : Char) (cs : List Char) (ps : List (List Char)) : Prop where
  joined : [sep].intercalate ps = cs
  free : ∀ p ∈ ps, sep ∉ p
  occupied : ps ≠ []

theorem pieces_eq_splitOn (sep : Char) (cs : List Char) : pieces sep cs = cs.splitOn sep := by
  induction cs with
  | nil => rfl
  | cons c cs ih =>
    rw [pieces, List.splitOn_cons_eq_if_modifyHead, ih]
    by_cases hc : c = sep
    · rw [if_pos hc, if_pos (beq_iff_eq.2 hc)]
    · rw [if_neg hc, if_neg (mt beq_iff_eq.1 hc)]
      cases hsplit : cs.splitOn sep with
      | nil => exact absurd hsplit (List.splitOn_ne_nil sep cs)
      | cons p ps => rfl

theorem notMem_of_mem_pieces : ∀ p ∈ pieces sep cs, sep ∉ p := by
  induction cs with
  | nil => simp [pieces]
  | cons c cs ih =>
    rw [pieces]
    split
    · simpa using ih
    · rename_i hc
      cases hps : pieces sep cs with
      | nil => exact absurd hps (pieces_ne_nil sep cs)
      | cons p ps =>
        rw [hps] at ih
        simpa [Ne.symm hc] using ih

theorem divided_iff : Divided sep cs ps ↔ pieces sep cs = ps := by
  constructor
  · rintro ⟨rfl, hfree, hoccupied⟩
    rw [pieces_eq_splitOn, List.splitOn_intercalate sep hfree hoccupied]
  · rintro rfl
    refine ⟨?_, notMem_of_mem_pieces, pieces_ne_nil sep cs⟩
    rw [pieces_eq_splitOn, List.intercalate_splitOn]

/-- The items are the pieces without the blanks around them; a blank piece holds none. -/
inductive Itemized : List (List Char) → List (List Char) → Prop
  | nil : Itemized [] []
  | blank {p ps is} (hp : Blank p) (hrest : Itemized ps is) : Itemized (p :: ps) is
  | item {p ps i is} (hp : Wraps p i) (hi : i ≠ []) (hrest : Itemized ps is) : Itemized (p :: ps) (i :: is)

theorem itemized_iff : Itemized ps is ↔ (ps.map trim).filter (· ≠ []) = is := by
  constructor
  · intro h
    induction h with
    | nil => rfl
    | blank hp _ ih => simpa [trim_eq_nil.2 hp] using ih
    | item hp hi _ ih => simpa [wraps_iff.1 hp, hi] using ih
  · rintro rfl
    induction ps with
    | nil => exact .nil
    | cons p ps ih =>
      by_cases hp : trim p = []
      · simpa [hp] using Itemized.blank (trim_eq_nil.1 hp) ih
      · simpa [hp] using Itemized.item (wraps_trim p) hp ih

theorem Itemized.free (h : Itemized ps is) (hblank : isBlank sep = false) (his : ∀ i ∈ is, sep ∉ i) :
    ∀ p ∈ ps, sep ∉ p := by
  have hclear {cs : List Char} (hcs : Blank cs) : sep ∉ cs := by
    intro hmem
    exact Bool.noConfusion (hblank.symm.trans (hcs sep hmem))
  induction h with
  | nil => exact nofun
  | blank hp _ ih =>
    rintro q (_ | ⟨_, hq⟩)
    · exact hclear hp
    · exact ih his q hq
  | item hp _ _ ih =>
    rintro q (_ | ⟨_, hq⟩)
    · obtain ⟨⟨left, right, hleft, hright, rfl⟩, -, -⟩ := hp
      simp only [List.mem_append, not_or]
      exact ⟨hclear hleft, his _ List.mem_cons_self, hclear hright⟩
    · exact ih (fun i hi => his i (List.mem_cons_of_mem _ hi)) q hq

end MarketTicker.Text
