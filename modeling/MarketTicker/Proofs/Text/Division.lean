import Mathlib.Data.List.TakeWhile
import MarketTicker.Text.Pieces

namespace MarketTicker.Text

variable {sep : Char} {cs : List Char}

def before (sep : Char) (cs : List Char) : List Char :=
  cs.takeWhile (· ≠ sep)

def behind (sep : Char) (cs : List Char) : List Char :=
  (cs.dropWhile (· ≠ sep)).tail

theorem before_self (rest : List Char) : before sep (sep :: rest) = [] := by
  simp [before]

theorem before_cons {c : Char} (h : c ≠ sep) (rest : List Char) :
    before sep (c :: rest) = c :: before sep rest := by
  simp [before, h]

theorem before_append (h : sep ∉ cs) (rest : List Char) : before sep (cs ++ rest) = cs ++ before sep rest := by
  refine List.takeWhile_append_of_pos fun c hc => ?_
  simpa using ne_of_mem_of_not_mem hc h

theorem before_append_self (cs rest : List Char) : before sep (cs ++ sep :: rest) = before sep cs := by
  induction cs with
  | nil => exact before_self rest
  | cons c cs ih =>
    by_cases hc : c = sep
    · rw [hc, List.cons_append, before_self, before_self]
    · rw [List.cons_append, before_cons hc, before_cons hc, ih]

theorem behind_append (h : sep ∉ cs) (rest : List Char) : behind sep (cs ++ sep :: rest) = rest := by
  have hcs : ∀ c ∈ cs, decide (c ≠ sep) = true := fun c hc => by simpa using ne_of_mem_of_not_mem hc h
  rw [behind, List.dropWhile_append_of_pos hcs]
  simp

theorem before_eq_self_iff : before sep cs = cs ↔ sep ∉ cs := by
  rw [before, List.takeWhile_eq_self_iff]
  simp only [decide_eq_true_eq]
  exact ⟨fun h hmem => h sep hmem rfl, fun h c hc => ne_of_mem_of_not_mem hc h⟩

theorem before_isPrefix (sep : Char) (cs : List Char) : before sep cs <+: cs :=
  List.takeWhile_prefix _

theorem notMem_before (sep : Char) (cs : List Char) : sep ∉ before sep cs := by
  intro hmem
  simpa using List.mem_takeWhile_imp hmem

theorem exists_pieces (sep : Char) (cs : List Char) : ∃ more, pieces sep cs = before sep cs :: more := by
  by_cases h : sep ∈ cs
  · obtain ⟨first, rest, rfl, hfirst⟩ := List.eq_append_cons_of_mem h
    rw [pieces_append hfirst, before_append hfirst, before_self, List.append_nil]
    exact ⟨_, rfl⟩
  · rw [pieces_of_notMem h, before_eq_self_iff.2 h]
    exact ⟨_, rfl⟩

section Label

variable {label keys keys' vals vals' more : List Char}

theorem of_label_append (h : sep ∉ label) (heq : (sep :: label) ++ vals = more ++ ((sep :: label) ++ vals')) :
    more = [] ∧ vals = vals' ∨
      ∃ between, more = (sep :: label) ++ between ∧ vals = between ++ ((sep :: label) ++ vals') := by
  cases more with
  | nil => exact .inl ⟨rfl, List.append_cancel_left heq⟩
  | cons c more =>
    obtain ⟨rfl, htail⟩ := List.cons.inj heq
    right
    rcases List.append_eq_append_iff.1 htail with ⟨between, rfl, hvals⟩ | ⟨rest, rfl, hrest⟩
    · exact ⟨between, rfl, hvals⟩
    · -- The second label cannot begin within the first one.
      cases rest with
      | nil => exact ⟨[], by simp, by simpa using hrest.symm⟩
      | cons e rest =>
        obtain ⟨rfl, -⟩ := List.cons.inj hrest
        exact absurd (List.mem_append_right more List.mem_cons_self) h

theorem append_label_append_iff (h : sep ∉ label) :
    keys ++ ((sep :: label) ++ vals) = keys' ++ ((sep :: label) ++ vals') ↔
      (keys = keys' ∧ vals = vals') ∨
      (∃ between, keys' = keys ++ ((sep :: label) ++ between) ∧ vals = between ++ ((sep :: label) ++ vals')) ∨
      ∃ between, keys = keys' ++ ((sep :: label) ++ between) ∧ vals' = between ++ ((sep :: label) ++ vals) := by
  constructor
  · intro heq
    rcases List.append_eq_append_iff.1 heq with ⟨more, rfl, hmore⟩ | ⟨more, rfl, hmore⟩
    · rcases of_label_append h hmore with ⟨rfl, rfl⟩ | ⟨between, rfl, hvals⟩
      · exact .inl ⟨(List.append_nil keys).symm, rfl⟩
      · exact .inr (.inl ⟨between, rfl, hvals⟩)
    · rcases of_label_append h hmore with ⟨rfl, rfl⟩ | ⟨between, rfl, hvals⟩
      · exact .inl ⟨List.append_nil keys', rfl⟩
      · exact .inr (.inr ⟨between, rfl, hvals⟩)
  · rintro (⟨rfl, rfl⟩ | ⟨between, rfl, rfl⟩ | ⟨between, rfl, rfl⟩)
    · rfl
    · simp
    · simp

end Label

end MarketTicker.Text
