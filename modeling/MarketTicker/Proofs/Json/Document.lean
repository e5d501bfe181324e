import MarketTicker.Proofs.Json.Record
import MarketTicker.Proofs.Json.Shape

namespace MarketTicker.Json

open Value

variable {ps : List (String × List Char)} {ms : Members}

def Holds (p : String × List Char) (m : String × Value) : Prop :=
  m.1 = p.1 ∧ Spelled m.2 p.2

theorem keys_of_holds (h : List.Forall₂ Holds ps ms) :
    ms.map Prod.fst = ps.map Prod.fst := by
  induction h with
  | nil => rfl
  | cons hm _ ih => rw [List.map_cons, List.map_cons, hm.1, ih]

theorem reader_plain (arrange : Members → Members) (room : Nat) {v : Value} {text : List Char} (h : Spelled v text) :
    Reads (reader arrange room) text v := by
  cases room with
  | zero => exact h _ _
  | succ room => exact h _ _

def ReadsMember (value : Reader Value) (p : MemberText × String) (m : String × Value) : Prop :=
  SpellsText p.1.key p.2 ∧ p.2 = m.1 ∧ Reads value (p.1.beforeValue.chars ++ p.1.value) m.2

theorem steps_addMember {value : Reader Value} {named : List (MemberText × String)}
    (h : List.Forall₂ (ReadsMember value) named ms) (before : Members) :
    Steps (addMember value) before named (ms.reverse ++ before) := by
  induction h generalizing before with
  | nil => exact .nil
  | @cons p m named ms hm _ ih =>
    obtain ⟨text, key⟩ := p
    obtain ⟨_, v⟩ := m
    obtain ⟨hkey, rfl, hread⟩ := hm
    refine .cons hkey (text.reads_tail (hread.map fun v => (key, v) :: before)) ?_
    have hsteps := ih ((key, v) :: before)
    simpa using hsteps

theorem reads_document (arrange : Members → Members) (room : Nat) (h : List.Forall₂ Holds ps ms) :
    Reads (reader arrange (room + 1)) (writeObject ps) (.object (arrange ms)) := by
  have hall : List.Forall₂ (ReadsMember (reader arrange room)) (keyed ps) ms := by
    rw [keyed, List.forall₂_map_left_iff]
    exact h.imp fun p m hm => ⟨spellsText_writeText p.1, hm.1.symm, reader_plain arrange room hm.2⟩
  have hmembers := (steps_addMember hall []).reads_compact.map fun ms => Value.object (arrange ms.reverse)
  rw [List.append_nil, List.reverse_reverse] at hmembers
  intro rest hrest
  exact (Yields.ahead rfl _).bind (hmembers rest hrest)

theorem reads_sorted (h : List.Forall₂ Holds ps ms) :
    Reads sorted (writeObject ps) (.object (sortMembers ms)) := by
  rw [sorted, innerRoom]
  exact reads_document sortMembers 125 h

theorem insertMember_perm {key : String} (value : Value) (h : key ∉ ms.map Prod.fst) :
    (insertMember key value ms).Perm ((key, value) :: ms) := by
  induction ms with
  | nil => exact .refl _
  | cons m ms ih =>
    rw [List.map_cons, List.mem_cons, not_or] at h
    rw [insertMember]
    split
    · exact .refl _
    · rw [if_neg h.1]
      exact ((ih h.2).cons m).trans (.swap _ _ ms)

theorem sortMembers_perm (h : (ms.map Prod.fst).Nodup) : (sortMembers ms).Perm ms := by
  have key (sorted : Members) (hsorted : ((sorted ++ ms).map Prod.fst).Nodup) :
      (ms.foldl (fun sorted m => insertMember m.1 m.2 sorted) sorted).Perm (sorted ++ ms) := by
    induction ms generalizing sorted with
    | nil =>
      rw [List.append_nil]
      exact .refl _
    | cons m ms ih =>
      have hfresh : m.1 ∉ sorted.map Prod.fst := by
        rw [List.map_append, List.nodup_append] at hsorted
        intro hmem
        exact hsorted.2.2 m.1 hmem m.1 (by simp) rfl
      have hinsert : (insertMember m.1 m.2 sorted ++ ms).Perm (sorted ++ m :: ms) :=
        ((insertMember_perm m.2 hfresh).append_right ms).trans List.perm_middle.symm
      refine (ih ?_ _ ?_).trans hinsert
      · exact (List.nodup_cons.1 h).2
      · exact (hinsert.map Prod.fst).nodup_iff.2 hsorted
  exact key [] h

def Ascending (ms : Members) : Prop :=
  ms.Pairwise fun m n => m.1 < n.1

theorem mem_insertMember {key : String} {value : Value} {m : String × Value} (h : m ∈ insertMember key value ms) :
    m = (key, value) ∨ m ∈ ms := by
  induction ms with
  | nil => exact .inl (List.mem_singleton.1 h)
  | cons n ms ih =>
    rw [insertMember] at h
    split at h
    · exact List.mem_cons.1 h
    · split at h
      · exact (List.mem_cons.1 h).imp_right (List.mem_cons_of_mem n)
      · rcases List.mem_cons.1 h with rfl | h
        · exact .inr List.mem_cons_self
        · exact (ih h).imp_right (List.mem_cons_of_mem n)

theorem Ascending.insertMember (h : Ascending ms) (key : String) (value : Value) :
    Ascending (insertMember key value ms) := by
  induction ms with
  | nil => exact List.pairwise_singleton _ _
  | cons m ms ih =>
    obtain ⟨hm, hms⟩ := List.pairwise_cons.1 h
    rw [Value.insertMember]
    split
    case isTrue hlt =>
      refine List.pairwise_cons.2 ⟨fun n hn => ?_, h⟩
      rcases List.mem_cons.1 hn with rfl | hn
      · exact hlt
      · exact String.lt_trans hlt (hm n hn)
    case isFalse hnot =>
      split
      case isTrue heq => exact List.pairwise_cons.2 ⟨fun n hn => heq ▸ hm n hn, hms⟩
      case isFalse hne =>
        refine List.pairwise_cons.2 ⟨fun n hn => ?_, ih hms⟩
        rcases mem_insertMember hn with rfl | hn
        · exact Std.lt_of_le_of_ne (String.not_lt.1 hnot) (Ne.symm hne)
        · exact hm n hn

theorem ascending_sortMembers (ms : Members) : Ascending (sortMembers ms) := by
  have key (sorted : Members) (h : Ascending sorted) :
      Ascending (ms.foldl (fun sorted m => insertMember m.1 m.2 sorted) sorted) := by
    induction ms generalizing sorted with
    | nil => exact h
    | cons m ms ih => exact ih _ (h.insertMember m.1 m.2)
  exact key [] .nil

theorem Ascending.eq_of_perm {ns : Members} (hm : Ascending ms) (hn : Ascending ns) (h : ms.Perm ns) : ms = ns := by
  refine h.eq_of_pairwise (fun a b _ _ hab hba => ?_) hm hn
  exact absurd (String.lt_trans hab hba) (String.lt_irrefl _)

/-- The order in which members are written is not kept. -/
theorem sortMembers_eq_of_perm {ns : Members} (hkeys : (ms.map Prod.fst).Nodup) (h : ms.Perm ns) :
    sortMembers ms = sortMembers ns := by
  have hkeys' : (ns.map Prod.fst).Nodup := (h.map Prod.fst).nodup_iff.1 hkeys
  refine (ascending_sortMembers ms).eq_of_perm (ascending_sortMembers ns) ?_
  exact (sortMembers_perm hkeys).trans (h.trans (sortMembers_perm hkeys').symm)

end MarketTicker.Json
