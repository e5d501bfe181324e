import MarketTicker.Proofs.Json.Document
import MarketTicker.Proofs.Json.Layout

namespace MarketTicker.Json

open Value

variable {α : Type} {room : Nat} {t : List Char} {v : Value}

theorem Spelled.true : Spelled (.boolean true) ['t', 'r', 'u', 'e'] := by
  intro list object rest _
  exact (Yields.ahead rfl _).bind (.word 't' ['r', 'u', 'e'] _ rest)

theorem Spelled.false : Spelled (.boolean false) ['f', 'a', 'l', 's', 'e'] := by
  intro list object rest _
  exact (Yields.ahead rfl _).bind (.word 'f' ['a', 'l', 's', 'e'] _ rest)

theorem isString_of_spells {s : String} (h : SpellsText t s) : IsString t := by
  have key {body cs : List Char} (h : SpellsChars body cs) : Letters body := by
    induction h with
    | nil => exact .nil
    | plain hq hb hc _ ih => exact .plain hq hb hc ih
    | short he _ ih => exact .short (by rw [he]; rfl) ih
    | code hn _ _ _ ih => exact .code (by rw [hn]; rfl) ih
    | pair hhigh _ hlow _ _ ih => exact .code (by rw [hhigh]; rfl) (.code (by rw [hlow]; rfl) ih)
  obtain ⟨body, rfl, hbody⟩ := h
  exact ⟨body, rfl, key hbody⟩

theorem Spells.isValue (h : Spells room t v) : IsValue t := by
  induction h with
  | null => exact .null
  | true => exact .true
  | false => exact .false
  | number n _ => exact .number n
  | text h => exact .text (isString_of_spells h)
  | list inner items _ ih =>
    refine .list inner _ fun i hi => ?_
    obtain ⟨p, hp, rfl⟩ := List.mem_map.1 hi
    exact ih p hp
  | object inner members hkeys _ _ ih =>
    refine .object inner _ (fun m hm => ?_) fun m hm => ?_
    · obtain ⟨p, hp, rfl⟩ := List.mem_map.1 hm
      exact isString_of_spells (hkeys p hp)
    · obtain ⟨p, hp, rfl⟩ := List.mem_map.1 hm
      exact ih p hp

theorem IsValue.opens (h : IsValue t) : Opens t := by
  cases h with
  | number n => exact n.opens
  | text h =>
    obtain ⟨body, rfl, _⟩ := h
    exact opens_cons rfl (by decide)
  | _ => exact opens_cons rfl (by decide)

theorem patient_reader (arrange : Members → Members) (room : Nat) : Patient (reader arrange room) := by
  cases room with
  | zero => exact patient_ahead.bind _
  | succ room => exact patient_ahead.bind _

theorem reads_list {x : Reader α} (inner : Blanks) {items : List (ItemText × α)}
    (hitems : ∀ i ∈ items, ReadsItem x i.1 i.2) :
    Reads (Json.items x) (listText inner (items.map Prod.fst)) (items.map Prod.snd) := by
  refine reads_items inner ?_
  rw [List.forall₂_map_left_iff, List.forall₂_map_right_iff, List.forall₂_same]
  exact hitems

/-- Every text of a value is kept as that value. -/
theorem Spells.reads (h : Spells room t v) : Reads (reader sortMembers room) t v := by
  induction h with
  | null => exact reader_plain _ _ .null
  | true => exact reader_plain _ _ .true
  | false => exact reader_plain _ _ .false
  | number n hvalue => exact reader_plain _ _ (.ofNumeral n hvalue)
  | text h => exact reader_plain _ _ (.ofText h)
  | list inner items hitems ih =>
    intro rest hrest
    have hread := reads_list inner fun i hi => ⟨(hitems i hi).isValue.opens, ih i hi⟩
    exact (Yields.ahead rfl _).bind (hread.map Value.array rest hrest)
  | @object room inner members hkeys hvalues hnodup ih =>
    intro rest hrest
    have hmembers : List.Forall₂ (ReadsMember (reader sortMembers room)) (members.map fun m => (m.1, m.2.1))
        (members.map Prod.snd) := by
      rw [List.forall₂_map_left_iff, List.forall₂_map_right_iff, List.forall₂_same]
      exact fun m hm => ⟨hkeys m hm, rfl, (patient_reader sortMembers room).reads (ih m hm) m.1.beforeValue⟩
    have hsteps := steps_addMember hmembers []
    rw [List.append_nil] at hsteps
    have hread := (hsteps.reads inner).map fun ms => Value.object (sortMembers ms.reverse)
    rw [List.reverse_reverse, List.map_map] at hread
    exact (Yields.ahead rfl _).bind (hread rest hrest)

end MarketTicker.Json
