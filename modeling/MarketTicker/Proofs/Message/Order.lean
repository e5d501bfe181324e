import Mathlib.Data.List.Perm.Basic
import MarketTicker.Message.Envelope
import MarketTicker.Proofs.Json.Document

namespace MarketTicker

open Json

namespace Order

/-- What `e` writes of an order is read, from text and from a document, as the change that `set` is. -/
structure Entry.Keeps (e : Entry) (o : Order) (set : Order → Order) : Prop where
  reads : Reads e.read (e.write o) set
  picks : ∃ v, Spelled v (e.write o) ∧ e.pick v = .ok set

variable {α : Type} {o : Order}

theorem keeps_entry {shape : Shape α} {get : Order → α} (h : shape.Faithful (get o)) (name : String)
    (set : α → Order → Order) : (entry name shape get set).Keeps o (set (get o)) := by
  refine ⟨h.reads.map set, ?_⟩
  obtain ⟨v, hspelled, hpick⟩ := h.picks
  refine ⟨v, hspelled, ?_⟩
  change set <$> shape.pick v = _
  rw [hpick]
  rfl

theorem Entry.Keeps.need {e : Entry} {set : Order → Order} (h : e.Keeps o set) :
    Entry.Keeps { e with needed := true } o set :=
  ⟨h.reads, h.picks⟩

/-- Taken together, and in any order, the changes that the entries are read as make up the order. -/
theorem restated (o : Order) : ∃ sets, List.Forall₂ (fun e set => e.Keeps o set) entries sets ∧
    sets.Pairwise (fun f g => ∀ r, f (g r) = g (f r)) ∧ sets.foldl (fun r set => set r) default = o := by
  have htext {name get set} : (textEntry name get set).Keeps o (set (get o)) :=
    keeps_entry (solid_text _).faithful name set
  have hnote {name get set} : (noteEntry name get set).Keeps o (set (get o)) :=
    keeps_entry (Shape.faithful_optional solid_text _) name set
  have hword {name get set} : (wordEntry name get set).Keeps o (set (get o)) :=
    keeps_entry ((solid_word32 _).lenient 0) name set
  have hprice {name get set} : (priceEntry name get set).Keeps o (set (get o)) :=
    keeps_entry ((solid_decimal _).lenient .zero) name set
  have htime {name get set} : (timeEntry name get set).Keeps o (set (get o)) :=
    keeps_entry (faithful_stamp _) name set
  have hint {name get set} : (entry name (lenientShape 0 int32Shape) get set).Keeps o (set (get o)) :=
    keeps_entry ((solid_int32 _).lenient 0) name set
  refine ⟨_, .cons htext.need <| .cons hnote <| .cons hnote <| .cons htext <| .cons hnote <| .cons htext <|
    .cons hword <| .cons htext <| .cons htext <| .cons htext <| .cons htext <| .cons htext <| .cons htext <|
    .cons hword <| .cons hword <| .cons hword <| .cons hword <| .cons hword <| .cons hint <| .cons hprice <|
    .cons hprice <| .cons hprice <| .cons htime <| .cons htime <| .cons htext <| .cons hnote .nil, ?_, ?_⟩
  · simp
  · rfl

theorem names_nodup : (entries.map Entry.name).Nodup := by
  decide

theorem find?_entries {e : Entry} (he : e ∈ entries) : entries.find? (fun x => x.name = e.name) = some e :=
  find?_of_nodup names_nodup he

def pairs (o : Order) : List (String × List Char) :=
  entries.map fun e => (e.name, e.write o)

theorem write_eq (o : Order) : schema.write o = writeObject o.pairs := by
  rw [Schema.write_eq]
  change writeObject ((entries.map Entry.field).map _) = _
  rw [List.map_map]
  rfl

theorem pairs_keys (o : Order) : o.pairs.map Prod.fst = entries.map Entry.name := by
  rw [pairs, List.map_map]
  rfl

theorem reads_write (o : Order) : Reads schema.read (schema.write o) o := by
  obtain ⟨sets, hkeeps, -, hwhole⟩ := o.restated
  refine Schema.reads_write (s := schema) ?_ names_nodup hwhole
  change List.Forall₂ _ (entries.map Entry.field) sets
  rw [List.forall₂_map_left_iff]
  exact hkeeps.imp fun _ _ hkeep => hkeep.reads

def Picks (m : String × Value) (set : Order → Order) : Prop :=
  ∃ e ∈ entries, e.name = m.1 ∧ e.pick m.2 = .ok set

/-- Members that the entries pick are picked one after the other, if the order's id is among them. -/
theorem pickMembers_eq {ms : Members} {sets : List (Order → Order)} (h : List.Forall₂ Picks ms sets) (r : Order)
    {named : Bool} (hnamed : named = true ∨ ∃ e ∈ entries, e.needed = true ∧ e.name ∈ ms.map Prod.fst) :
    pickMembers r named ms = .ok (sets.foldl (fun r set => set r) r) := by
  induction h generalizing r named with
  | nil =>
    rcases hnamed with rfl | ⟨_, _, _, hmem⟩
    · rfl
    · cases hmem
  | @cons m set ms sets hm _ ih =>
    obtain ⟨e, he, hkey, hpick⟩ := hm
    have hfound : entries.find? (fun x => x.name = m.1) = some e := hkey ▸ find?_entries he
    have hmore : (named || e.needed) = true ∨ ∃ x ∈ entries, x.needed = true ∧ x.name ∈ ms.map Prod.fst := by
      rcases hnamed with rfl | ⟨x, hx, hneed, hmem⟩
      · exact .inl rfl
      rcases List.mem_cons.1 hmem with hsame | hmem
      · have hfound' := find?_entries hx
        rw [hsame, hfound] at hfound'
        obtain rfl := Option.some.inj hfound'
        exact .inl (by rw [hneed, Bool.or_true])
      · exact .inr ⟨x, hx, hneed, hmem⟩
    rw [pickMembers, hfound]
    simp only [hpick]
    exact ih (set r) hmore

theorem exists_members {es : List Entry} {sets : List (Order → Order)}
    (h : List.Forall₂ (fun e set => e.Keeps o set) es sets) (hes : ∀ e ∈ es, e ∈ entries) :
    ∃ ms, List.Forall₂ Holds (es.map fun e => (e.name, e.write o)) ms ∧ List.Forall₂ Picks ms sets := by
  induction h with
  | nil => exact ⟨[], .nil, .nil⟩
  | @cons e set es sets hkeep _ ih =>
    obtain ⟨he, hes⟩ := List.forall_mem_cons.1 hes
    obtain ⟨v, hspelled, hpick⟩ := hkeep.picks
    obtain ⟨ms, hholds, hpicks⟩ := ih hes
    exact ⟨(e.name, v) :: ms, .cons ⟨rfl, hspelled⟩ hholds, .cons ⟨e, he, rfl, hpick⟩ hpicks⟩

/-- In a document the members of an order stand in another order than in its text. -/
theorem ofValue_sorted (o : Order) :
    ∃ ms, List.Forall₂ Holds o.pairs ms ∧ ofValue (.object (Value.sortMembers ms)) = .ok o := by
  obtain ⟨sets, hkeeps, hcommute, hwhole⟩ := o.restated
  obtain ⟨ms, hholds, hpicks⟩ := exists_members hkeeps fun _ he => he
  have hkeys : ms.map Prod.fst = entries.map Entry.name := (keys_of_holds hholds).trans o.pairs_keys
  have hperm : (Value.sortMembers ms).Perm ms := sortMembers_perm (by rw [hkeys]; exact names_nodup)
  obtain ⟨sets', hpicks', hperm'⟩ := List.perm_comp_forall₂ hperm hpicks
  have hid : ∃ e ∈ entries, e.needed = true ∧ e.name ∈ (Value.sortMembers ms).map Prod.fst := by
    refine ⟨_, List.mem_cons_self, rfl, ?_⟩
    rw [(hperm.map Prod.fst).mem_iff, hkeys]
    exact List.mem_cons_self
  refine ⟨ms, hholds, ?_⟩
  have hall : ∀ f ∈ sets, ∀ g ∈ sets, ∀ r, f (g r) = g (f r) := by
    refine fun f hf g hg => hcommute.forall_of_forall_of_flip (fun _ _ _ => rfl) ?_ hf hg
    exact hcommute.imp fun h r => (h r).symm
  have hfold : sets'.foldl (fun r set => set r) default = o := by
    rw [← hperm'.symm.foldl_eq' (fun f hf g hg r => hall g hg f hf r) default]
    exact hwhole
  rw [ofValue, pickMembers_eq hpicks' default (.inr hid), hfold]

theorem writeObject_envelope (text : List Char) :
    ("\x7b\"type\":\"order\",\"data\":" ++ String.ofList text ++ "\x7d").toList =
      writeObject [("type", writeText "order"), ("data", text)] := by
  simp [writeObject, writePairs, writeText, writeChar]

theorem reads_envelope (o : Order) : ∃ data, ofValue data = .ok o ∧
    Reads Envelope.schema.read (writeObject [("type", writeText "order"), ("data", schema.write o)])
      ⟨"order", data⟩ := by
  obtain ⟨ms, hholds, hvalue⟩ := o.ofValue_sorted
  refine ⟨_, hvalue, ?_⟩
  have htype : Sets Envelope.schema.fields ("type", writeText "order") fun e => { e with kind := "order" } :=
    ⟨_, rfl, (solid_text "order").restores.reads.map _⟩
  have hdata : Sets Envelope.schema.fields ("data", schema.write o)
      fun e => { e with data := .object (Value.sortMembers ms) } := by
    have hread := reads_sorted hholds
    rw [← write_eq] at hread
    exact ⟨_, rfl, hread.map _⟩
  refine reads_object (.cons htype (.cons hdata .nil)) ?_ ?_
  · simp
  · simp [Envelope.schema, Envelope.fields, Member.required, Member.defaulted, Member.make]

theorem trim_writeObject (ps : List (String × List Char)) : Text.trim (writeObject ps) = writeObject ps := by
  have hbraces : Text.isBlank '\x7b' = false ∧ Text.isBlank '\x7d' = false := by decide
  apply Text.trim_eq_self
  · simpa [writeObject] using hbraces.1
  · simpa [writeObject, List.getLast?_cons] using hbraces.2

def messageText (o : Order) : String :=
  "\x7b\"type\":\"order\",\"data\":" ++ String.ofList (schema.write o) ++ "\x7d"

theorem read_messageText (o : Order) : ServerMessage.read o.messageText = .ok (.order o) := by
  obtain ⟨data, hvalue, henvelope⟩ := o.reads_envelope
  have htext : o.messageText.toList = writeObject [("type", writeText "order"), ("data", schema.write o)] :=
    writeObject_envelope (schema.write o)
  rw [ServerMessage.read, htext, trim_writeObject, henvelope.readAll]
  simp only [ServerMessage.ofEnvelope, hvalue, if_true]

/-- What is written of an order is read as that order, all its fields included, both alone and as the
data of a message, and is written again as it was. -/
theorem json_lossless (o : Order) :
    readAll schema.read (schema.write o) = .ok o ∧
      ServerMessage.read ("\x7b\"type\":\"order\",\"data\":" ++ String.ofList (schema.write o) ++ "\x7d") =
        .ok (.order o) ∧
      schema.write <$> readAll schema.read (schema.write o) = .ok (schema.write o) := by
  have hread : readAll schema.read (schema.write o) = .ok o := o.reads_write.readAll
  refine ⟨hread, o.read_messageText, ?_⟩
  rw [hread]
  rfl

end Order

end MarketTicker
