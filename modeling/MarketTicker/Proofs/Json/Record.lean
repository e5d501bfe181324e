import MarketTicker.Json.Record
import MarketTicker.Proofs.Json.Layout

namespace MarketTicker.Json

variable {α σ : Type}

def writePairs : List (String × List Char) → List Char
  | [] => []
  | [(key, value)] => writeText key ++ ':' :: value
  | (key, value) :: rest => writeText key ++ ':' :: value ++ ',' :: writePairs rest

def writeObject (ps : List (String × List Char)) : List Char :=
  '\x7b' :: writePairs ps ++ ['\x7d']

def compact (p : String × List Char) : MemberText :=
  ⟨.none, writeText p.1, .none, .none, p.2, .none⟩

theorem chars_compact (p : String × List Char) : (compact p).chars = writeText p.1 ++ ':' :: p.2 := by
  simp [MemberText.chars, MemberText.tail, compact, Blanks.none]

theorem writePairs_eq (ps : List (String × List Char)) :
    writePairs ps = separated (ps.map (MemberText.chars ∘ compact)) := by
  induction ps with
  | nil => rfl
  | cons p ps ih =>
    cases ps with
    | nil => simp [writePairs, separated, chars_compact]
    | cons q ps =>
      rw [writePairs, ih]
      · simp [separated, chars_compact]
      · simp

theorem writeObject_eq (ps : List (String × List Char)) : writeObject ps = objectText .none (ps.map compact) := by
  rw [writeObject, objectText, writePairs_eq, List.map_map]
  cases ps with
  | nil => rfl
  | cons p ps => rw [if_neg (by simp)]

theorem Schema.write_eq (s : Schema α) (record : α) :
    s.write record = writeObject (s.fields.map fun field => (field.name, field.write record)) := by
  have key (fields : List (Member α)) :
      writeFields record fields = writePairs (fields.map fun field => (field.name, field.write record)) := by
    induction fields with
    | nil => rfl
    | cons field fields ih =>
      cases fields with
      | nil => rfl
      | cons next fields => rw [writeFields, ih] <;> simp [writePairs]
  rw [write, key]
  rfl

def keyed (ps : List (String × List Char)) : List (MemberText × String) :=
  ps.map fun p => (compact p, p.1)

theorem writeObject_eq_keyed (ps : List (String × List Char)) :
    writeObject ps = objectText .none ((keyed ps).map Prod.fst) := by
  rw [writeObject_eq, keyed, List.map_map]
  rfl

theorem Steps.reads_compact {step : σ → String → Reader σ} {st st' : σ} {ps : List (String × List Char)}
    (h : Steps step st (keyed ps) st') : Reads (members step st) (writeObject ps) st' := by
  rw [writeObject_eq_keyed]
  exact h.reads .none

section Restores

variable {read : Reader α} {write : α → List Char} {a : α}

theorem Restores.option (h : Restores read write a) (hn : (write a).head? ≠ some 'n') :
    Restores (optional read) (writeOption write) (some a) := by
  refine ⟨h.opens, ?_⟩
  intro rest hrest
  have hread := (h.reads rest hrest).map some
  obtain ⟨c, cs, hcs, hc, -⟩ := h.opens
  rw [hcs] at hread hn
  change Yields (optional read) (write a ++ rest) (some a) rest
  rw [hcs]
  refine (Yields.ahead hc _).bind ?_
  rw [if_neg (show some c ≠ some 'n' from hn)]
  exact hread

theorem restores_none (read : Reader α) (write : α → List Char) :
    Restores (optional read) (writeOption write) none := by
  refine ⟨opens_cons rfl (by decide), ?_⟩
  intro rest _
  exact (Yields.ahead rfl _).bind (.word 'n' ['u', 'l', 'l'] none rest)

theorem restores_option (h : ∀ a, Restores read write a) (hn : ∀ a, (write a).head? ≠ some 'n') (a? : Option α) :
    Restores (optional read) (writeOption write) a? := by
  cases a? with
  | none => exact restores_none read write
  | some a => exact (h a).option (hn a)

theorem flatten_intersperse (ts : List (List Char)) : (ts.intersperse [',']).flatten = separated ts := by
  induction ts with
  | nil => rfl
  | cons t ts ih =>
    cases ts with
    | nil => simp [separated]
    | cons u ts =>
      rw [List.intersperse_cons_cons, List.flatten_cons, List.flatten_cons, ih]
      simp [separated]

theorem writeList_eq (write : α → List Char) (as : List α) :
    writeList write as = listText .none (as.map fun a => ⟨.none, write a, .none⟩) := by
  have hchars : (ItemText.chars ∘ fun a => ⟨.none, write a, .none⟩) = write := by
    funext a
    simp [ItemText.chars, Blanks.none]
  rw [writeList, flatten_intersperse, listText, List.map_map, hchars]
  cases as with
  | nil => rfl
  | cons a as => rw [if_neg (by simp)]

theorem restores_listOf {as : List α} (h : ∀ a ∈ as, Restores read write a) :
    Restores (listOf read) (writeList write) as := by
  refine ⟨opens_cons rfl (by decide), fun rest hrest => ?_⟩
  have hitems : Reads (items read) (writeList write as) as := by
    rw [writeList_eq]
    refine reads_items .none ?_
    rw [List.forall₂_map_left_iff, List.forall₂_same]
    exact fun a ha => ⟨(h a ha).opens, (h a ha).reads⟩
  exact Yields.onNext rfl (hitems rest hrest)

theorem restores_exactly (expected : String) {as : List α} {n : Nat} (hn : as.length = n)
    (h : ∀ a ∈ as, Restores read write a) : Restores (exactly n read expected) (writeList write) as := by
  subst hn
  refine ⟨opens_cons rfl (by decide), ?_⟩
  rw [writeList_eq]
  refine reads_exactly expected .none ?_
  rw [List.forall₂_map_left_iff, List.forall₂_same]
  exact fun a ha => ⟨(h a ha).opens, (h a ha).reads⟩

end Restores

section Schema

variable {fields : List (Member α)} {p : Partial α} {key : String} {value : List Char} {field : Member α}
  {set : α → α} {ps : List (String × List Char)} {sets : List (α → α)}

theorem reads_stepMember {m : MemberText} {g : α → α} (hfield : fields.find? (fun f => f.name = key) = some field)
    (hnew : key ∉ p.seen) (hread : Reads field.read (m.beforeValue.chars ++ m.value) g) :
    Reads (stepMember fields p key) m.tail ⟨key :: p.seen, g p.record⟩ := by
  rw [stepMember, hfield]
  simp only [if_neg hnew]
  exact m.reads_tail (hread.bind (.pure _))

theorem find?_of_nodup {β : Type} {name : β → String} {l : List β} (h : (l.map name).Nodup) {b : β}
    (hb : b ∈ l) : l.find? (fun x => name x = name b) = some b := by
  induction l with
  | nil => cases hb
  | cons a l ih =>
    obtain ⟨ha, hl⟩ := List.nodup_cons.1 h
    rcases List.mem_cons.1 hb with rfl | hb
    · exact List.find?_cons_of_pos (by simp)
    · have hne : name a ≠ name b := fun he => ha (he ▸ List.mem_map_of_mem hb)
      rw [List.find?_cons_of_neg (by simpa using hne)]
      exact ih hl hb

/-- What is written under a key is read as a change of that key's field. -/
def Sets (fields : List (Member α)) (p : String × List Char) (set : α → α) : Prop :=
  ∃ field, fields.find? (fun f => f.name = p.1) = some field ∧ Reads field.read p.2 set

theorem steps_stepMember (h : List.Forall₂ (Sets fields) ps sets) (hnodup : (ps.map Prod.fst).Nodup)
    {seen : List String} (hnew : ∀ key ∈ ps.map Prod.fst, key ∉ seen) (record : α) :
    Steps (stepMember fields) ⟨seen, record⟩ (keyed ps)
      ⟨(ps.map Prod.fst).reverse ++ seen, sets.foldl (fun r set => set r) record⟩ := by
  induction h generalizing seen record with
  | nil => exact .nil
  | @cons p set ps sets hset _ ih =>
    obtain ⟨field, hfield, hread⟩ := hset
    obtain ⟨hp, hps⟩ := List.nodup_cons.1 hnodup
    refine .cons (spellsText_writeText p.1) (reads_stepMember hfield (hnew p.1 List.mem_cons_self) hread) ?_
    have hrest : ∀ key ∈ ps.map Prod.fst, key ∉ p.1 :: seen := by
      intro key hkey hmem
      rcases List.mem_cons.1 hmem with rfl | hmem
      · exact hp hkey
      · exact hnew key (List.mem_cons_of_mem _ hkey) hmem
    have hsteps := ih hps hrest (set record)
    simpa [keyed] using hsteps

theorem finish_eq (hneeded : ∀ field ∈ fields, field.needed = true → field.name ∈ p.seen) :
    p.finish fields = .ok p.record := by
  have hnone : fields.find? (fun field => field.needed && !(p.seen.contains field.name)) = none := by
    refine List.find?_eq_none.2 fun field hfield hmissing => ?_
    simp only [Bool.and_eq_true, Bool.not_eq_true', List.contains_eq_mem, decide_eq_false_iff_not] at hmissing
    exact hmissing.2 (hneeded field hfield hmissing.1)
  rw [Partial.finish, hnone]

theorem Steps.reads_schema {s : Schema α} {ms : List (MemberText × String)} {record : α}
    (h : Steps (stepMember s.fields) ⟨[], s.start⟩ ms p) (hfinish : p.finish s.fields = .ok record) (inner : Blanks) :
    Reads s.read (objectText inner (ms.map Prod.fst)) record := by
  intro rest hrest
  refine Yields.onNext rfl ?_
  rw [if_pos rfl]
  exact (h.reads inner rest hrest).bind (.lift hfinish rest)

theorem Schema.refuses (s : Schema α) {cs : List Char} (hblank : ∀ c ∈ cs.head?, isBlank c = false)
    (hobject : cs.head? ≠ some '\x7b') (harray : cs.head? ≠ some '[') :
    ∃ fault, Json.readAll s.read cs = .error fault := by
  have hread : ∃ fault, s.read cs = .error fault := by
    cases cs with
    | nil => exact ⟨.endOfValue, rfl⟩
    | cons c cs =>
      obtain ⟨_, hahead⟩ := Yields.ahead (hblank c rfl) cs
      have hne : c ≠ '\x7b' ∧ c ≠ '[' := ⟨fun hc => hobject (congrArg some hc), fun hc => harray (congrArg some hc)⟩
      have hnext : s.read (c :: cs) = ((mismatch s.expected : Reader α) (c :: cs)).map (·.after (Nat.le_refl _)) := by
        rw [Schema.read, onNext, Reader.bind_ok hahead]
        simp only [if_neg hne.1, if_neg hne.2]
      rw [hnext]
      cases hfound : found (c :: cs) with
      | error fault => exact ⟨fault, by rw [mismatch, Reader.bind_error hfound]; rfl⟩
      | ok taken => exact ⟨.invalidType taken.value s.expected, by rw [mismatch, Reader.bind_ok hfound]; rfl⟩
  obtain ⟨fault, hread⟩ := hread
  refine ⟨fault, ?_⟩
  rw [Json.readAll, hread]
  rfl

/-- An object whose members are known, each named once, and which lacks none that is needed, is read
as the record in which each of them is set. -/
theorem reads_object {s : Schema α} (h : List.Forall₂ (Sets s.fields) ps sets) (hnodup : (ps.map Prod.fst).Nodup)
    (hneeded : ∀ field ∈ s.fields, field.needed = true → field.name ∈ ps.map Prod.fst) :
    Reads s.read (writeObject ps) (sets.foldl (fun r set => set r) s.start) := by
  have hsteps := steps_stepMember h hnodup (fun _ _ => List.not_mem_nil) s.start
  rw [writeObject_eq_keyed]
  refine hsteps.reads_schema (finish_eq fun field hfield hneed => ?_) .none
  have hmem := hneeded field hfield hneed
  simpa using hmem

end Schema

section Keeps

variable {β : Type} {s : Schema α} {fields : List (Member α)} {record : α} {sets : List (α → α)} {is : List ItemText}

structure Member.Keeps (field : Member α) (record : α) (set : α → α) : Prop where
  opens : Opens (field.write record)
  reads : Reads field.read (field.write record) set

theorem Restores.member {read : Reader β} {write : β → List Char} {get : α → β}
    (h : Restores read write (get record)) (name : String) (set : β → α → α) (needed listed : Bool) :
    (Member.make name read write get set needed listed).Keeps record (set (get record)) :=
  ⟨h.opens, h.reads.map set⟩

/-- The fields are written as members of an object, and together the changes that they are read as make up the
record. -/
theorem Schema.reads_write
    (h : List.Forall₂ (fun field set => Reads field.read (field.write record) set) s.fields sets)
    (hnames : (s.fields.map Member.name).Nodup) (hwhole : sets.foldl (fun r set => set r) s.start = record) :
    Reads s.read (s.write record) record := by
  let ps := s.fields.map fun field => (field.name, field.write record)
  have hkeys : ps.map Prod.fst = s.fields.map Member.name := by
    rw [List.map_map]
    rfl
  have hsets : List.Forall₂ (Sets s.fields) ps sets := by
    rw [List.forall₂_map_left_iff]
    refine ((List.forall₂_and_left s.fields sets).2 ⟨fun _ hfield => hfield, h⟩).imp ?_
    rintro field set ⟨hfield, hread⟩
    exact ⟨field, find?_of_nodup hnames hfield, hread⟩
  have hread := reads_object hsets (by rwa [hkeys]) fun field hfield _ => by
    rw [hkeys]
    exact List.mem_map_of_mem hfield
  rwa [hwhole, ← write_eq] at hread

theorem Schema.restores (h : List.Forall₂ (fun field set => Member.Keeps field record set) s.fields sets)
    (hnames : (s.fields.map Member.name).Nodup) (hwhole : sets.foldl (fun r set => set r) s.start = record) :
    Restores s.read s.write record :=
  ⟨opens_cons rfl (by decide), reads_write (h.imp fun _ _ hkeep => hkeep.reads) hnames hwhole⟩

theorem yields_readListed (expected : String)
    (h : List.Forall₂ (fun field set => Member.Keeps field record set) fields sets)
    (his : is.map ItemText.text = fields.map fun field => field.write record) (done : Nat) (r : α) (b : Blanks)
    (rest : List Char) : ∃ b' : Blanks, Yields (readListed expected (done + 1) r fields)
      (b.chars ++ (more (is.map ItemText.chars) ++ ']' :: rest)) (sets.foldl (fun r set => set r) r)
      (b'.chars ++ ']' :: rest) := by
  induction h generalizing is done r b with
  | nil =>
    obtain rfl := List.map_eq_nil_iff.1 his
    exact ⟨b, .pure r _⟩
  | @cons field set fields sets hfield _ ih =>
    obtain ⟨i, is, rfl, hi, his⟩ := List.map_eq_cons_iff.1 his
    obtain ⟨b', htail⟩ := ih his (done + 1) (set r) i.behind
    refine ⟨b', ?_⟩
    rw [more_cons, hi]
    refine (yields_nextElement_comma b i.before hfield.opens _).bind ?_
    exact (hfield.reads _ (i.behind.stops (stops_more rfl _ rest))).bind htail

theorem yields_listed (expected : String)
    (h : List.Forall₂ (fun field set => Member.Keeps field record set) fields sets)
    (his : is.map ItemText.text = fields.map fun field => field.write record) (r : α) (inner : Blanks)
    (rest : List Char) : ∃ (cs : List Char) (b : Blanks), listText inner is ++ rest = '[' :: cs ∧
      Yields (readListed expected 0 r fields) cs (sets.foldl (fun r set => set r) r) (b.chars ++ ']' :: rest) := by
  cases h with
  | nil =>
    obtain rfl := List.map_eq_nil_iff.1 his
    exact ⟨_, inner, listText_nil inner rest, .pure r _⟩
  | @cons field set fields sets hfield hfields =>
    obtain ⟨i, is, rfl, hi, his⟩ := List.map_eq_cons_iff.1 his
    obtain ⟨b, htail⟩ := yields_readListed expected hfields his 0 (set r) i.behind rest
    refine ⟨_, b, listText_cons inner i is rest, ?_⟩
    rw [hi]
    refine (yields_nextElement_first i.before hfield.opens _).bind ?_
    exact (hfield.reads _ (i.behind.stops (stops_more rfl _ rest))).bind htail

/-- The same record as an array of its fields in order, with blanks wherever they may be. -/
theorem Schema.reads_listed (inner : Blanks)
    (h : List.Forall₂ (fun field set => Member.Keeps field record set) s.fields sets)
    (hwhole : sets.foldl (fun r set => set r) s.start = record)
    (his : is.map ItemText.text = s.fields.map fun field => field.write record) :
    Reads s.read (listText inner is) record := by
  intro rest _
  obtain ⟨cs, b, hsplit, hlisted⟩ := yields_listed _ h his s.start inner rest
  rw [hwhole] at hlisted
  rw [hsplit]
  refine Yields.onNext rfl ?_
  rw [if_neg (by decide), if_pos rfl]
  refine (Yields.advance '[' cs).bind ?_
  refine hlisted.bind ?_
  exact (yields_endList b rest).bind (.pure record rest)

end Keeps

end MarketTicker.Json
