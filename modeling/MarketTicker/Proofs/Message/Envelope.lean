import MarketTicker.Proofs.Json.Skipping
import MarketTicker.Proofs.Message.Order
import MarketTicker.Proofs.Text.Grammar

namespace MarketTicker

open Json Value

/-- In another order, with further items that are all strange. -/
def Widened {α : Type} (strange : α → Prop) (l l' : List α) : Prop :=
  ∃ extra, (∀ a ∈ extra, strange a) ∧ (extra ++ l).Perm l'

namespace Order

def Strange (key : String) : Prop :=
  key ∉ entries.map Entry.name

instance (key : String) : Decidable (Strange key) :=
  inferInstanceAs (Decidable (key ∉ entries.map Entry.name))

theorem find?_strange {key : String} (h : Strange key) : entries.find? (fun e => e.name = key) = none := by
  rw [List.find?_eq_none]
  intro e he hkey
  exact h (of_decide_eq_true hkey ▸ List.mem_map_of_mem he)

def known (ms : Members) : Members :=
  ms.filter fun m => ¬Strange m.1

theorem pickMembers_known (o : Order) (named : Bool) (ms : Members) :
    pickMembers o named (known ms) = pickMembers o named ms := by
  induction ms generalizing o named with
  | nil => rfl
  | cons m ms ih =>
    by_cases hm : Strange m.1
    · rw [known, List.filter_cons_of_neg (by simpa using hm), pickMembers, find?_strange hm]
      exact ih o named
    · rw [known, List.filter_cons_of_pos (by simpa using hm), pickMembers, pickMembers]
      cases entries.find? (fun e => e.name = m.1) with
      | none => exact ih o named
      | some e =>
        cases hpick : e.pick m.2 with
        | error fault => simp only [hpick]; rfl
        | ok set =>
          simp only [hpick]
          exact ih (set o) (named || e.needed)

theorem known_strange {ms : Members} (h : ∀ m ∈ ms, Strange m.1) : known ms = [] := by
  rw [known, List.filter_eq_nil_iff]
  intro m hm
  simpa using h m hm

theorem known_perm {ms ms' : Members} (h : Widened (fun m => Strange m.1) ms ms') : (known ms).Perm (known ms') := by
  obtain ⟨extra, hextra, hperm⟩ := h
  have hsplit : known (extra ++ ms) = known extra ++ known ms := List.filter_append ..
  have hknown : (known (extra ++ ms)).Perm (known ms') := hperm.filter _
  rwa [hsplit, known_strange hextra] at hknown

/-- Neither the order of its members nor strange ones among them make an order another. -/
theorem ofValue_widened {ms ms' : Members} (hkeys : (ms'.map Prod.fst).Nodup)
    (h : Widened (fun m => Strange m.1) ms ms') :
    ofValue (.object (sortMembers ms')) = ofValue (.object (sortMembers ms)) := by
  have hkeys' : (ms.map Prod.fst).Nodup := by
    obtain ⟨extra, -, hperm⟩ := h
    have hall := (hperm.map Prod.fst).nodup_iff.2 hkeys
    rw [List.map_append] at hall
    exact (List.nodup_append.1 hall).2.1
  have hperm : (known (sortMembers ms')).Perm (known (sortMembers ms)) :=
    ((sortMembers_perm hkeys).filter _).trans ((known_perm h).symm.trans ((sortMembers_perm hkeys').filter _).symm)
  have hsame : known (sortMembers ms') = known (sortMembers ms) :=
    Ascending.eq_of_perm ((ascending_sortMembers ms').filter _) ((ascending_sortMembers ms).filter _) hperm
  rw [ofValue, ofValue, ← pickMembers_known, hsame, pickMembers_known]

theorem ofValue_strange {ms : Members} (h : ∀ m ∈ ms, Strange m.1) :
    ofValue (.object ms) = .error (.missingField "order_id") := by
  rw [ofValue, ← pickMembers_known, known_strange h]
  rfl

theorem ofValue_plain {v : Value} (hobject : ∀ ms, v ≠ .object ms) (harray : ∀ vs, v ≠ .array vs) :
    ofValue v = .error (.invalidType v.found "struct OrderUpdate") := by
  cases v with
  | object ms => exact absurd rfl (hobject ms)
  | array vs => exact absurd rfl (harray vs)
  | _ => rfl

end Order

def Unknown (m : MemberText) : Prop :=
  ∃ name, SpellsText m.key name ∧ name ≠ "type" ∧ name ≠ "data" ∧ IsValue m.value

/-- The members of a message, in any order: its kind, its data, and any that it does not know. -/
inductive Carries : Option String → Option Value → List MemberText → Prop
  | nil : Carries none none []
  | kind {m : MemberText} {ms : List MemberText} {kind : String} {data? : Option Value} :
      SpellsText m.key "type" → SpellsText m.value kind → Carries none data? ms → Carries (some kind) data? (m :: ms)
  | data {m : MemberText} {ms : List MemberText} {kind? : Option String} {data : Value} :
      SpellsText m.key "data" → Spells innerRoom m.value data → Carries kind? none ms →
      Carries kind? (some data) (m :: ms)
  | unknown {m : MemberText} {ms : List MemberText} {kind? : Option String} {data? : Option Value} :
      Unknown m → Carries kind? data? ms → Carries kind? data? (m :: ms)

namespace Carries

variable {kind? : Option String} {data? : Option Value} {ms ms' : List MemberText}

theorem perm (hperm : ms.Perm ms') (h : Carries kind? data? ms) : Carries kind? data? ms' := by
  induction hperm generalizing kind? data? with
  | nil => exact h
  | cons m _ ih =>
    cases h with
    | kind hkey hvalue h => exact .kind hkey hvalue (ih h)
    | data hkey hvalue h => exact .data hkey hvalue (ih h)
    | unknown hm h => exact .unknown hm (ih h)
  | swap m n ms =>
    cases h with
    | kind hkey hvalue h =>
      cases h with
      | data hkey' hvalue' h => exact .data hkey' hvalue' (.kind hkey hvalue h)
      | unknown hm h => exact .unknown hm (.kind hkey hvalue h)
    | data hkey hvalue h =>
      cases h with
      | kind hkey' hvalue' h => exact .kind hkey' hvalue' (.data hkey hvalue h)
      | unknown hm h => exact .unknown hm (.data hkey hvalue h)
    | unknown hm h =>
      cases h with
      | kind hkey hvalue h => exact .kind hkey hvalue (.unknown hm h)
      | data hkey hvalue h => exact .data hkey hvalue (.unknown hm h)
      | unknown hm' h => exact .unknown hm' (.unknown hm h)
  | trans _ _ ih ih' => exact ih' (ih h)

theorem widen (hwide : Widened Unknown ms ms') (h : Carries kind? data? ms) : Carries kind? data? ms' := by
  obtain ⟨extra, hextra, hperm⟩ := hwide
  have hall : Carries kind? data? (extra ++ ms) := by
    clear hperm
    induction extra with
    | nil => exact h
    | cons m extra ih =>
      obtain ⟨hm, hextra⟩ := List.forall_mem_cons.1 hextra
      exact .unknown hm (ih hextra)
  exact hall.perm hperm

end Carries

theorem reads_kind {m : MemberText} {kind : String} (h : SpellsText m.value kind) (p : Partial Envelope)
    (hnew : "type" ∉ p.seen) : Reads (stepMember Envelope.fields p "type") m.tail
      ⟨"type" :: p.seen, { p.record with kind }⟩ := by
  have hread := (patient_onNext _).reads (reads_textAs h "a string") m.beforeValue
  exact reads_stepMember (g := fun e : Envelope => { e with kind }) rfl hnew (hread.map _)

theorem reads_data {m : MemberText} {data : Value} (h : Spells innerRoom m.value data) (p : Partial Envelope)
    (hnew : "data" ∉ p.seen) : Reads (stepMember Envelope.fields p "data") m.tail
      ⟨"data" :: p.seen, { p.record with data }⟩ := by
  have hread := (patient_reader sortMembers innerRoom).reads h.reads m.beforeValue
  exact reads_stepMember (g := fun e : Envelope => { e with data }) rfl hnew (hread.map _)

theorem reads_unknown {m : MemberText} {name : String} (htype : name ≠ "type") (hdata : name ≠ "data")
    (h : IsValue m.value) (p : Partial Envelope) : Reads (stepMember Envelope.fields p name) m.tail p := by
  have hfind : Envelope.fields.find? (fun field => field.name = name) = none := by
    simp [Envelope.fields, Member.required, Member.defaulted, Member.make, htype.symm, hdata.symm]
  rw [stepMember, hfind]
  exact m.reads_tail ((reads_skipValue h m.beforeValue).bind (.pure p))

theorem Carries.steps {kind? : Option String} {data? : Option Value} {ms : List MemberText}
    (h : Carries kind? data? ms) (p : Partial Envelope) (hkind : kind?.isSome → "type" ∉ p.seen)
    (hdata : data?.isSome → "data" ∉ p.seen) :
    ∃ named seen, named.map Prod.fst = ms ∧ (kind?.isSome → "type" ∈ seen) ∧ p.seen ⊆ seen ∧
      Steps (stepMember Envelope.fields) p named
        ⟨seen, kind?.getD p.record.kind, data?.getD p.record.data⟩ := by
  induction h generalizing p with
  | nil => exact ⟨[], p.seen, rfl, nofun, List.Subset.refl _, .nil⟩
  | @kind m ms kind data? hkey hvalue _ ih =>
    obtain ⟨named, seen, hnamed, -, hseen, hsteps⟩ := ih ⟨"type" :: p.seen, { p.record with kind }⟩ nofun
      (fun h => by simpa using hdata h)
    refine ⟨(m, "type") :: named, seen, by rw [List.map_cons, hnamed], fun _ => hseen List.mem_cons_self,
      fun _ h => hseen (List.mem_cons_of_mem _ h), ?_⟩
    exact .cons hkey (reads_kind hvalue p (hkind rfl)) hsteps
  | @data m ms kind? data hkey hvalue _ ih =>
    obtain ⟨named, seen, hnamed, hcarried, hseen, hsteps⟩ := ih ⟨"data" :: p.seen, { p.record with data }⟩
      (fun h => by simpa using hkind h) nofun
    refine ⟨(m, "data") :: named, seen, by rw [List.map_cons, hnamed], hcarried,
      fun _ h => hseen (List.mem_cons_of_mem _ h), ?_⟩
    exact .cons hkey (reads_data hvalue p (hdata rfl)) hsteps
  | @unknown m ms kind? data? hm _ ih =>
    obtain ⟨name, hkey, htype, hname, hvalue⟩ := hm
    obtain ⟨named, seen, hnamed, hcarried, hseen, hsteps⟩ := ih p hkind hdata
    refine ⟨(m, name) :: named, seen, by rw [List.map_cons, hnamed], hcarried, hseen, ?_⟩
    exact .cons hkey (reads_unknown htype hname hvalue p) hsteps

theorem Carries.reads {kind : String} {data? : Option Value} {ms : List MemberText} (h : Carries (some kind) data? ms)
    (inner : Blanks) : Reads Envelope.schema.read (objectText inner ms) ⟨kind, data?.getD .null⟩ := by
  obtain ⟨named, seen, rfl, hkind, -, hsteps⟩ := h.steps ⟨[], Envelope.schema.start⟩ (fun _ => List.not_mem_nil)
    (fun _ => List.not_mem_nil)
  refine Steps.reads_schema (s := Envelope.schema) hsteps (finish_eq fun field hfield hneeded => ?_) inner
  have hname : field.name = "type" := by
    simp only [Envelope.schema, Envelope.fields, List.mem_cons, List.not_mem_nil, or_false] at hfield
    rcases hfield with rfl | rfl
    · rfl
    · cases hneeded
  rw [hname]
  exact hkind rfl

structure MessageText where
  before : List Char
  inner : Blanks
  members : List MemberText
  behind : List Char
  before_blank : ∀ c ∈ before, Text.isBlank c = true
  behind_blank : ∀ c ∈ behind, Text.isBlank c = true

namespace MessageText

def text (t : MessageText) : String :=
  String.ofList (t.before ++ (objectText t.inner t.members ++ t.behind))

def Says (t : MessageText) (kind : String) (data? : Option Value) : Prop :=
  Carries (some kind) data? t.members

/-- Of what is said only the kind and the data count, and data that are missing count as null. -/
theorem Says.read_eq {t : MessageText} {kind : String} {data? : Option Value} (h : t.Says kind data?) :
    ServerMessage.read t.text = ServerMessage.ofEnvelope ⟨kind, data?.getD .null⟩ := by
  have hbraces : Text.isBlank '\x7b' = false ∧ Text.isBlank '\x7d' = false := by decide
  have htrim : Text.trim (t.before ++ (objectText t.inner t.members ++ t.behind)) = objectText t.inner t.members := by
    refine Text.trim_padded t.before_blank t.behind_blank ?_ ?_
    · simpa [objectText] using hbraces.1
    · simpa [objectText, List.getLast?_cons] using hbraces.2
  have hread := (Carries.reads h t.inner).readAll
  rw [ServerMessage.read, text, String.toList_ofList, htrim, hread]

end MessageText

namespace ServerMessage

variable {t t' : MessageText} {kind : String} {data? : Option Value} {ms ms' : Members}

theorem read_order (h : t.Says "order" data?) :
    read t.text = match Order.ofValue (data?.getD .null) with
      | .ok o => .ok (.order o)
      | .error fault => .error (.invalidOrder fault) := by
  rw [h.read_eq]
  rfl

theorem message_invalidType (found : Found) :
    (Refusal.invalidOrder (.invalidType found "struct OrderUpdate")).message =
      "invalid order update: invalid type: " ++ found.describe ++ ", expected struct OrderUpdate" := by
  have hlead : "invalid order update: " ++ "invalid type: " = "invalid order update: invalid type: " := by decide
  have htail : ", expected " ++ "struct OrderUpdate" = ", expected struct OrderUpdate" := by decide
  calc (Refusal.invalidOrder (.invalidType found "struct OrderUpdate")).message
      = "invalid order update: " ++ ("invalid type: " ++ found.describe ++ ", expected " ++ "struct OrderUpdate") := rfl
    _ = "invalid order update: " ++ "invalid type: " ++ found.describe ++ (", expected " ++ "struct OrderUpdate") := by
      rw [← String.append_assoc, ← String.append_assoc, ← String.append_assoc, String.append_assoc]
    _ = "invalid order update: invalid type: " ++ found.describe ++ ", expected struct OrderUpdate" := by
      rw [hlead, htail]

theorem read_error (h : t.Says "error" data?) : read t.text = .ok (.error (errorText (data?.getD .null))) := by
  rw [h.read_eq]
  rfl

theorem read_other (h : t.Says kind data?) (horder : kind ≠ "order") (herror : kind ≠ "error") :
    read t.text = .ok (.other kind) := by
  rw [h.read_eq, ofEnvelope, if_neg horder, if_neg herror]

theorem isBlank_of_text {c : Char} (h : Text.isBlank c = false) : Json.isBlank c = false := by
  simp only [Json.isBlank, Bool.or_eq_false_iff, decide_eq_false_iff_not]
  refine ⟨⟨⟨?_, ?_⟩, ?_⟩, ?_⟩
  all_goals
    rintro rfl
    exact absurd h (by decide)

/-- Text that begins neither an object nor an array, blanks apart, is no message. -/
theorem read_shapeless {content : String} {core : List Char} (h : Text.Wraps content.toList core)
    (hobject : core.head? ≠ some '\x7b') (harray : core.head? ≠ some '[') :
    ∃ fault, read content = .error (.malformed fault) := by
  obtain ⟨fault, hread⟩ := Envelope.schema.refuses (fun c hc => isBlank_of_text (h.first c hc)) hobject harray
  refine ⟨fault, ?_⟩
  rw [read, Text.wraps_iff.1 h, hread]

theorem read_widened (hwide : Widened Unknown t.members t'.members) (h : t.Says kind data?) :
    read t'.text = read t.text := by
  have h' : t'.Says kind data? := Carries.widen hwide h
  rw [h.read_eq, h'.read_eq]

/-- The keys that may be added to the data of a message of this kind. -/
def Addable (kind key : String) : Prop :=
  kind ≠ "error" ∧ (kind = "order" → Order.Strange key)

theorem read_data_widened (h : t.Says kind (some (.object (sortMembers ms))))
    (h' : t'.Says kind (some (.object (sortMembers ms')))) (hkeys : (ms'.map Prod.fst).Nodup)
    (hwide : Widened (fun m => Addable kind m.1) ms ms') : read t'.text = read t.text := by
  obtain ⟨extra, hextra, hperm⟩ := hwide
  by_cases horder : kind = "order"
  · subst horder
    rw [read_order h, read_order h']
    simp only [Option.getD_some]
    rw [Order.ofValue_widened hkeys ⟨extra, fun m hm => (hextra m hm).2 rfl, hperm⟩]
  by_cases herror : kind = "error"
  · subst herror
    have hnone : extra = [] := List.eq_nil_iff_forall_not_mem.2 fun m hm => (hextra m hm).1 rfl
    subst hnone
    have hsame : sortMembers ms' = sortMembers ms := sortMembers_eq_of_perm hkeys hperm.symm
    rw [read_error h, read_error h', hsame]
  · rw [read_other h horder herror, read_other h' horder herror]

theorem errorText_of_ne (h : ∀ s, data? ≠ some (.text s)) :
    errorText (data?.getD .null) = String.ofList (data?.getD .null).write := by
  cases data? with
  | none => rfl
  | some v =>
    cases v with
    | text s => exact absurd rfl (h s)
    | _ => rfl

/-- What a text message is taken for depends on its kind and its data alone: neither the order in which its
members and those of its data are written nor any that are added makes a difference, except that in the data
of an error what is added belongs to the text of the error. -/
theorem classified_by_content (h : t.Says kind data?) :
    (kind = "order" → read t.text =
      match Order.ofValue (data?.getD .null) with
      | .ok o => .ok (.order o)
      | .error fault => .error (.invalidOrder fault)) ∧
    (kind = "error" → ∀ s, data? = some (.text s) → read t.text = .ok (.error s)) ∧
    (kind = "error" → (∀ s, data? ≠ some (.text s)) →
      read t.text = .ok (.error (String.ofList (data?.getD .null).write))) ∧
    (kind ≠ "order" → kind ≠ "error" → read t.text = .ok (.other kind)) ∧
    (∀ t' : MessageText, t'.Says kind data? → read t'.text = read t.text) ∧
    (∀ t' : MessageText, Widened Unknown t.members t'.members → read t'.text = read t.text) ∧
    (∀ (t' : MessageText) (ms ms' : Members), data? = some (.object (sortMembers ms)) →
      t'.Says kind (some (.object (sortMembers ms'))) → (ms'.map Prod.fst).Nodup →
      Widened (fun m => Addable kind m.1) ms ms' → read t'.text = read t.text) := by
  refine ⟨?_, ?_, ?_, read_other h, ?_, fun t' hwide => read_widened hwide h, ?_⟩
  · rintro rfl
    exact read_order h
  · rintro rfl s rfl
    exact read_error h
  · rintro rfl hdata
    rw [read_error h, errorText_of_ne hdata]
  · intro t' h'
    rw [h.read_eq, h'.read_eq]
  · rintro t' ms ms' rfl h' hkeys hwide
    exact read_data_widened h h' hkeys hwide

/-- A refusal with its data first and spelled by a code, a member that no message knows, and blanks of two kinds
around it. -/
def refusal : MessageText where
  before := ['\u00a0']
  inner := .none
  members := [compact ("data", ['"', '\\', 'u', '0', '0', '6', 'e', 'o', '"']), compact ("id", ['[', ']']),
    compact ("type", writeText "error")]
  behind := ['\n']
  before_blank := List.forall_mem_singleton.2 rfl
  behind_blank := List.forall_mem_singleton.2 rfl

theorem classified_by_content_of_refusal :
    refusal.Says "error" (some (.text "no")) ∧ read refusal.text = .ok (.error "no") := by
  have hdata : SpellsText ['"', '\\', 'u', '0', '0', '6', 'e', 'o', '"'] "no" :=
    ⟨['\\', 'u', '0', '0', '6', 'e', 'o'], rfl, .code (n := 0x6e) rfl rfl rfl
      (.plain (c := 'o') (by decide) (by decide) (by decide) .nil)⟩
  have hid : Unknown (compact ("id", ['[', ']'])) :=
    ⟨"id", spellsText_writeText "id", by decide, by decide, .list .none [] (by simp)⟩
  have h : refusal.Says "error" (some (.text "no")) :=
    .data (spellsText_writeText "data") (.text hdata) (.unknown hid (.kind (spellsText_writeText "type")
      (spellsText_writeText "error") .nil))
  exact ⟨h, (classified_by_content h).2.1 rfl "no" rfl⟩

def bare (kind : String) (data : List Char) : MessageText :=
  ⟨[], .none, [compact ("type", writeText kind), compact ("data", data)], [], by simp, by simp⟩

theorem says_bare (kind : String) {data : List Char} {v : Value} (h : Spells innerRoom data v) :
    (bare kind data).Says kind (some v) :=
  .kind (spellsText_writeText "type") (spellsText_writeText kind) (.data (spellsText_writeText "data") h .nil)

/-- A member that is added to the data of an error. -/
theorem added_member_shows_in_error :
    read "\x7b\"type\":\"error\",\"data\":\x7b\x7d\x7d" = .ok (.error "\x7b\x7d") ∧
      read "\x7b\"type\":\"error\",\"data\":\x7b\"a\":null\x7d\x7d" = .ok (.error "\x7b\"a\":null\x7d") := by
  have hbare : Spells innerRoom ['\x7b', '\x7d'] (.object []) :=
    .object .none [] (by simp) (by simp) (by simp)
  have hadded : Spells innerRoom ['\x7b', '"', 'a', '"', ':', 'n', 'u', 'l', 'l', '\x7d'] (.object [("a", .null)]) := by
    refine .object .none [(compact ("a", ['n', 'u', 'l', 'l']), "a", .null)] ?_ ?_ (by simp)
    · exact List.forall_mem_singleton.2 (spellsText_writeText "a")
    · exact List.forall_mem_singleton.2 .null
  have htext : (bare "error" ['\x7b', '\x7d']).text = "\x7b\"type\":\"error\",\"data\":\x7b\x7d\x7d" := by decide
  have htext' : (bare "error" ['\x7b', '"', 'a', '"', ':', 'n', 'u', 'l', 'l', '\x7d']).text =
      "\x7b\"type\":\"error\",\"data\":\x7b\"a\":null\x7d\x7d" := by decide
  have hwritten : errorText (.object [("a", .null)]) = "\x7b\"a\":null\x7d" := by decide
  rw [← htext, ← htext', ← hwritten]
  exact ⟨read_error (says_bare "error" hbare), read_error (says_bare "error" hadded)⟩

end ServerMessage

end MarketTicker
