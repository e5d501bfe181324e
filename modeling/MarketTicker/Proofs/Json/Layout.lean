import Mathlib.Data.List.Forall2
import MarketTicker.Json.Typed
import MarketTicker.Proofs.Json.Text
import MarketTicker.Proofs.Json.Number

namespace MarketTicker.Json

variable {α β σ : Type}

namespace Blanks

variable (b : Blanks)

theorem dropBlanks_append (s : List Char) : dropBlanks (b.chars ++ s) = dropBlanks s := by
  rw [dropBlanks, List.dropWhile_append_of_pos b.blank, dropBlanks]

theorem dropBlanks_cons {c : Char} (hc : isBlank c = false) (s : List Char) :
    dropBlanks (b.chars ++ c :: s) = c :: s := by
  rw [dropBlanks_append, dropBlanks, List.dropWhile_cons_of_neg (by simp [hc])]

theorem length_lt (c : Char) (s : List Char) : s.length < (b.chars ++ c :: s).length := by
  simp only [List.length_append, List.length_cons]
  omega

theorem stops {s : List Char} (h : Stops s) : Stops (b.chars ++ s) := by
  intro c hc
  cases hb : b.chars with
  | nil =>
    rw [hb] at hc
    exact h c hc
  | cons d cs =>
    rw [hb] at hc
    obtain rfl := Option.some.inj hc
    have hblank := b.blank d (hb ▸ List.mem_cons_self)
    simp only [isBlank, Bool.or_eq_true, decide_eq_true_eq] at hblank
    rcases hblank with ((rfl | rfl) | rfl) | rfl <;> rfl

end Blanks

def Patient (x : Reader α) : Prop :=
  ∀ (b : Blanks) {s rest : List Char} {a : α}, Yields x s a rest → Yields x (b.chars ++ s) a rest

theorem patient_ahead : Patient ahead := by
  rintro b s rest a ⟨h, hs⟩
  have hahead (s : List Char) : ahead s = .ok ⟨(dropBlanks s).head?, dropBlanks s, dropBlanks_length_le s⟩ := rfl
  rw [hahead] at hs
  cases hs
  refine ⟨Nat.le_trans h (by simp), ?_⟩
  rw [hahead]
  simp only [b.dropBlanks_append]

theorem Patient.bind {x : Reader α} (hx : Patient x) (f : α → Reader β) : Patient (x >>= f) := by
  rintro b s rest y ⟨h, hs⟩
  cases ht : x s with
  | error e =>
    rw [Reader.bind_error ht] at hs
    cases hs
  | ok t =>
    rw [Reader.bind_ok ht] at hs
    cases hu : f t.value t.rest with
    | error e =>
      rw [hu] at hs
      cases hs
    | ok u =>
      rw [hu] at hs
      cases hs
      exact (hx b ⟨t.rest_le, ht⟩).bind ⟨u.rest_le, hu⟩

theorem patient_onNext (read : Char → Reader α) : Patient (onNext read) :=
  patient_ahead.bind _

theorem patient_colon : Patient colon :=
  patient_ahead.bind _

theorem Patient.reads {x : Reader α} {s : List Char} {a : α} (hx : Patient x) (h : Reads x s a) (b : Blanks) :
    Reads x (b.chars ++ s) a := by
  intro rest hrest
  rw [List.append_assoc]
  exact hx b (h rest hrest)

/-- The first character is neither blank nor the end of a list. -/
def Opens (text : List Char) : Prop :=
  ∃ c cs, text = c :: cs ∧ isBlank c = false ∧ c ≠ ']'

theorem opens_cons {c : Char} {cs : List Char} (hc : isBlank c = false) (hne : c ≠ ']') : Opens (c :: cs) :=
  ⟨c, cs, rfl, hc, hne⟩

theorem Numeral.opens (m : Numeral) : Opens m.text := by
  obtain ⟨c, cs, hcs, hc⟩ := m.text_eq_cons
  rw [hcs]
  refine opens_cons (isBlank_of_numeric hc) ?_
  rintro rfl
  exact absurd hc (by decide)

/-- What is written of `a` is read as `a`, and can stand in a list. -/
structure Restores (read : Reader α) (write : α → List Char) (a : α) : Prop where
  opens : Opens (write a)
  reads : Reads read (write a) a

def more (ts : List (List Char)) : List Char :=
  ts.flatMap (',' :: ·)

theorem stops_more {c : Char} (hc : continuesNumber c = false) (ts : List (List Char)) (rest : List Char) :
    Stops (more ts ++ c :: rest) := by
  cases ts with
  | nil => exact stops_cons hc _
  | cons t ts => exact stops_cons rfl _

theorem more_cons (i : ItemText) (is : List ItemText) (tail : List Char) :
    more ((i :: is).map ItemText.chars) ++ tail =
      ',' :: (i.before.chars ++ (i.text ++ (i.behind.chars ++ (more (is.map ItemText.chars) ++ tail)))) := by
  simp [more, ItemText.chars]

section List

variable {x : Reader α} {is : List ItemText} {as : List α} {a : α} {t s s₁ s₂ rest : List Char}

theorem nextElement_eq {c : Char} {r : List Char} (first : Bool) (hdrop : dropBlanks s = c :: r)
    (hr : r.length < s.length) : nextElement first s =
      if c = ']' then .ok ⟨false, c :: r, hr⟩
      else if first then .ok ⟨true, c :: r, hr⟩
      else if c = ',' then (afterListComma r).map (·.after (Nat.le_of_lt hr))
      else .error .expectedListCommaOrEnd := by
  unfold nextElement
  split
  · rename_i h
    rw [hdrop] at h
    cases h
  · rename_i h
    rw [hdrop] at h
    cases h
    rfl

theorem yields_nextElement_first (b : Blanks) (ht : Opens t) (r : List Char) :
    Yields (nextElement true) (b.chars ++ (t ++ r)) true (t ++ r) := by
  obtain ⟨c, cs, rfl, hc, hne⟩ := ht
  have hnext := nextElement_eq true (b.dropBlanks_cons hc (cs ++ r)) (b.length_lt c _)
  rw [if_neg hne, if_pos rfl] at hnext
  exact ⟨_, hnext⟩

theorem yields_nextElement_comma (b b' : Blanks) (ht : Opens t) (r : List Char) :
    Yields (nextElement false) (b.chars ++ ',' :: (b'.chars ++ (t ++ r))) true (t ++ r) := by
  obtain ⟨c, cs, rfl, hc, hne⟩ := ht
  have hafter : afterListComma (b'.chars ++ (c :: cs ++ r)) = .ok ⟨true, c :: cs ++ r, by simp⟩ := by
    have hdrop := b'.dropBlanks_cons hc (cs ++ r)
    unfold afterListComma
    simp only [List.cons_append, hdrop, if_neg hne]
  have hnext := nextElement_eq false (b.dropBlanks_cons rfl _) (b.length_lt ',' (b'.chars ++ (c :: cs ++ r)))
  rw [if_neg (by decide), if_neg (by decide), if_pos rfl, hafter] at hnext
  exact ⟨_, hnext⟩

theorem yields_nextElement_end (first : Bool) (b : Blanks) (r : List Char) :
    Yields (nextElement first) (b.chars ++ ']' :: r) false (']' :: r) := by
  have hnext := nextElement_eq first (b.dropBlanks_cons rfl r) (b.length_lt ']' r)
  rw [if_pos rfl] at hnext
  exact ⟨_, hnext⟩

theorem yields_endList (b : Blanks) (r : List Char) : Yields endList (b.chars ++ ']' :: r) () r :=
  (patient_ahead b (Yields.ahead rfl r)).bind (.advance ']' r)

def ReadsItem (x : Reader α) (i : ItemText) (a : α) : Prop :=
  Opens i.text ∧ Reads x i.text a

theorem yields_moreItems_end (hnext : Yields (nextElement false) s false rest) : Yields (moreItems x) s [] rest := by
  obtain ⟨hle, hnext⟩ := hnext
  refine ⟨hle, ?_⟩
  rw [moreItems]
  split
  · rename_i h
    rw [hnext] at h
    cases h
  · rename_i h
    rw [hnext] at h
    cases h
    rfl

theorem yields_moreItems_next (hnext : Yields (nextElement false) s true s₁) (hitem : Yields x s₁ a s₂)
    (hmore : Yields (moreItems x) s₂ as rest) : Yields (moreItems x) s (a :: as) rest := by
  obtain ⟨hle, hnext⟩ := hnext
  obtain ⟨hle₁, hitem⟩ := hitem
  obtain ⟨hle₂, hmore⟩ := hmore
  refine ⟨Nat.le_trans hle₂ (Nat.le_trans hle₁ hle), ?_⟩
  rw [moreItems]
  split
  · rename_i h
    rw [hnext] at h
    cases h
  · rename_i h
    rw [hnext] at h
    cases h
    rw [dif_pos rfl]
    simp only [hitem, hmore]

theorem yields_moreItems (h : List.Forall₂ (ReadsItem x) is as) (b : Blanks) (rest : List Char) :
    Yields (moreItems x) (b.chars ++ (more (is.map ItemText.chars) ++ ']' :: rest)) as (']' :: rest) := by
  induction h generalizing b with
  | nil => exact yields_moreItems_end (yields_nextElement_end false b rest)
  | @cons i a is as hi _ ih =>
    rw [more_cons]
    refine yields_moreItems_next (yields_nextElement_comma b i.before hi.1 _) ?_ (ih i.behind)
    exact hi.2 _ (i.behind.stops (stops_more rfl _ rest))

theorem listText_nil (inner : Blanks) (rest : List Char) :
    listText inner [] ++ rest = '[' :: (inner.chars ++ ']' :: rest) := by
  simp [listText]

theorem listText_cons (inner : Blanks) (i : ItemText) (is : List ItemText) (rest : List Char) :
    listText inner (i :: is) ++ rest =
      '[' :: (i.before.chars ++ (i.text ++ (i.behind.chars ++ (more (is.map ItemText.chars) ++ ']' :: rest)))) := by
  simp [listText, separated, more, ItemText.chars]

theorem reads_items (inner : Blanks) (h : List.Forall₂ (ReadsItem x) is as) :
    Reads (items x) (listText inner is) as := by
  intro rest _
  cases h with
  | nil =>
    rw [listText_nil]
    refine (Yields.advance '[' _).bind ?_
    refine (yields_nextElement_end true inner rest).bind ?_
    exact (yields_endList .none rest).bind (.pure [] rest)
  | @cons i a is as hi his =>
    rw [listText_cons]
    refine (Yields.advance '[' _).bind ?_
    refine (yields_nextElement_first i.before hi.1 _).bind ?_
    refine (hi.2 _ (i.behind.stops (stops_more rfl _ rest))).bind ?_
    refine (yields_moreItems his i.behind rest).bind ?_
    exact (yields_endList .none rest).bind (.pure (a :: as) rest)

theorem yields_itemsExactly (expected : String) (h : List.Forall₂ (ReadsItem x) is as) (done : Nat) (b : Blanks)
    (rest : List Char) : ∃ b' : Blanks, Yields (itemsExactly x expected (done + 1) as.length)
      (b.chars ++ (more (is.map ItemText.chars) ++ ']' :: rest)) as (b'.chars ++ ']' :: rest) := by
  induction h generalizing done b with
  | nil => exact ⟨b, .pure [] _⟩
  | @cons i a is as hi _ ih =>
    obtain ⟨b', htail⟩ := ih (done + 1) i.behind
    refine ⟨b', ?_⟩
    rw [more_cons]
    refine (yields_nextElement_comma b i.before hi.1 _).bind ?_
    refine (hi.2 _ (i.behind.stops (stops_more rfl _ rest))).bind ?_
    exact htail.bind (.pure (a :: as) _)

theorem reads_exactly (expected : String) (inner : Blanks) (h : List.Forall₂ (ReadsItem x) is as) :
    Reads (exactly as.length x expected) (listText inner is) as := by
  intro rest _
  cases h with
  | nil =>
    rw [listText_nil]
    refine Yields.onNext rfl ?_
    refine (Yields.advance '[' _).bind ?_
    refine (Yields.pure [] _).bind ?_
    exact (yields_endList inner rest).bind (.pure [] rest)
  | @cons i a is as hi his =>
    obtain ⟨b, htail⟩ := yields_itemsExactly expected his 0 i.behind rest
    rw [listText_cons]
    refine Yields.onNext rfl ?_
    refine (Yields.advance '[' _).bind ?_
    refine Yields.bind (a := a :: as) ?_ ((yields_endList b rest).bind (.pure (a :: as) rest))
    refine (yields_nextElement_first i.before hi.1 _).bind ?_
    refine (hi.2 _ (i.behind.stops (stops_more rfl _ rest))).bind ?_
    exact htail.bind (.pure (a :: as) _)

end List

section Object

variable {step : σ → String → Reader σ} {st st' st'' : σ} {first : Bool} {key : String} {m : MemberText}
  {ms : List (MemberText × String)} {s s₁ s₂ s₃ rest : List Char}

theorem yields_nextMember_first (b : Blanks) (r : List Char) :
    Yields (nextMember true) (b.chars ++ '"' :: r) true ('"' :: r) :=
  (patient_ahead b (Yields.ahead rfl r)).bind (.pure true _)

theorem yields_nextMember_comma (b b' : Blanks) (r : List Char) :
    Yields (nextMember false) (b.chars ++ ',' :: (b'.chars ++ '"' :: r)) true ('"' :: r) := by
  refine (patient_ahead b (Yields.ahead rfl _)).bind ?_
  refine (Yields.advance ',' _).bind ?_
  exact (patient_ahead b' (Yields.ahead rfl r)).bind (.pure true _)

theorem yields_nextMember_end (first : Bool) (b : Blanks) (r : List Char) :
    Yields (nextMember first) (b.chars ++ '\x7d' :: r) false ('\x7d' :: r) :=
  (patient_ahead b (Yields.ahead rfl r)).bind (.pure false _)

theorem yields_foldMembers_end (hnext : Yields (nextMember first) s false rest) :
    Yields (foldMembers step st first) s st rest := by
  obtain ⟨hle, hnext⟩ := hnext
  refine ⟨hle, ?_⟩
  rw [foldMembers, hnext]
  rfl

theorem yields_foldMembers_next (hnext : Yields (nextMember first) s true s₁) (hkey : Yields text s₁ key s₂)
    (hstep : Yields (step st key) s₂ st' s₃) (hmore : Yields (foldMembers step st' false) s₃ st'' rest) :
    Yields (foldMembers step st first) s st'' rest := by
  obtain ⟨hle, hnext⟩ := hnext
  obtain ⟨hle₁, hkey⟩ := hkey
  obtain ⟨hle₂, hstep⟩ := hstep
  obtain ⟨hle₃, hmore⟩ := hmore
  refine ⟨Nat.le_trans hle₃ (Nat.le_trans hle₂ (Nat.le_trans hle₁ hle)), ?_⟩
  rw [foldMembers, hnext]
  simp only [if_true]
  split
  · rename_i h
    rw [hkey] at h
    cases h
  · rename_i k h
    rw [hkey] at h
    cases h
    simp only [hstep, hmore]
    rfl

theorem MemberText.reads_tail {x : Reader α} {a : α} (h : Reads x (m.beforeValue.chars ++ m.value) a) :
    Reads (colon >>= fun _ => x) m.tail a := by
  intro rest hrest
  rw [tail, List.append_assoc]
  exact (patient_colon m.beforeColon (Yields.colon _)).bind (h rest hrest)

/-- A run of `step` over members: each takes what follows its key. -/
inductive Steps (step : σ → String → Reader σ) : σ → List (MemberText × String) → σ → Prop
  | nil {st : σ} : Steps step st [] st
  | cons {st st' st'' : σ} {m : MemberText × String} {ms : List (MemberText × String)} :
      SpellsText m.1.key m.2 → Reads (step st m.2) m.1.tail st' → Steps step st' ms st'' →
      Steps step st (m :: ms) st''

theorem objectText_nil (inner : Blanks) (rest : List Char) :
    objectText inner [] ++ rest = '\x7b' :: (inner.chars ++ '\x7d' :: rest) := by
  simp [objectText]

theorem objectText_cons (inner : Blanks) (m : MemberText) (ms : List MemberText) (rest : List Char) :
    objectText inner (m :: ms) ++ rest = '\x7b' :: (m.before.chars ++
      (m.key ++ (m.tail ++ (m.behind.chars ++ (more (ms.map MemberText.chars) ++ '\x7d' :: rest))))) := by
  simp [objectText, separated, more, MemberText.chars]

namespace Steps

theorem append {ns : List (MemberText × String)} (h : Steps step st ms st') (h' : Steps step st' ns st'') :
    Steps step st (ms ++ ns) st'' := by
  induction h with
  | nil => exact h'
  | cons hkey hstep _ ih => exact .cons hkey hstep (ih h')

theorem yields_member {ts : List (List Char)} (hkey : SpellsText m.key key) (hstep : Reads (step st key) m.tail st')
    (hnext : ∀ cs, m.key = '"' :: cs → ∀ r, Yields (nextMember first) (s ++ (m.key ++ r)) true (m.key ++ r))
    (hmore : Yields (foldMembers step st' false) (m.behind.chars ++ (more ts ++ '\x7d' :: rest)) st'' ('\x7d' :: rest)) :
    Yields (foldMembers step st first)
      (s ++ (m.key ++ (m.tail ++ (m.behind.chars ++ (more ts ++ '\x7d' :: rest))))) st'' ('\x7d' :: rest) := by
  obtain ⟨cs, hcs⟩ := hkey.eq_cons
  exact yields_foldMembers_next (hnext cs hcs _) (hkey.yields _)
    (hstep _ (m.behind.stops (stops_more rfl ts rest))) hmore

theorem yields_more (h : Steps step st ms st') (b : Blanks) (rest : List Char) :
    Yields (foldMembers step st false) (b.chars ++ (more (ms.map (MemberText.chars ∘ Prod.fst)) ++ '\x7d' :: rest)) st'
      ('\x7d' :: rest) := by
  induction h generalizing b with
  | nil => exact yields_foldMembers_end (yields_nextMember_end false b rest)
  | @cons st st' st'' m ms hkey hstep _ ih =>
    have hsplit : b.chars ++ (more ((m :: ms).map (MemberText.chars ∘ Prod.fst)) ++ '\x7d' :: rest) =
        (b.chars ++ ',' :: m.1.before.chars) ++ (m.1.key ++ (m.1.tail ++ (m.1.behind.chars ++
          (more (ms.map (MemberText.chars ∘ Prod.fst)) ++ '\x7d' :: rest)))) := by
      simp [more, MemberText.chars]
    rw [hsplit]
    refine yields_member hkey hstep (fun cs hcs r => ?_) (ih m.1.behind)
    rw [hcs, List.append_assoc]
    exact yields_nextMember_comma b m.1.before _

theorem reads (h : Steps step st ms st') (inner : Blanks) :
    Reads (members step st) (objectText inner (ms.map Prod.fst)) st' := by
  intro rest _
  cases h with
  | nil =>
    rw [List.map_nil, objectText_nil]
    refine (Yields.advance _ _).bind ?_
    refine Yields.bind (yields_foldMembers_end (yields_nextMember_end true inner rest)) ?_
    exact (Yields.advance _ _).bind (.pure st rest)
  | @cons _ st' _ m ms hkey hstep hmore =>
    rw [List.map_cons, objectText_cons, List.map_map]
    refine (Yields.advance _ _).bind ?_
    refine Yields.bind (yields_member hkey hstep (fun cs hcs r => ?_) (hmore.yields_more m.1.behind rest)) ?_
    · rw [hcs]
      exact yields_nextMember_first m.1.before _
    · exact (Yields.advance _ _).bind (.pure _ rest)

end Steps

end Object

end MarketTicker.Json
