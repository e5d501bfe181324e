import MarketTicker.Json.Skip
import MarketTicker.Proofs.Json.Keeping

namespace MarketTicker.Json

open Text

variable {place : Place} {stack : List Bracket} {top : Bracket} {s r t rest final : List Char} {c : Char}

/-- With `stack` open, everything up to `final` is passed over. -/
def Skips (stack : List Bracket) (s final : List Char) : Prop :=
  ∃ h, skipWithin stack s = .ok ⟨(), final, h⟩

def Settles (place : Place) (stack : List Bracket) (s final : List Char) : Prop :=
  ∃ u, settle place s stack = .ok u ∧ if u.value = [] then u.rest = final else Skips u.value u.rest final

def Enters (top : Bracket) (stack : List Bracket) (s final : List Char) : Prop :=
  ∃ r, Yields (skipLead top) s () r ∧ Skips (top :: stack) r final

theorem settles_nil (place : Place) (s : List Char) : Settles place [] s s :=
  ⟨⟨[], s, Nat.le_refl _⟩, by rw [settle], rfl⟩

theorem settle_cons (hdrop : dropBlanks s = c :: r) (hr : r.length < s.length) :
    settle place s (top :: stack) =
      if c = top.closing then (settle .afterItem r stack).map (·.after (Nat.le_of_lt hr))
      else if place = .opened then
        (skipLead top (c :: r)).map fun t => ⟨top :: stack, t.rest, Nat.le_trans t.rest_le hr⟩
      else if c = ',' then
        (skipLead top r).map fun t => ⟨top :: stack, t.rest, Nat.le_trans t.rest_le (Nat.le_of_lt hr)⟩
      else .error top.commaFault := by
  rw [settle]
  split
  · rename_i h
    rw [hdrop] at h
    cases h
  · rename_i h
    rw [hdrop] at h
    cases h
    rfl

namespace Settles

variable (b : Blanks)

theorem close (h : Settles .afterItem stack r final) :
    Settles place (top :: stack) (b.chars ++ top.closing :: r) final := by
  obtain ⟨u, hsettle, hfinal⟩ := h
  have hdrop := b.dropBlanks_cons (c := top.closing) (by cases top <;> rfl) r
  have hr := b.length_lt top.closing r
  refine ⟨u.after (Nat.le_of_lt hr), ?_, hfinal⟩
  rw [settle_cons hdrop hr, if_pos rfl, hsettle]
  rfl

theorem first (hc : isBlank c = false) (hne : c ≠ top.closing) (h : Enters top stack (c :: r) final) :
    Settles .opened (top :: stack) (b.chars ++ c :: r) final := by
  obtain ⟨r', ⟨hle, hlead⟩, hskips⟩ := h
  have hr := b.length_lt c r
  refine ⟨⟨top :: stack, r', Nat.le_trans hle hr⟩, ?_, by rwa [if_neg (by simp)]⟩
  rw [settle_cons (b.dropBlanks_cons hc r) hr, if_neg hne, if_pos rfl, hlead]
  rfl

theorem next (h : Enters top stack r final) : Settles .afterItem (top :: stack) (b.chars ++ ',' :: r) final := by
  obtain ⟨r', ⟨hle, hlead⟩, hskips⟩ := h
  have hr := b.length_lt ',' r
  have hne : ',' ≠ top.closing := by cases top <;> decide
  refine ⟨⟨top :: stack, r', Nat.le_trans hle (Nat.le_of_lt hr)⟩, ?_, by rwa [if_neg (by simp)]⟩
  rw [settle_cons (b.dropBlanks_cons rfl r) hr, if_neg hne, if_neg (by decide), if_pos rfl, hlead]
  rfl

end Settles

def Resumes (stack : List Bracket) (found : Option Bracket) (s final : List Char) : Prop :=
  match found with
  | none => Settles .afterItem stack s final
  | some bracket => Settles .opened (bracket :: stack) s final

theorem Resumes.exists {found : Option Bracket} (h : Resumes stack found r final) :
    ∃ u, (match found with
      | none => settle .afterItem r stack
      | some bracket => settle .opened r (bracket :: stack)) = .ok u ∧
      if u.value = [] then u.rest = final else Skips u.value u.rest final := by
  cases found with
  | none => exact h
  | some bracket => exact h

theorem Resumes.skips {found : Option Bracket} (b : Blanks) (hc : isBlank c = false)
    (hfrom : Yields (skipFrom c) s found r) (h : Resumes stack found r final) :
    Skips stack (b.chars ++ c :: s) final := by
  obtain ⟨hle, hfrom⟩ := hfrom
  obtain ⟨u, hsettle, hfinal⟩ := h.exists
  have hdrop := b.dropBlanks_cons hc s
  have hlt : u.rest.length < (b.chars ++ c :: s).length :=
    Nat.lt_of_le_of_lt (Nat.le_trans u.rest_le hle) (b.length_lt c s)
  have hskip : skipWithin stack (b.chars ++ c :: s) =
      if u.value = [] then .ok ⟨(), u.rest, Nat.le_of_lt hlt⟩
      else (skipWithin u.value u.rest).map (·.after (Nat.le_of_lt hlt)) := by
    rw [skipWithin]
    split
    · rename_i h
      rw [hdrop] at h
      cases h
    · rename_i h
      rw [hdrop] at h
      cases h
      cases found with
      | none => simp only [hfrom, show settle .afterItem r stack = .ok u from hsettle]
      | some bracket => simp only [hfrom, show settle .opened r (bracket :: stack) = .ok u from hsettle]
  rw [Skips, hskip]
  split at hfinal
  · rename_i hnil
    subst hfinal
    exact ⟨Nat.le_of_lt hlt, by rw [if_pos hnil]⟩
  · rename_i hopen
    obtain ⟨hle', hfinal⟩ := hfinal
    refine ⟨Nat.le_trans hle' (Nat.le_of_lt hlt), ?_⟩
    rw [if_neg hopen, hfinal]
    rfl

/-- The text is passed over, whatever is open around it. -/
def Skipped (t : List Char) : Prop :=
  ∀ {stack : List Bracket} {rest final : List Char} (b : Blanks), Stops rest → Settles .afterItem stack rest final →
    Skips stack (b.chars ++ (t ++ rest)) final

theorem skipped_leaf {cs : List Char} (hc : isBlank c = false)
    (hfrom : ∀ rest, Stops rest → Yields (skipFrom c) (cs ++ rest) none rest) : Skipped (c :: cs) :=
  fun b hrest hsettles => Resumes.skips b hc (hfrom _ hrest) hsettles

theorem skipped_ident {cs : List Char} (hc : isBlank c = false)
    (hfrom : skipFrom c = do
      ident cs
      return none) : Skipped (c :: cs) := by
  refine skipped_leaf hc fun rest _ => ?_
  rw [hfrom]
  exact (Yields.ident cs rest).bind (.pure none rest)

theorem IsString.eq_cons (h : IsString t) : ∃ body, t = '"' :: (body ++ ['"']) ∧ Letters body := by
  obtain ⟨body, rfl, hbody⟩ := h
  exact ⟨body, rfl, hbody⟩

theorem IsString.skipped (h : IsString t) : Skipped t := by
  obtain ⟨body, rfl, hbody⟩ := h.eq_cons
  refine skipped_leaf rfl fun rest _ => ?_
  rw [List.append_assoc]
  exact Yields.bind (hbody.skips rest) (.pure none rest)

theorem Numeral.skipped (m : Numeral) : Skipped m.text := by
  unfold text
  cases m.negative with
  | true => exact skipped_leaf rfl fun rest hrest => (m.skips_unsigned hrest).bind (.pure none rest)
  | false =>
    obtain ⟨c, cs, hcs, hc⟩ := m.unsignedText_eq_cons
    simp only [Bool.false_eq_true, if_false]
    rw [hcs]
    refine skipped_leaf (isBlank_of_numeric (.inr hc)) fun rest hrest => ?_
    have hdigit : skipFrom c = do
        skipNumberAfter c
        return none := by
      unfold skipFrom
      split
      case h_8 => rw [if_pos hc]
      all_goals exact absurd hc (by decide)
    rw [hdigit]
    exact (m.skips_after hcs hrest).bind (.pure none rest)

structure Entered (top : Bracket) (t : List Char) : Prop where
  opens : ∃ c cs, t = c :: cs ∧ isBlank c = false ∧ c ≠ top.closing
  enters : ∀ {stack : List Bracket} {rest final : List Char} (b : Blanks), Stops rest →
    Settles .afterItem (top :: stack) rest final → Enters top stack (b.chars ++ (t ++ rest)) final

theorem Skipped.entered (ht : Opens t) (h : Skipped t) : Entered .square t :=
  ⟨ht, fun b hrest hsettles => ⟨_, .pure () _, h b hrest hsettles⟩⟩

theorem patient_skipKey : Patient skipKey :=
  patient_ahead.bind _

theorem Skipped.entered_member {m : MemberText} (hkey : IsString m.key) (h : Skipped m.value) :
    Entered .curly (m.key ++ m.tail) := by
  obtain ⟨body, hbody, hletters⟩ := hkey.eq_cons
  refine ⟨⟨'"', _, by rw [hbody]; rfl, rfl, by decide⟩, fun {stack rest final} b hrest hsettles => ?_⟩
  refine ⟨m.beforeValue.chars ++ (m.value ++ rest), patient_skipKey b ?_, h m.beforeValue hrest hsettles⟩
  have hsplit : m.key ++ m.tail ++ rest =
      '"' :: (body ++ '"' :: (m.beforeColon.chars ++ ':' :: (m.beforeValue.chars ++ (m.value ++ rest)))) := by
    simp [hbody, MemberText.tail]
  rw [hsplit]
  refine (Yields.ahead rfl _).bind ?_
  refine (Yields.advance '"' _).bind ?_
  refine Yields.bind (hletters.skips _) ?_
  exact (patient_ahead m.beforeColon (Yields.ahead rfl _)).bind (.advance ':' _)

def Bracket.opening : Bracket → Char
  | .square => '['
  | .curly => '\x7b'

def enclosed (top : Bracket) (inner : Blanks) (is : List ItemText) : List Char :=
  top.opening :: (if is = [] then inner.chars else separated (is.map ItemText.chars)) ++ [top.closing]

def MemberText.item (m : MemberText) : ItemText :=
  ⟨m.before, m.key ++ m.tail, m.behind⟩

theorem objectText_eq (inner : Blanks) (ms : List MemberText) :
    objectText inner ms = enclosed .curly inner (ms.map MemberText.item) := by
  have hchars : ItemText.chars ∘ MemberText.item = MemberText.chars := by
    funext m
    simp [ItemText.chars, MemberText.item, MemberText.chars]
  rw [enclosed, List.map_map, hchars]
  cases ms with
  | nil => rfl
  | cons m ms => rfl

section Enclosed

variable {is : List ItemText}

theorem settles_more (h : ∀ i ∈ is, Entered top i.text) (b : Blanks)
    (hsettles : Settles .afterItem stack rest final) :
    Settles .afterItem (top :: stack) (b.chars ++ (more (is.map ItemText.chars) ++ top.closing :: rest)) final := by
  induction is generalizing b with
  | nil => exact hsettles.close b
  | cons i is ih =>
    obtain ⟨hi, his⟩ := List.forall_mem_cons.1 h
    rw [more_cons]
    refine .next b (hi.enters i.before (i.behind.stops ?_) (ih his i.behind))
    exact stops_more (by cases top <;> rfl) _ rest

theorem Entered.first (ht : Entered top t) (b : Blanks) (h : Enters top stack (t ++ r) final) :
    Settles .opened (top :: stack) (b.chars ++ (t ++ r)) final := by
  obtain ⟨c, cs, rfl, hc, hne⟩ := ht.opens
  exact Settles.first b hc hne h

theorem skipped_enclosed (inner : Blanks) (h : ∀ i ∈ is, Entered top i.text) : Skipped (enclosed top inner is) := by
  intro stack rest final b hrest hsettles
  have hc : isBlank top.opening = false := by cases top <;> rfl
  have hfrom (s : List Char) : Yields (skipFrom top.opening) s (some top) s := by
    cases top with
    | square => exact .pure _ s
    | curly => exact .pure _ s
  cases is with
  | nil =>
    have hsplit : enclosed top inner [] ++ rest = top.opening :: (inner.chars ++ top.closing :: rest) := by
      simp [enclosed]
    rw [hsplit]
    exact Resumes.skips b hc (hfrom _) (hsettles.close inner)
  | cons i is =>
    obtain ⟨hi, his⟩ := List.forall_mem_cons.1 h
    have hsplit : enclosed top inner (i :: is) ++ rest = top.opening :: (i.before.chars ++ (i.text ++
        (i.behind.chars ++ (more (is.map ItemText.chars) ++ top.closing :: rest)))) := by
      simp [enclosed, separated, more, ItemText.chars]
    rw [hsplit]
    refine Resumes.skips b hc (hfrom _) (hi.first i.before ?_)
    refine hi.enters .none (i.behind.stops ?_) (settles_more his i.behind hsettles)
    exact stops_more (by cases top <;> rfl) _ rest

end Enclosed

/-- Every value is passed over, with what is open around it left as it is. -/
theorem IsValue.skipped (h : IsValue t) : Skipped t := by
  induction h with
  | null => exact skipped_ident rfl rfl
  | true => exact skipped_ident rfl rfl
  | false => exact skipped_ident rfl rfl
  | number m => exact m.skipped
  | text h => exact h.skipped
  | list inner items hitems ih =>
    exact skipped_enclosed inner fun i hi => Skipped.entered (hitems i hi).opens (ih i hi)
  | object inner members hkeys _ ih =>
    rw [objectText_eq]
    refine skipped_enclosed inner fun i hi => ?_
    obtain ⟨m, hm, rfl⟩ := List.mem_map.1 hi
    exact Skipped.entered_member (hkeys m hm) (ih m hm)

theorem reads_skipValue (h : IsValue t) (b : Blanks) : Reads skipValue (b.chars ++ t) () := by
  intro rest hrest
  rw [List.append_assoc]
  exact h.skipped b hrest (settles_nil _ rest)

end MarketTicker.Json
