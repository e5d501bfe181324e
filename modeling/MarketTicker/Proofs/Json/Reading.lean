import MarketTicker.Json.Typed

namespace MarketTicker.Json

variable {α β : Type}

def Yields (x : Reader α) (s : List Char) (a : α) (rest : List Char) : Prop :=
  ∃ h, x s = .ok ⟨a, rest, h⟩

namespace Yields

variable {x : Reader α} {f : α → Reader β} {s r rest : List Char} {a : α} {b : β} {c : Char}

theorem pure (a : α) (s : List Char) : Yields (pure a) s a s :=
  ⟨_, rfl⟩

theorem bind (hx : Yields x s a r) (hf : Yields (f a) r b rest) : Yields (x >>= f) s b rest := by
  obtain ⟨h, hx⟩ := hx
  obtain ⟨h', hf⟩ := hf
  refine ⟨Nat.le_trans h' h, ?_⟩
  rw [Reader.bind_ok hx, hf]
  rfl

theorem map (g : α → β) (hx : Yields x s a r) : Yields (g <$> x) s (g a) r :=
  hx.bind (.pure (g a) r)

theorem lift {a? : Except Fault α} (h : a? = .ok a) (s : List Char) : Yields (.lift a?) s a s := by
  rw [h]
  exact .pure a s

theorem peek (s : List Char) : Yields peek s s.head? s :=
  ⟨_, rfl⟩

theorem advance (c : Char) (r : List Char) : Yields advance (c :: r) () r :=
  ⟨_, rfl⟩

theorem blanks (hc : isBlank c = false) (r : List Char) : Yields blanks (c :: r) () (c :: r) := by
  have hdrop : dropBlanks (c :: r) = c :: r := List.dropWhile_cons_of_neg (by simp [hc])
  refine ⟨Nat.le_refl _, ?_⟩
  simp only [Json.blanks, hdrop]

theorem ahead (hc : isBlank c = false) (r : List Char) : Yields ahead (c :: r) (some c) (c :: r) :=
  (blanks hc r).bind (.peek _)

theorem onNext {read : Char → Reader α} (hc : isBlank c = false) (h : Yields (read c) (c :: r) a rest) :
    Yields (onNext read) (c :: r) a rest :=
  (ahead hc r).bind h

theorem ident (cs : List Char) (r : List Char) : Yields (ident cs) (cs ++ r) () r := by
  induction cs with
  | nil => exact .pure () r
  | cons c cs ih =>
    refine (Yields.peek _).bind ?_
    simp only [List.cons_append, List.head?_cons, if_pos]
    exact (advance c (cs ++ r)).bind ih

theorem word (c : Char) (cs : List Char) (a : α) (rest : List Char) :
    Yields (do
      Json.advance
      Json.ident cs
      return a) (c :: cs ++ rest) a rest :=
  (advance c (cs ++ rest)).bind ((ident cs rest).bind (.pure a rest))

theorem colon (r : List Char) : Yields colon (':' :: r) () r :=
  (ahead rfl r).bind (advance ':' r)

theorem readAll (h : Yields x s a []) : readAll x s = .ok a := by
  obtain ⟨_, h⟩ := h
  rw [Json.readAll, h]
  rfl

end Yields

def continuesNumber (c : Char) : Bool :=
  Text.isDigit c || c = '.' || isExponentMark c

def Stops (s : List Char) : Prop :=
  ∀ c ∈ s.head?, continuesNumber c = false

theorem stops_nil : Stops [] := by
  simp [Stops]

theorem stops_cons {c : Char} (hc : continuesNumber c = false) (s : List Char) : Stops (c :: s) := by
  simpa [Stops] using hc

/-- Wherever `text` stands in front of what no number goes on with, the reader takes `a` and leaves the rest. -/
def Reads (x : Reader α) (text : List Char) (a : α) : Prop :=
  ∀ rest, Stops rest → Yields x (text ++ rest) a rest

namespace Reads

variable {x : Reader α} {text : List Char} {a : α}

theorem map (g : α → β) (h : Reads x text a) : Reads (g <$> x) text (g a) :=
  fun rest hrest => (h rest hrest).map g

theorem bind {f : α → Reader β} {b : β} (h : Reads x text a) (hf : ∀ s, Yields (f a) s b s) :
    Reads (x >>= f) text b :=
  fun rest hrest => (h rest hrest).bind (hf rest)

theorem readAll (h : Reads x text a) : readAll x text = .ok a := by
  have hall := h [] stops_nil
  rw [List.append_nil] at hall
  exact hall.readAll

end Reads

end MarketTicker.Json
