import MarketTicker.Market.Mode
import MarketTicker.Market.Segment

namespace MarketTicker

/-- The instruments that the caller wants, ascending, each with its mode. -/
structure Watchlist where
  entries : List (Token × Mode)
  ascending : entries.Pairwise (·.1 < ·.1)
  deriving DecidableEq

namespace Watchlist

def empty : Watchlist :=
  ⟨[], .nil⟩

instance : Inhabited Watchlist := ⟨empty⟩

def mode? (w : Watchlist) (token : Token) : Option Mode :=
  w.entries.lookup token

def contains (w : Watchlist) (token : Token) : Bool :=
  (w.mode? token).isSome

def tokens (w : Watchlist) : List Token :=
  w.entries.map Prod.fst

def size (w : Watchlist) : Nat :=
  w.entries.length

def isEmpty (w : Watchlist) : Bool :=
  w.entries.isEmpty

def put (token : Token) (mode : Mode) : List (Token × Mode) → List (Token × Mode)
  | [] => [(token, mode)]
  | e :: rest =>
    if token < e.1 then (token, mode) :: e :: rest
    else if token = e.1 then (token, mode) :: rest
    else e :: put token mode rest

theorem mem_put {token : Token} {mode : Mode} {es : List (Token × Mode)} {e : Token × Mode}
    (h : e ∈ put token mode es) : e = (token, mode) ∨ e ∈ es := by
  induction es with
  | nil => simpa [put] using h
  | cons x xs ih =>
    unfold put at h
    split at h
    · simpa using h
    · split at h
      · rcases List.mem_cons.1 h with h | h
        · exact .inl h
        · exact .inr (List.mem_cons_of_mem _ h)
      · rcases List.mem_cons.1 h with h | h
        · exact .inr (h ▸ List.mem_cons_self ..)
        · rcases ih h with h | h
          · exact .inl h
          · exact .inr (List.mem_cons_of_mem _ h)

theorem put_ascending (token : Token) (mode : Mode) {es : List (Token × Mode)}
    (h : es.Pairwise (·.1 < ·.1)) : (put token mode es).Pairwise (·.1 < ·.1) := by
  induction es with
  | nil => simp [put]
  | cons x xs ih =>
    obtain ⟨hx, hxs⟩ := List.pairwise_cons.1 h
    unfold put
    split
    · rename_i hlt
      refine List.pairwise_cons.2 ⟨fun e he => ?_, h⟩
      rcases List.mem_cons.1 he with he | he
      · exact he ▸ hlt
      · exact UInt32.lt_trans hlt (hx e he)
    · split
      · rename_i heq
        exact List.pairwise_cons.2 ⟨fun e he => heq ▸ hx e he, hxs⟩
      · rename_i hge hne
        refine List.pairwise_cons.2 ⟨fun e he => ?_, ih hxs⟩
        rcases mem_put he with he | he
        · subst he
          exact UInt32.lt_of_le_of_ne (UInt32.not_lt.1 hge) (Ne.symm hne)
        · exact hx e he

def insert (w : Watchlist) (token : Token) (mode : Mode) : Watchlist :=
  ⟨put token mode w.entries, put_ascending token mode w.ascending⟩

def erase (w : Watchlist) (token : Token) : Watchlist :=
  ⟨w.entries.filter (·.1 ≠ token), w.ascending.filter _⟩

abbrev Change := List Token × Watchlist

def subscribe (w : Watchlist) : List Token → Change
  | [] => ([], w)
  | t :: rest =>
    if w.contains t then subscribe w rest
    else
      let (added, w) := subscribe (w.insert t .initial) rest
      (t :: added, w)

def unsubscribe (w : Watchlist) : List Token → Change
  | [] => ([], w)
  | t :: rest =>
    if w.contains t then
      let (removed, w) := unsubscribe (w.erase t) rest
      (t :: removed, w)
    else unsubscribe w rest

def setMode (w : Watchlist) (mode : Mode) : List Token → Change
  | [] => ([], w)
  | t :: rest =>
    if w.contains t then
      let (updated, w) := setMode (w.insert t mode) mode rest
      (t :: updated, w)
    else setMode w mode rest

end Watchlist

end MarketTicker
