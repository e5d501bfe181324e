import MarketTicker.Subscription.Control

namespace MarketTicker.Watchlist

theorem lookup_cons (t : Token) (e : Token × Mode) (es : List (Token × Mode)) :
    (e :: es).lookup t = if t = e.1 then some e.2 else es.lookup t := by
  obtain ⟨token, mode⟩ := e
  by_cases h : t = token
  · simp [h]
  · have hb : (t == token) = false := by simpa using h
    simp [List.lookup_cons, h, hb]

theorem lookup_put (token t : Token) (mode : Mode) (es : List (Token × Mode)) :
    (put token mode es).lookup t = if t = token then some mode else es.lookup t := by
  induction es with
  | nil => simp [put, lookup_cons]
  | cons e es ih =>
    unfold put
    split
    · rw [lookup_cons]
    · split
      · rename_i he
        by_cases h : t = token
        · simp [h]
        · simp [lookup_cons, h, ← he]
      · rename_i he
        by_cases h : t = token
        · subst h
          simp [lookup_cons, he, ih]
        · simp [lookup_cons, h, ih]

theorem lookup_filter_ne (token t : Token) (es : List (Token × Mode)) :
    (es.filter (·.1 ≠ token)).lookup t = if t = token then none else es.lookup t := by
  induction es with
  | nil => simp
  | cons e es ih =>
    by_cases he : e.1 = token
    · rw [List.filter_cons_of_neg (by simpa using he), ih]
      by_cases h : t = token
      · simp [h]
      · have hne : t ≠ e.1 := fun h' => h (h'.trans he)
        simp [lookup_cons, h, hne]
    · rw [List.filter_cons_of_pos (by simpa using he), lookup_cons, ih]
      by_cases h : t = token
      · subst h
        simp [Ne.symm he]
      · simp [lookup_cons, h]

@[simp] theorem mode?_insert (w : Watchlist) (token t : Token) (mode : Mode) :
    (w.insert token mode).mode? t = if t = token then some mode else w.mode? t :=
  lookup_put token t mode w.entries

@[simp] theorem mode?_erase (w : Watchlist) (token t : Token) :
    (w.erase token).mode? t = if t = token then none else w.mode? t :=
  lookup_filter_ne token t w.entries

theorem mode?_subscribe (w : Watchlist) (ts : List Token) (t : Token) :
    (w.subscribe ts).2.mode? t =
      if t ∈ ts then some ((w.mode? t).getD .initial) else w.mode? t := by
  induction ts generalizing w with
  | nil => simp [subscribe]
  | cons x ts ih =>
    unfold subscribe
    split
    · rename_i hx
      rw [ih]
      by_cases h : t = x
      · subst h
        obtain ⟨m, hm⟩ := Option.isSome_iff_exists.1 hx
        simp [hm]
      · simp [h]
    · rename_i hx
      have hn : w.mode? x = none := by simpa [contains] using hx
      by_cases h : t = x
      · subst h
        simp [ih, hn]
      · simp [ih, h]

theorem mode?_unsubscribe (w : Watchlist) (ts : List Token) (t : Token) :
    (w.unsubscribe ts).2.mode? t = if t ∈ ts then none else w.mode? t := by
  induction ts generalizing w with
  | nil => simp [unsubscribe]
  | cons x ts ih =>
    unfold unsubscribe
    split
    · by_cases h : t = x
      · subst h
        simp [ih]
      · simp [ih, h]
    · rename_i hx
      have hn : w.mode? x = none := by simpa [contains] using hx
      by_cases h : t = x
      · subst h
        simp [ih, hn]
      · simp [ih, h]

theorem mode?_setMode (w : Watchlist) (mode : Mode) (ts : List Token) (t : Token) :
    (w.setMode mode ts).2.mode? t =
      if t ∈ ts then (w.mode? t).map fun _ => mode else w.mode? t := by
  induction ts generalizing w with
  | nil => simp [setMode]
  | cons x ts ih =>
    unfold setMode
    split
    · rename_i hx
      obtain ⟨m, hm⟩ := Option.isSome_iff_exists.1 hx
      change w.mode? x = some m at hm
      by_cases h : t = x
      · subst h
        simp [ih, hm]
      · simp [ih, h]
    · rename_i hx
      have hn : w.mode? x = none := by simpa [contains] using hx
      by_cases h : t = x
      · subst h
        simp [ih, hn]
      · simp [ih, h]

theorem setMode_fst (w : Watchlist) (mode : Mode) (ts : List Token) :
    (w.setMode mode ts).1 = ts.filter w.contains := by
  induction ts generalizing w with
  | nil => rfl
  | cons x ts ih =>
    have hsame (hx : w.contains x = true) : (w.insert x mode).contains = w.contains := by
      funext t
      by_cases h : t = x
      · subst h
        simpa [contains] using hx.symm
      · simp [contains, h]
    unfold setMode
    split
    · rename_i hx
      simp [ih, hsame hx, hx]
    · rename_i hx
      simp [ih, hx]

theorem mem_entries_iff (w : Watchlist) (t : Token) (mode : Mode) :
    (t, mode) ∈ w.entries ↔ w.mode? t = some mode := by
  have key (es : List (Token × Mode)) (h : es.Pairwise (·.1 < ·.1)) :
      (t, mode) ∈ es ↔ es.lookup t = some mode := by
    induction es with
    | nil => simp
    | cons e es ih =>
      obtain ⟨hlt, hes⟩ := List.pairwise_cons.1 h
      rw [lookup_cons]
      by_cases he : t = e.1
      · have hnot : (t, mode) ∉ es := fun hm => UInt32.lt_irrefl t (by simpa [he] using hlt _ hm)
        rw [if_pos he, List.mem_cons, or_iff_left hnot, Option.some.injEq]
        exact ⟨fun h => h ▸ rfl, fun h => Prod.ext he h.symm⟩
      · have hne : (t, mode) ≠ e := fun h => he (h ▸ rfl)
        rw [if_neg he, List.mem_cons, or_iff_right hne, ih hes]
  exact key w.entries w.ascending

theorem mem_tokens_iff (w : Watchlist) (t : Token) : t ∈ w.tokens ↔ ∃ mode, w.mode? t = some mode := by
  simp [tokens, ← mem_entries_iff]

theorem notMem_tokens_iff (w : Watchlist) (t : Token) : t ∉ w.tokens ↔ w.mode? t = none := by
  rw [mem_tokens_iff, Option.eq_none_iff_forall_ne_some, not_exists]

theorem mem_inMode_iff (w : Watchlist) (t : Token) (mode : Mode) :
    t ∈ w.inMode mode ↔ w.mode? t = some mode := by
  simp [inMode, ← mem_entries_iff]

theorem size_setMode (w : Watchlist) (mode : Mode) (ts : List Token) : (w.setMode mode ts).2.size = w.size := by
  have nodup (w : Watchlist) : w.tokens.Nodup := (List.pairwise_map.2 w.ascending).imp fun h => UInt32.ne_of_lt h
  have hmem (t : Token) : t ∈ (w.setMode mode ts).2.tokens ↔ t ∈ w.tokens := by
    rw [mem_tokens_iff, mem_tokens_iff, mode?_setMode]
    split
    · simp
    · rfl
  have hperm := (List.perm_ext_iff_of_nodup (nodup _) (nodup w)).2 hmem
  simpa [size, tokens] using hperm.length_eq

end MarketTicker.Watchlist
