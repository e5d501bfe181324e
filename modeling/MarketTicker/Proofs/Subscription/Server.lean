import MarketTicker.Proofs.Subscription.Watchlist

namespace MarketTicker

namespace Control

def actOn (t : Token) (m : Option Mode) : Control → Option Mode
  | .subscribe ts => if t ∈ ts then some (m.getD .quote) else m
  | .unsubscribe ts => if t ∈ ts then none else m
  | .mode k ts => if t ∈ ts then m.map fun _ => k else m

def serve (t : Token) (m : Option Mode) (cs : List Control) : Option Mode :=
  cs.foldl (actOn t) m

@[simp] theorem serve_nil (t : Token) (m : Option Mode) : serve t m [] = m := rfl

@[simp] theorem serve_cons (t : Token) (m : Option Mode) (c : Control) (cs : List Control) :
    serve t m (c :: cs) = serve t (actOn t m c) cs := rfl

@[simp] theorem serve_append (t : Token) (m : Option Mode) (cs ds : List Control) :
    serve t m (cs ++ ds) = serve t (serve t m cs) ds :=
  List.foldl_append

def Apt (t : Token) (m : Option Mode) : Control → Prop
  | .mode _ ts => t ∈ ts → m.isSome
  | _ => True

end Control

namespace Watchlist

open Control

theorem actOn_subscribe (w : Watchlist) (ts : List Token) (t : Token) :
    (w.subscribe ts).2.mode? t = actOn t (w.mode? t) (.subscribe ts) :=
  mode?_subscribe w ts t

theorem actOn_unsubscribe (w : Watchlist) (ts : List Token) (t : Token) :
    (w.unsubscribe ts).2.mode? t = actOn t (w.mode? t) (.unsubscribe ts) :=
  mode?_unsubscribe w ts t

theorem actOn_setMode (w : Watchlist) (mode : Mode) (ts : List Token) (t : Token) :
    (w.setMode mode ts).2.mode? t = actOn t (w.mode? t) (.mode mode (w.setMode mode ts).1) := by
  rw [mode?_setMode, setMode_fst]
  simp only [actOn, List.mem_filter, contains]
  cases w.mode? t <;> simp

theorem apt_setMode (w : Watchlist) (mode : Mode) (ts : List Token) (t : Token) :
    Apt t (w.mode? t) (.mode mode (w.setMode mode ts).1) := by
  rw [setMode_fst]
  exact fun h => (List.mem_filter.1 h).2

theorem serve_groups (t : Token) (m : Option Mode) (gs : List (Mode × List Token)) :
    serve t m ((gs.filter fun g => !g.2.isEmpty).map fun g => .mode g.1 g.2) =
      serve t m (gs.map fun g => .mode g.1 g.2) := by
  induction gs generalizing m with
  | nil => rfl
  | cons g gs ih =>
    obtain ⟨mode, ts⟩ := g
    cases ts with
    | nil => simpa [actOn] using ih m
    | cons x ts => simpa using ih _

theorem serve_restorePlan (w : Watchlist) (t : Token) (m : Option Mode) :
    serve t m w.restorePlan.controls = (w.mode? t).or m := by
  have absent : w.mode? t = none ↔ t ∉ w.tokens := by
    simp [mem_tokens_iff, Option.eq_none_iff_forall_ne_some]
  unfold RestorePlan.controls
  split
  · rename_i hempty
    have ht : t ∉ w.tokens := by
      have : w.tokens = [] := by simpa [RestorePlan.isEmpty, restorePlan] using hempty
      simp [this]
    simp [absent.2 ht]
  · rw [serve_cons, serve_cons]
    have hgroups := serve_groups t
      (actOn t (actOn t m (.unsubscribe w.tokens)) (.subscribe w.tokens))
      (Mode.all.map fun mode => (mode, w.inMode mode))
    refine hgroups.trans ?_
    simp only [Mode.all, List.map_cons, List.map_nil, serve_cons, serve_nil, actOn, mem_inMode_iff]
    cases hm : w.mode? t with
    | none => simp [absent.1 hm]
    | some mode =>
      have ht : t ∈ w.tokens := (mem_tokens_iff w t).2 ⟨mode, hm⟩
      cases mode <;> simp [ht]

end Watchlist

/-- Messages that have already had their effect on an instrument, which is now in mode `m`: each came
last when it was made. -/
inductive Echo (t : Token) : List Control → Option Mode → Prop
  | nil (m : Option Mode) : Echo t [] m
  | snoc {cs : List Control} {m : Option Mode} {c : Control} :
      Echo t cs m → c.Apt t m → Echo t (cs ++ [c]) (c.actOn t m)

namespace Echo

open Control

variable {t : Token} {cs : List Control} {c : Control} {m : Option Mode}

theorem tail (h : Echo t (c :: cs) m) : Echo t cs m := by
  have key {ds : List Control} {m : Option Mode} (hd : Echo t ds m) :
      ∀ {c cs}, ds = c :: cs → Echo t cs m := by
    induction hd with
    | nil => intro c cs h; cases h
    | @snoc ds m d hds hapt ih =>
      intro c cs h
      cases ds with
      | nil =>
        obtain ⟨rfl, rfl⟩ := List.cons.inj h
        exact .nil _
      | cons x ds =>
        obtain ⟨rfl, rfl⟩ := List.cons.inj h
        exact .snoc (ih rfl) hapt
  exact key h rfl

theorem drop {ds : List Control} (h : Echo t (cs ++ ds) m) : Echo t ds m := by
  induction cs with
  | nil => exact h
  | cons c cs ih => exact ih h.tail

/-- Either the outcome no longer depends on the mode before, or no message removes the instrument, and
then only the mode it has now can be the outcome. -/
def Settles (t : Token) (cs : List Control) (m : Option Mode) : Prop :=
  (∀ x, serve t x cs = m) ∨
    ((∀ k, (serve t (some k) cs).isSome) ∧ serve t m cs = m ∧ (m = none → ∀ x, serve t x cs = x))

theorem Settles.snoc (h : Settles t cs m) (hc : c.Apt t m) : Settles t (cs ++ [c]) (c.actOn t m) := by
  rcases h with hconst | ⟨hsome, hfix, hnone⟩
  · exact .inl fun x => by simp [hconst x]
  cases c with
  | subscribe ts =>
    by_cases ht : t ∈ ts
    · refine .inr ⟨fun k => by simp [actOn, ht], ?_, by simp [actOn, ht]⟩
      cases m with
      | none => simp [actOn, ht, hnone rfl]
      | some k => simp [actOn, ht, hfix]
    · simpa [Settles, actOn, ht] using Or.inr ⟨hsome, hfix, hnone⟩
  | unsubscribe ts =>
    by_cases ht : t ∈ ts
    · exact .inl fun x => by simp [actOn, ht]
    · simpa [Settles, actOn, ht] using Or.inr ⟨hsome, hfix, hnone⟩
  | mode k ts =>
    by_cases ht : t ∈ ts
    · obtain ⟨m, rfl⟩ := Option.isSome_iff_exists.1 (hc ht)
      have hmode (x : Mode) : serve t (some x) (cs ++ [.mode k ts]) = some k := by
        obtain ⟨y, hy⟩ := Option.isSome_iff_exists.1 (hsome x)
        simp [actOn, ht, hy]
      refine .inr ⟨fun x => by simp [hmode x], ?_, by simp [actOn, ht]⟩
      simpa [actOn, ht] using hmode k
    · simpa [Settles, actOn, ht] using Or.inr ⟨hsome, hfix, hnone⟩

theorem settles (h : Echo t cs m) : Settles t cs m := by
  induction h with
  | nil m => exact .inr ⟨fun k => rfl, rfl, fun _ x => rfl⟩
  | snoc _ hapt ih => exact ih.snoc hapt

theorem serve_eq (h : Echo t cs m) : serve t m cs = m := by
  rcases h.settles with hconst | ⟨_, hfix, _⟩
  · exact hconst m
  · exact hfix

end Echo

end MarketTicker
