import MarketTicker.Proofs.Subscription.Watchlist

namespace MarketTicker

inductive Edit where
  | subscribe
  | unsubscribe
  | setMode (mode : Mode)
  deriving DecidableEq

namespace Edit

/-- The machine of one instrument, which is in a mode or absent. -/
def turn : Edit → Option Mode → Option Mode
  | .subscribe, m => some (m.getD .quote)
  | .unsubscribe, _ => none
  | .setMode mode, m => m.map fun _ => mode

def meets : Edit → Bool → Bool
  | .subscribe, listed => !listed
  | .unsubscribe, listed => listed
  | .setMode _, listed => listed

end Edit

namespace Watchlist

variable {w v : Watchlist} {e f : Edit} {ts us : List Token} {t x : Token}

def edit (w : Watchlist) : Edit → List Token → Change
  | .subscribe, ts => w.subscribe ts
  | .unsubscribe, ts => w.unsubscribe ts
  | .setMode mode, ts => w.setMode mode ts

def run (w : Watchlist) (calls : List (Edit × List Token)) : Watchlist :=
  calls.foldl (fun w c => (w.edit c.1 c.2).2) w

theorem mode?_edit (w : Watchlist) (e : Edit) (ts : List Token) (t : Token) :
    (w.edit e ts).2.mode? t = if t ∈ ts then e.turn (w.mode? t) else w.mode? t := by
  cases e with
  | subscribe => exact mode?_subscribe w ts t
  | unsubscribe => exact mode?_unsubscribe w ts t
  | setMode mode => exact mode?_setMode w mode ts t

theorem mode?_run (w : Watchlist) (calls : List (Edit × List Token)) (t : Token) :
    (w.run calls).mode? t =
      (calls.filter fun c => decide (t ∈ c.2)).foldl (fun m c => c.1.turn m) (w.mode? t) := by
  induction calls generalizing w with
  | nil => rfl
  | cons c calls ih =>
    have hrest := ih (w.edit c.1 c.2).2
    rw [mode?_edit] at hrest
    by_cases h : t ∈ c.2
    · rw [List.filter_cons_of_pos (by simpa using h), List.foldl_cons]
      rw [if_pos h] at hrest
      exact hrest
    · rw [List.filter_cons_of_neg (by simpa using h)]
      rw [if_neg h] at hrest
      exact hrest

theorem eq_of_mode? (h : ∀ t, w.mode? t = v.mode? t) : w = v := by
  have hnodup (u : Watchlist) : u.entries.Nodup := by
    refine List.Pairwise.imp ?_ u.ascending
    rintro a b hlt rfl
    exact UInt32.lt_irrefl a.1 hlt
  have hperm : w.entries.Perm v.entries := by
    refine (List.perm_ext_iff_of_nodup (hnodup w) (hnodup v)).2 fun e => ?_
    rw [mem_entries_iff w e.1 e.2, mem_entries_iff v e.1 e.2, h]
  have hentries : w.entries = v.entries := by
    refine hperm.eq_of_pairwise (fun a b _ _ hab hba => ?_) w.ascending v.ascending
    exact absurd (UInt32.lt_trans hab hba) (UInt32.lt_irrefl a.1)
  cases w
  cases v
  cases hentries
  rfl

def touch (w : Watchlist) (t : Token) : Edit → Watchlist
  | .subscribe => w.insert t .initial
  | .unsubscribe => w.erase t
  | .setMode mode => w.insert t mode

theorem edit_cons (w : Watchlist) (e : Edit) (t : Token) (ts : List Token) :
    w.edit e (t :: ts) =
      if e.meets (w.contains t) then (t :: ((w.touch t e).edit e ts).1, ((w.touch t e).edit e ts).2)
      else w.edit e ts := by
  cases e with
  | subscribe => cases h : w.contains t <;> simp [edit, subscribe, touch, Edit.meets, h]
  | unsubscribe => cases h : w.contains t <;> simp [edit, unsubscribe, touch, Edit.meets, h]
  | setMode mode => cases h : w.contains t <;> simp [edit, setMode, touch, Edit.meets, h]

theorem edit_append (w : Watchlist) (e : Edit) (ts us : List Token) :
    w.edit e (ts ++ us) = ((w.edit e ts).1 ++ ((w.edit e ts).2.edit e us).1, ((w.edit e ts).2.edit e us).2) := by
  induction ts generalizing w with
  | nil => cases e <;> rfl
  | cons t ts ih =>
    rw [List.cons_append, edit_cons, edit_cons]
    split
    · rw [ih]
      rfl
    · exact ih w

theorem meets_touch (w : Watchlist) (x t : Token) (he : ∀ mode, e ≠ .setMode mode) :
    e.meets ((w.touch x e).contains t) = (!(t == x) && e.meets (w.contains t)) := by
  cases e with
  | subscribe => by_cases h : t = x <;> simp [Edit.meets, touch, contains, h]
  | unsubscribe => by_cases h : t = x <;> simp [Edit.meets, touch, contains, h]
  | setMode mode => exact absurd rfl (he mode)

/-- Instruments that come and go are told once: an earlier occurrence leaves nothing to do for a later one. -/
theorem edit_fst (w : Watchlist) (ts : List Token) (he : ∀ mode, e ≠ .setMode mode) :
    (w.edit e ts).1 = (ts.filter fun t => e.meets (w.contains t)).eraseDups := by
  induction ts generalizing w with
  | nil => cases e <;> rfl
  | cons x ts ih =>
    rw [edit_cons]
    split
    · rename_i hx
      rw [List.filter_cons_of_pos (p := fun t => e.meets (w.contains t)) hx, List.eraseDups_cons, List.filter_filter]
      simp only [ih, meets_touch w x _ he]
    · rename_i hx
      rw [ih, List.filter_cons_of_neg (p := fun t => e.meets (w.contains t)) hx]

theorem subscribe_fst (w : Watchlist) (ts : List Token) :
    (w.subscribe ts).1 = (ts.filter fun t => !w.contains t).eraseDups :=
  w.edit_fst (e := .subscribe) ts (by simp)

theorem unsubscribe_fst (w : Watchlist) (ts : List Token) :
    (w.unsubscribe ts).1 = (ts.filter w.contains).eraseDups :=
  w.edit_fst (e := .unsubscribe) ts (by simp)

theorem edit_fst_congr (e : Edit) (h : ∀ t ∈ ts, w.mode? t = v.mode? t) : (w.edit e ts).1 = (v.edit e ts).1 := by
  have hcontains : ∀ t ∈ ts, w.contains t = v.contains t := fun t ht => by rw [contains, contains, h t ht]
  cases e with
  | subscribe =>
    have hfilter : (ts.filter fun t => !w.contains t) = ts.filter fun t => !v.contains t :=
      List.filter_congr fun t ht => by rw [hcontains t ht]
    rw [edit, edit, subscribe_fst, subscribe_fst, hfilter]
  | unsubscribe => rw [edit, edit, unsubscribe_fst, unsubscribe_fst, List.filter_congr hcontains]
  | setMode mode => rw [edit, edit, setMode_fst, setMode_fst, List.filter_congr hcontains]

/-- Calls without a common instrument can change places, and none sees that the other went first. -/
theorem edit_comm (w : Watchlist) (e f : Edit) (h : ∀ t ∈ ts, t ∉ us) :
    ((w.edit e ts).2.edit f us).2 = ((w.edit f us).2.edit e ts).2 ∧
      ((w.edit e ts).2.edit f us).1 = (w.edit f us).1 ∧ ((w.edit f us).2.edit e ts).1 = (w.edit e ts).1 := by
  refine ⟨eq_of_mode? fun t => ?_, edit_fst_congr f fun t ht => ?_, edit_fst_congr e fun t ht => ?_⟩
  · simp only [mode?_edit]
    by_cases ht : t ∈ ts
    · simp [ht, h t ht]
    · simp [ht]
  · rw [mode?_edit, if_neg fun hts => h t hts ht]
  · rw [mode?_edit, if_neg (h t ht)]

end Watchlist

/-- Every instrument of a watchlist once, and each of them in the group of its mode. -/
structure RestorePlan.Covers (p : RestorePlan) (w : Watchlist) : Prop where
  ascending : p.tokens.Pairwise (· < ·)
  tokens : ∀ t, t ∈ p.tokens ↔ (w.mode? t).isSome
  modes : (p.groups.map Prod.fst).Sublist [.ltp, .quote, .full]
  nonempty : ∀ g ∈ p.groups, g.2 ≠ []
  groupsAscending : ∀ g ∈ p.groups, g.2.Pairwise (· < ·)
  disjoint : p.groups.Pairwise fun g h => ∀ t ∈ g.2, t ∉ h.2
  grouped : ∀ t mode, (∃ g ∈ p.groups, g.1 = mode ∧ t ∈ g.2) ↔ w.mode? t = some mode

namespace Watchlist

theorem mem_groups_iff (w : Watchlist) (g : Mode × List Token) :
    g ∈ w.restorePlan.groups ↔ g.2 = w.inMode g.1 ∧ g.2 ≠ [] := by
  obtain ⟨mode, ts⟩ := g
  simp only [restorePlan, List.mem_filter, List.mem_map, Prod.mk.injEq, Bool.not_eq_true',
    List.isEmpty_eq_false_iff]
  constructor
  · rintro ⟨⟨_, -, rfl, rfl⟩, hne⟩
    exact ⟨rfl, hne⟩
  · rintro ⟨rfl, hne⟩
    exact ⟨⟨mode, mode.mem_all, rfl, rfl⟩, hne⟩

theorem restorePlan_covers (w : Watchlist) : w.restorePlan.Covers w := by
  have hsub : (w.restorePlan.groups.map Prod.fst).Sublist Mode.all := by
    have hfirst : (Mode.all.map fun mode => (mode, w.inMode mode)).map Prod.fst = Mode.all := rfl
    rw [← hfirst]
    exact List.filter_sublist.map Prod.fst
  have hascending (p : Token × Mode → Bool) : ((w.entries.filter p).map Prod.fst).Pairwise (· < ·) :=
    List.pairwise_map.2 (w.ascending.filter p)
  refine ⟨List.pairwise_map.2 w.ascending, fun t => ?_, hsub, fun g hg => ?_, fun g hg => ?_, ?_, fun t mode => ?_⟩
  · rw [Option.isSome_iff_exists]
    exact mem_tokens_iff w t
  · exact ((mem_groups_iff w g).1 hg).2
  · rw [((mem_groups_iff w g).1 hg).1]
    exact hascending _
  · have hmodes : w.restorePlan.groups.Pairwise fun g h => g.1 ≠ h.1 :=
      List.pairwise_map.1 (List.Pairwise.sublist hsub (by decide))
    refine hmodes.imp_of_mem fun {g h} hg hh hne t htg hth => hne ?_
    rw [((mem_groups_iff w g).1 hg).1, mem_inMode_iff] at htg
    rw [((mem_groups_iff w h).1 hh).1, mem_inMode_iff, htg] at hth
    exact Option.some.inj hth
  · rw [← mem_inMode_iff]
    constructor
    · rintro ⟨g, hg, rfl, ht⟩
      rwa [← ((mem_groups_iff w g).1 hg).1]
    · intro ht
      exact ⟨(mode, w.inMode mode), (mem_groups_iff w _).2 ⟨rfl, List.ne_nil_of_mem ht⟩, rfl, ht⟩

/-- A watchlist is a machine for every instrument, turned by the calls that name it and by no others; what the
calls tell of it is exact, and so is the plan that restores it. -/
theorem independent_machines (w : Watchlist) :
    (∀ calls t, (w.run calls).mode? t =
      (calls.filter fun c => decide (t ∈ c.2)).foldl (fun m c => c.1.turn m) (w.mode? t)) ∧
    (∀ e f ts us, (∀ t ∈ ts, t ∉ us) →
      ((w.edit e ts).2.edit f us).2 = ((w.edit f us).2.edit e ts).2 ∧
        ((w.edit e ts).2.edit f us).1 = (w.edit f us).1 ∧ ((w.edit f us).2.edit e ts).1 = (w.edit e ts).1) ∧
    (∀ e ts us, w.edit e (ts ++ us) =
      ((w.edit e ts).1 ++ ((w.edit e ts).2.edit e us).1, ((w.edit e ts).2.edit e us).2)) ∧
    (∀ ts, (w.subscribe ts).1 = (ts.filter fun t => !w.contains t).eraseDups ∧
      (w.unsubscribe ts).1 = (ts.filter w.contains).eraseDups ∧
      ∀ mode, (w.setMode mode ts).1 = ts.filter w.contains) ∧
    w.restorePlan.Covers w :=
  ⟨mode?_run w, fun e f _ _ => edit_comm w e f, edit_append w,
    fun ts => ⟨subscribe_fst w ts, unsubscribe_fst w ts, fun mode => setMode_fst w mode ts⟩, restorePlan_covers w⟩

theorem independent_machines_of_strangers :
    let w := (empty.subscribe [9, 7]).2
    (∀ t ∈ ([7, 8, 7] : List Token), t ∉ ([9, 9] : List Token)) ∧
      ((w.edit .unsubscribe [7, 8, 7]).2.edit (.setMode .full) [9, 9]).2 =
        ((w.edit (.setMode .full) [9, 9]).2.edit .unsubscribe [7, 8, 7]).2 ∧
      (w.unsubscribe [7, 8, 7]).1 = [7] ∧ (w.setMode .full [9, 9]).1 = [9, 9] := by
  intro w
  obtain ⟨_, hcomm, _, htold, _⟩ := independent_machines w
  have hapart : ∀ t ∈ ([7, 8, 7] : List Token), t ∉ ([9, 9] : List Token) := by simp
  refine ⟨hapart, (hcomm .unsubscribe (.setMode .full) _ _ hapart).1, ?_, ?_⟩
  · rw [(htold _).2.1]
    decide
  · rw [(htold _).2.2 .full]
    decide

end Watchlist

end MarketTicker
