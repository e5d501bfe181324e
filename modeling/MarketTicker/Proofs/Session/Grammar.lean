import Mathlib.Data.List.Induction
import MarketTicker.Session.State

namespace MarketTicker

namespace Event

def ends : Event → Bool
  | .closed | .reconnecting _ | .exhausted => true
  | _ => false

def inbound : Event → Bool
  | .tick _ | .order _ => true
  | _ => false

/-- The phases in which callers may see the session while an event is told. -/
def suits : Event → Link.Phase → Bool
  | .connected, phase | .tick _, phase | .order _, phase => phase = .connected
  | .reconnecting _, phase | .exhausted, phase => phase = .disconnected
  | .closed, phase => phase = .disconnected || phase = .closing
  | .error _, _ => true

/-- Whether events are inside after one more, or `none` where it does not belong. -/
def follow : Bool → Event → Option Bool
  | inside, .connected => if inside then none else some true
  | inside, .tick _ | inside, .order _ => if inside then some true else none
  | inside, .error _ => some inside
  | _, .closed | _, .reconnecting _ | _, .exhausted => some false

theorem follow_eq_some {a b : Bool} {e : Event} (h : follow a e = some b) :
    (e = .connected → a = false) ∧ (e.inbound = true → a = true) ∧
      (b = true ↔ e = .connected ∨ a = true ∧ e.ends = false) := by
  cases e <;> cases a <;> simp_all [follow, inbound, ends]

theorem foldlM_follow_errors (inside : Bool) (ms : List String) :
    (ms.map Event.error).foldlM follow inside = some inside := by
  induction ms with
  | nil => rfl
  | cons m ms ih => exact ih

theorem foldlM_follow_inside {es : List Event} (h : ∀ e ∈ es, e.inbound = true ∨ ∃ m, e = .error m) :
    es.foldlM follow true = some true := by
  induction es with
  | nil => rfl
  | cons e es ih =>
    have hes := ih fun x hx => h x (List.mem_cons_of_mem _ hx)
    rcases h e List.mem_cons_self with he | ⟨m, rfl⟩
    · cases e with
      | tick => exact hes
      | order => exact hes
      | _ => cases he
    · exact hes

end Event

/-- After these events a session is open: none of those that followed the last `connected` has ended it. -/
def Inside (es : List Event) : Prop :=
  ∃ before after, es = before ++ .connected :: after ∧ ∀ e ∈ after, e.ends = false

theorem not_inside_nil : ¬Inside [] := by
  rintro ⟨before, after, h, _⟩
  simp at h

theorem inside_concat {es : List Event} {e : Event} :
    Inside (es ++ [e]) ↔ e = .connected ∨ Inside es ∧ e.ends = false := by
  constructor
  · rintro ⟨before, after, h, hafter⟩
    rcases List.eq_nil_or_concat after with rfl | ⟨after, last, rfl⟩
    · exact .inl (by simpa using (List.append_inj' h rfl).2)
    · rw [List.concat_eq_append] at h hafter
      rw [← List.cons_append, ← List.append_assoc] at h
      obtain ⟨rfl, hlast⟩ := List.append_inj' h rfl
      obtain rfl : e = last := by simpa using hlast
      exact .inr ⟨⟨before, after, rfl, fun x hx => hafter x (List.mem_append_left _ hx)⟩, hafter e (by simp)⟩
  · rintro (rfl | ⟨⟨before, after, rfl, hafter⟩, he⟩)
    · exact ⟨es, [], rfl, by simp⟩
    · refine ⟨before, after ++ [e], by simp, fun x hx => ?_⟩
      rcases List.mem_append.1 hx with hx | hx
      · exact hafter x hx
      · exact List.mem_singleton.1 hx ▸ he

/-- Events in the order of well-formed sessions: none opens within another, and what comes in on a connection
comes inside one. -/
structure Sessions (es : List Event) : Prop where
  opens : ∀ before, before ++ [.connected] <+: es → ¬Inside before
  inbound : ∀ before e, before ++ [e] <+: es → e.inbound = true → Inside before

theorem Sessions.concat {es : List Event} {e : Event} (h : Sessions es) (ho : e = .connected → ¬Inside es)
    (hi : e.inbound = true → Inside es) : Sessions (es ++ [e]) where
  opens before hb := by
    rcases List.prefix_concat_iff.1 hb with hb | hb
    · obtain ⟨rfl, he⟩ := List.append_inj' hb rfl
      exact ho (by simpa using he.symm)
    · exact h.opens before hb
  inbound before x hb hx := by
    rcases List.prefix_concat_iff.1 hb with hb | hb
    · obtain ⟨rfl, he⟩ := List.append_inj' hb rfl
      obtain rfl : x = e := by simpa using he
      exact hi hx
    · exact h.inbound before x hb hx

theorem sessions_of_follow {es : List Event} {inside : Bool} (h : es.foldlM Event.follow false = some inside) :
    Sessions es ∧ (Inside es ↔ inside = true) := by
  -- from the end of the list, where the next event is told
  induction es using List.reverseRecOn generalizing inside with
  | nil =>
    obtain rfl : false = inside := by simpa using h
    exact ⟨⟨by simp, by simp⟩, by simp [not_inside_nil]⟩
  | append_singleton es e ih =>
    rw [List.foldlM_append] at h
    obtain ⟨a, ha, he⟩ := Option.bind_eq_some_iff.1 h
    obtain ⟨hes, hin⟩ := ih ha
    obtain ⟨ho, hi, hb⟩ := Event.follow_eq_some (b := inside) (by simpa using he)
    refine ⟨hes.concat (fun hc => ?_) (fun hx => hin.2 (hi hx)), ?_⟩
    · rw [hin, ho hc]
      simp
    · rw [inside_concat, hin, hb]

end MarketTicker
