import Mathlib.Data.List.Nodup
import MarketTicker.Proofs.Session.Course

namespace MarketTicker

namespace Session

section

variable {s t u : Session} {id : Nat} {result : Except ConnectFault Unit}

theorem keys_setCaller (s : Session) (id : Nat) (state : CallerState) :
    (s.setCaller id state).callers.map Prod.fst = s.callers.map Prod.fst := by
  rw [setCaller, List.map_map]
  apply List.map_congr_left
  intro c _
  by_cases hc : c.1 = id
  · simp [hc]
  · simp [hc]

theorem mem_setCaller {state state' : CallerState} {k : Nat} :
    (k, state') ∈ (s.setCaller id state).callers ↔
      k ≠ id ∧ (k, state') ∈ s.callers ∨ k = id ∧ state' = state ∧ ∃ old, (id, old) ∈ s.callers := by
  rw [setCaller, List.mem_map]
  constructor
  · rintro ⟨⟨k', old⟩, hin, he⟩
    dsimp only at he
    split at he
    · rename_i hk
      obtain ⟨rfl, rfl⟩ := Prod.mk.inj he
      exact .inr ⟨rfl, rfl, old, hk ▸ hin⟩
    · rename_i hk
      obtain ⟨rfl, rfl⟩ := Prod.mk.inj he
      exact .inl ⟨hk, hin⟩
  · rintro (⟨hk, hin⟩ | ⟨rfl, rfl, old, hin⟩)
    · exact ⟨_, hin, if_neg hk⟩
    · exact ⟨_, hin, if_pos rfl⟩

structure Enrolled (s : Session) : Prop where
  nodup : (s.callers.map Prod.fst).Nodup
  known : ∀ k ∈ s.callers.map Prod.fst, k ≤ s.callerCount

theorem Enrolled.functional (h : Enrolled s) {old new : CallerState} (ho : (id, old) ∈ s.callers)
    (hn : (id, new) ∈ s.callers) : old = new :=
  congrArg Prod.snd (List.inj_on_of_nodup_map h.nodup ho hn rfl)

theorem Enrolled.setCaller (h : Enrolled s) (id : Nat) (state : CallerState) : Enrolled (s.setCaller id state) := by
  constructor
  · rw [keys_setCaller]
    exact h.nodup
  · rw [keys_setCaller]
    exact h.known

structure Enrols (s t : Session) : Prop where
  callers : ∃ fresh, t.callers = s.callers ++ fresh ∧ (fresh.map Prod.fst).Nodup ∧
    ∀ c ∈ fresh, c.2 = .ready ∧ s.callerCount < c.1 ∧ c.1 ≤ t.callerCount
  count : s.callerCount ≤ t.callerCount

namespace Enrols

theorem of_eq (hc : t.callers = s.callers) (hn : t.callerCount = s.callerCount) : Enrols s t :=
  ⟨⟨[], by simp [hc]⟩, Nat.le_of_eq hn.symm⟩

theorem trans (h : Enrols s t) (h' : Enrols t u) : Enrols s u := by
  obtain ⟨xs, ht, hxs, hx⟩ := h.callers
  obtain ⟨ys, hu, hys, hy⟩ := h'.callers
  refine ⟨⟨xs ++ ys, by rw [hu, ht, List.append_assoc], ?_, ?_⟩, Nat.le_trans h.count h'.count⟩
  · rw [List.map_append, List.nodup_append]
    refine ⟨hxs, hys, fun k hk k' hk' => ?_⟩
    obtain ⟨c, hc, rfl⟩ := List.mem_map.1 hk
    obtain ⟨c', hc', rfl⟩ := List.mem_map.1 hk'
    have hle := (hx c hc).2.2
    have hlt := (hy c' hc').2.1
    omega
  · intro c hc
    rcases List.mem_append.1 hc with hc | hc
    · obtain ⟨hr, hlt, hle⟩ := hx c hc
      exact ⟨hr, hlt, Nat.le_trans hle h'.count⟩
    · obtain ⟨hr, hlt, hle⟩ := hy c hc
      exact ⟨hr, Nat.lt_of_le_of_lt h.count hlt, hle⟩

theorem enrolled (h : Enrols s t) (hs : Enrolled s) : Enrolled t := by
  obtain ⟨fresh, ht, hn, hf⟩ := h.callers
  constructor
  · rw [ht, List.map_append, List.nodup_append]
    refine ⟨hs.nodup, hn, fun k hk k' hk' => ?_⟩
    obtain ⟨c, hc, rfl⟩ := List.mem_map.1 hk'
    have hle := hs.known k hk
    have hlt := (hf c hc).2.1
    omega
  · intro k hk
    rw [ht, List.map_append] at hk
    rcases List.mem_append.1 hk with hk | hk
    · exact Nat.le_trans (hs.known k hk) h.count
    · obtain ⟨c, hc, rfl⟩ := List.mem_map.1 hk
      exact (hf c hc).2.2

theorem keep (h : Enrols s t) {state : CallerState} (hin : (id, state) ∈ s.callers) : (id, state) ∈ t.callers := by
  obtain ⟨fresh, ht, _⟩ := h.callers
  rw [ht]
  exact List.mem_append_left _ hin

theorem old (h : Enrols s t) {state : CallerState} (hin : (id, state) ∈ t.callers) :
    (id, state) ∈ s.callers ∨ state = .ready ∧ s.callerCount < id := by
  obtain ⟨fresh, ht, _, hf⟩ := h.callers
  rw [ht] at hin
  rcases List.mem_append.1 hin with hin | hin
  · exact .inl hin
  · obtain ⟨hr, hlt, _⟩ := hf _ hin
    exact .inr ⟨hr, hlt⟩

theorem waiting (h : Enrols s t) : (id, .waiting) ∈ t.callers ↔ (id, .waiting) ∈ s.callers := by
  constructor
  · intro hin
    rcases h.old hin with hin | ⟨hr, _⟩
    · exact hin
    · cases hr
  · exact h.keep

end Enrols

theorem enrols_enqueue (s : Session) (c : Command) : Enrols s (s.enqueue c) := by
  rw [enqueue]
  split
  · exact .of_eq rfl rfl
  · exact .of_eq rfl rfl

theorem enrols_enqueueOnWire (s : Session) (c : Command) : Enrols s (s.enqueueOnWire c) := by
  rw [enqueueOnWire]
  split
  · exact .of_eq rfl rfl
  · exact enrols_enqueue s c

theorem enrols_call (s : Session) (c : Call) : Enrols s (s.call c) := by
  cases c with
  | connect => exact ⟨⟨[(s.callerCount + 1, .ready)], rfl, by simp, by simp [call, requestConnect]⟩, Nat.le_succ _⟩
  | close => exact Enrols.trans (t := s.raiseClosing.cancel) (.of_eq rfl rfl) (enrols_enqueue _ _)
  | subscribe tokens =>
    rw [call, subscribe]
    split
    · exact .of_eq rfl rfl
    · exact Enrols.trans (t := s.noteSubscribe tokens) (.of_eq rfl rfl) (enrols_enqueueOnWire _ _)
  | unsubscribe tokens =>
    rw [call, unsubscribe]
    split
    · exact .of_eq rfl rfl
    · exact Enrols.trans (t := s.noteUnsubscribe tokens) (.of_eq rfl rfl) (enrols_enqueueOnWire _ _)
  | setMode tokens mode =>
    have hnote : Enrols s (s.noteSetMode tokens mode).1 := by
      rw [noteSetMode]
      dsimp only
      split
      · exact .of_eq rfl rfl
      · exact .of_eq rfl rfl
    rw [call, setMode]
    split
    · exact .of_eq rfl rfl
    · split
      · rename_i h
        rw [h] at hnote
        exact hnote
      · rename_i h
        rw [h] at hnote
        exact hnote.trans (enrols_enqueueOnWire _ _)
  | resubscribe => exact enrols_enqueueOnWire s _
  | enableRetry interval maxRetries => exact enrols_enqueue s _
  | disableRetry => exact enrols_enqueue s _

def Unreturned (h : Happening) : Prop :=
  ∀ id result, h ≠ .returned id result

theorem tolerant_unreturned : Tolerant Unreturned := by
  constructor <;> simp [Unreturned]

theorem Course.enrols {C : Call → Prop} (h : Course Unreturned C s t) : Enrols s t := by
  induction h with
  | refl => exact .of_eq rfl rfl
  | note _ _ ih => exact ih.trans (.of_eq rfl rfl)
  | call _ _ ih => exact ih.trans (enrols_call _ _)
  | answer _ hr _ => exact absurd rfl (hr _ _)
  | steer _ hu _ ih =>
    simp only [commons, Prod.mk.injEq] at hu
    exact ih.trans (.of_eq hu.2.2.2.2.2.1 hu.2.2.2.2.2.2.1)

def Answers (id : Nat) (result : Except ConnectFault Unit) (s t : Session) : Prop :=
  ∃ u, Enrols s u ∧ t.callers = (u.answer id result).callers ∧ t.callerCount = u.callerCount

namespace Answers

theorem after (h : Enrols s u) (h' : Answers id result u t) : Answers id result s t := by
  obtain ⟨v, hv, hc, hn⟩ := h'
  exact ⟨v, h.trans hv, hc, hn⟩

theorem enrolled (h : Answers id result s t) (hs : Enrolled s) : Enrolled t := by
  obtain ⟨u, hu, hc, hn⟩ := h
  obtain ⟨hnodup, hknown⟩ := (hu.enrolled hs).setCaller id (.answered result)
  exact ⟨hc ▸ hnodup, fun k hk => hn ▸ hknown k (hc ▸ hk)⟩

theorem told (h : Answers id result s t) {old : CallerState} (hin : (id, old) ∈ s.callers) :
    (id, .answered result) ∈ t.callers := by
  obtain ⟨u, hu, hc, _⟩ := h
  rw [hc]
  exact mem_setCaller.2 (.inr ⟨rfl, rfl, old, hu.keep hin⟩)

theorem only (h : Answers id result s t) {state : CallerState} (hin : (id, state) ∈ t.callers) :
    state = .answered result := by
  obtain ⟨u, _, hc, _⟩ := h
  rw [hc] at hin
  rcases mem_setCaller.1 hin with ⟨hne, _⟩ | ⟨_, hst, _⟩
  · exact absurd rfl hne
  · exact hst

theorem waiting (h : Answers id result s t) {k : Nat} :
    (k, .waiting) ∈ t.callers ↔ k ≠ id ∧ (k, .waiting) ∈ s.callers := by
  obtain ⟨u, hu, hc, _⟩ := h
  rw [hc, answer, mem_setCaller, hu.waiting]
  simp

theorem concludeAttempt (h : Enrols s u) (id : Nat) (result : Except ConnectFault Unit) :
    Answers id result s (u.concludeAttempt (.caller id) result) :=
  ⟨u, h, rfl, rfl⟩

end Answers

theorem terms_unreturned (hu : s.activity.underWay = true) : Terms Unreturned (fun _ => True) s :=
  ⟨tolerant_unreturned, fun _ _ _ _ _ => trivial, hu⟩

theorem answers_attemptFailed (hu : s.activity.underWay = true) (id : Nat) (fault : ConnectFault) :
    Answers id (.error fault) s (s.attemptFailed (.caller id) fault) := by
  rw [attemptFailed_eq]
  exact .concludeAttempt ((Course.refl s).beforeFailure (terms_unreturned hu) fault).enrols id _

theorem activity_launched (s : Session) {activity : Activity}
    (h : activity = if s.activity = .unstarted then .idle else s.activity) :
    activity.caller? = s.activity.caller? ∧ (activity.underWay = false → activity = .stopped) ∧
      (activity = .stopped → s.activity = .stopped) := by
  subst h
  cases s.activity <;> simp [Activity.caller?, Activity.underWay]

theorem beginConnect_cases (s : Session) (id : Nat) :
    (s.beginConnect id).callerCount = s.callerCount ∧
      (s.beginConnect id).activity.caller? = s.activity.caller? ∧
      (s.activity = .stopped ∧ (s.beginConnect id).queue = s.queue ∧
          (s.beginConnect id).callers = (s.setCaller id (.answered (.error .notRunning))).callers ∨
        (s.beginConnect id).activity.underWay = true ∧ (s.beginConnect id).queue = s.queue ++ [.connect id] ∧
          (s.beginConnect id).callers = (s.setCaller id .waiting).callers) := by
  obtain ⟨generation, due, ho⟩ := opened_eq s
  rw [beginConnect, ho]
  generalize hactivity : (if s.activity = .unstarted then Activity.idle else s.activity) = activity
  obtain ⟨ha, hrest, hstop⟩ := activity_launched s hactivity.symm
  split
  · rename_i hstopped
    exact ⟨rfl, ha, .inl ⟨hstop (of_decide_eq_true hstopped), rfl, rfl⟩⟩
  · rename_i hrun
    rw [enqueue]
    split
    · rename_i hstopped
      exact absurd hstopped hrun
    · refine ⟨rfl, ha, .inr ⟨?_, rfl, rfl⟩⟩
      change activity.underWay = true
      rw [← Bool.not_eq_false]
      intro hu
      have hstopped : activity = .stopped := hrest hu
      exact hrun (decide_eq_true hstopped)

structure Spares (id : Nat) (s t : Session) : Prop where
  keep : ∀ {state}, (id, state) ∈ s.callers → (id, state) ∈ t.callers
  old : ∀ {state}, (id, state) ∈ t.callers → (id, state) ∈ s.callers ∨ s.callerCount < id
  count : s.callerCount ≤ t.callerCount

namespace Spares

theorem of_eq (hc : t.callers = s.callers) (hn : t.callerCount = s.callerCount) : Spares id s t where
  keep hin := hc ▸ hin
  old hin := .inl (hc ▸ hin)
  count := Nat.le_of_eq hn.symm

theorem trans (h : Spares id s t) (h' : Spares id t u) : Spares id s u where
  keep hin := h'.keep (h.keep hin)
  old hin := by
    rcases h'.old hin with hin | hlt
    · exact h.old hin
    · exact .inr (Nat.lt_of_le_of_lt h.count hlt)
  count := Nat.le_trans h.count h'.count

theorem enrols (h : Enrols s t) : Spares id s t where
  keep := h.keep
  old hin := (h.old hin).imp_right And.right
  count := h.count

theorem setCaller {k : Nat} {state : CallerState} (hne : id ≠ k)
    (hc : t.callers = (s.setCaller k state).callers) (hn : t.callerCount = s.callerCount) : Spares id s t where
  keep hin := by
    rw [hc]
    exact mem_setCaller.2 (.inl ⟨hne, hin⟩)
  old hin := by
    rw [hc] at hin
    rcases mem_setCaller.1 hin with ⟨_, hin⟩ | ⟨he, _⟩
    · exact .inl hin
    · exact absurd he hne
  count := Nat.le_of_eq hn.symm

theorem beginConnect {k : Nat} (hne : id ≠ k) : Spares id s (s.beginConnect k) := by
  obtain ⟨hn, _, ⟨_, _, hc⟩ | ⟨_, _, hc⟩⟩ := beginConnect_cases s k
  · exact .setCaller hne hc hn
  · exact .setCaller hne hc hn

end Spares

end

end Session

end MarketTicker
