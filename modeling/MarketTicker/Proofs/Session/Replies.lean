import MarketTicker.Proofs.Session.Coherence
import MarketTicker.Proofs.Session.Dispatch
import MarketTicker.Proofs.Session.Ledger

namespace MarketTicker

def Happening.reply? (id : Nat) : Happening → Option (Except ConnectFault Unit)
  | .returned k result => if k = id then some result else none
  | _ => none

namespace Session

def replies (s : Session) (id : Nat) : List (Except ConnectFault Unit) :=
  s.collect (Happening.reply? id)

section

variable {s t u : Session} {m : Move} {ms : List Move} {id : Nat} {result : Except ConnectFault Unit}

def Hushed (s t : Session) : Prop :=
  ∃ added, t.trace = added ++ s.trace ∧ ∀ e ∈ added, Unreturned e.happening

namespace Hushed

theorem of_eq (ht : t.trace = s.trace) : Hushed s t :=
  ⟨[], ht, by simp⟩

theorem note {h : Happening} (hh : Unreturned h) : Hushed s (s.note h) :=
  ⟨[_], rfl, by simpa using hh⟩

theorem trans (h : Hushed s t) (h' : Hushed t u) : Hushed s u := by
  obtain ⟨xs, ht, hx⟩ := h
  obtain ⟨ys, hu, hy⟩ := h'
  refine ⟨ys ++ xs, by rw [hu, ht, List.append_assoc], fun e he => ?_⟩
  rcases List.mem_append.1 he with he | he
  · exact hy e he
  · exact hx e he

theorem course {C : Call → Prop} (h : Course Unreturned C s t) : Hushed s t :=
  h.trace tolerant_unreturned

theorem called (h : Called s t) : Hushed s t := by
  obtain ⟨added, ht, ha⟩ := h.trace
  refine ⟨added, ht, fun e he => ?_⟩
  rcases ha e he with ⟨r, hr⟩ | ⟨r, hr⟩
  · simp [hr, Unreturned]
  · simp [hr, Unreturned]

theorem replies (h : Hushed s t) (id : Nat) : t.replies id = s.replies id := by
  obtain ⟨added, ht, ha⟩ := h
  rw [Session.replies, collect_append ht, List.filterMap_eq_nil_iff.2, List.append_nil]
  · rfl
  · intro e he
    have hu := ha e (List.mem_reverse.1 he)
    cases hh : e.happening with
    | returned k result => exact absurd hh (hu k result)
    | _ => rfl

theorem concludeAttempt (cause : Cause) (result : Except ConnectFault Unit) :
    Hushed s (s.concludeAttempt cause result) := by
  unfold Session.concludeAttempt
  dsimp only
  split
  · exact .of_eq rfl
  · exact .of_eq rfl
  · exact .of_eq rfl

theorem attemptFailed (hu : s.activity.underWay = true) (cause : Cause) (fault : ConnectFault) :
    Hushed s (s.attemptFailed cause fault) := by
  rw [attemptFailed_eq]
  exact (course ((Course.refl s).beforeFailure (terms_unreturned hu) fault)).trans (concludeAttempt cause _)

theorem dial (hu : s.activity.underWay = true) (cause : Cause) (limit : Span) : Hushed s (s.dial cause limit) := by
  have hlog (level : LogLevel) (message : String) (fields : List (String × String)) :
      Hushed s (s.log level message fields) := .note (by simp [Unreturned])
  unfold Session.dial
  dsimp only
  split
  · exact (hlog ..).trans (attemptFailed (s := s.log ..) hu cause .cancelled)
  · split
    · exact (hlog ..).trans (attemptFailed (s := s.log ..) hu cause _)
    · exact ⟨[_, _], rfl, by simp [Unreturned]⟩

theorem attempt (hu : s.activity.underWay = true) (cause : Cause) (limit : Span) :
    Hushed s (s.attempt cause limit) := by
  cases hb : s.link.beginConnect? with
  | none =>
    rw [attempt_of_none hb]
    exact Hushed.trans (.note (by simp [Unreturned])) (concludeAttempt cause _)
  | some l =>
    rw [attempt_of_some hb]
    have hpublished : Hushed s ({ s with link := l }.publish) :=
      Hushed.trans (t := { s with link := l, published := l.phase }) (.of_eq rfl) (.note (by simp [Unreturned]))
    exact hpublished.trans (dial (s := { s with link := l }.publish) hu cause limit)

end Hushed

/-- Answers are given by the driver, but it is for the callers to return. -/
theorem Works.hushed {task : Task} (hw : Works task s t) : Hushed s t := by
  have hu := hw.underWay
  have unserved (ht : task ≠ .stop) (hn : served? task s = none) : Hushed s t := by
    have hc := hw.course_of_grants ht (terms_unreturned hu)
      ⟨by simp [Unreturned], by simp [Unreturned], by simp [Unreturned], by simp [Unreturned], by simp [hn]⟩
    refine Hushed.trans ?_ (.course hc)
    cases task <;> exact .of_eq rfl
  cases hw with
  | @command _ c rest hi _ hq =>
    cases c with
    | connect k =>
      exact Hushed.trans (t := { s with queue := rest }) (.of_eq rfl)
        (.attempt (s := { s with queue := rest }) hu _ _)
    | _ => exact unserved (by simp) (by simp [served?, hq, Command.caller?])
  | tick hi => exact unserved (by simp) (by simp [served?, hi, Activity.caller?])
  | delivery hi => exact unserved (by simp) (by simp [served?, hi, Activity.caller?])
  | @handshake _ _ d _ h =>
    rcases settleDial_eq_some h with ⟨fault, rfl⟩ | ⟨_, manner, rfl⟩
    · exact .attemptFailed hu _ _
    · exact .course ((Course.refl s).attemptSucceeded (terms_unreturned hu) d.cause manner)
  | @restore _ c rest sequel _ =>
    refine Hushed.trans (t := { s with activity := .restoring rest sequel }) (.of_eq rfl) ?_
    exact .course ((Course.refl _).send (terms_unreturned rfl) (by simp [Unreturned]))
  | @conclude _ sequel _ =>
    cases sequel with
    | resume => exact .of_eq rfl
    | announce cause =>
      have hemit := (Course.refl s).emit (terms_unreturned hu) tolerant_unreturned.connected
      exact (Hushed.course hemit).trans (.concludeAttempt cause _)
  | hungUp hh => exact unserved (by simp) (by simp [served?, hh, Activity.caller?])
  | hangUpLate hh => exact unserved (by simp) (by simp [served?, hh, Activity.caller?])
  | collapse => exact .of_eq rfl
  | stop =>
    obtain ⟨added, ht, ha⟩ := trace_stop s
    refine ⟨added, ht, fun e he => ?_⟩
    rcases ha e he with ⟨wire, hr⟩ | ⟨r, hr⟩
    · simp [hr, Unreturned]
    · simp [hr, Unreturned]

structure Welcomes (s t : Session) : Prop where
  old : ∀ {id state}, (id, state) ∈ t.callers → (∃ before, (id, before) ∈ s.callers) ∨ s.callerCount < id
  count : s.callerCount ≤ t.callerCount

namespace Welcomes

theorem of_eq (hc : t.callers = s.callers) (hn : t.callerCount = s.callerCount) : Welcomes s t :=
  ⟨fun hin => .inl ⟨_, hc ▸ hin⟩, Nat.le_of_eq hn.symm⟩

theorem of_enrols (h : Enrols s t) : Welcomes s t :=
  ⟨fun hin => (h.old hin).imp (fun hin => ⟨_, hin⟩) And.right, h.count⟩

theorem setCaller (h : Enrols s u) {k : Nat} {state : CallerState} (hc : t.callers = (u.setCaller k state).callers)
    (hn : t.callerCount = u.callerCount) : Welcomes s t where
  old hin := by
    rw [hc] at hin
    rcases mem_setCaller.1 hin with ⟨_, hin⟩ | ⟨rfl, _, before, hin⟩
    · exact (of_enrols h).old hin
    · exact (of_enrols h).old hin
  count := hn ▸ h.count

end Welcomes

theorem Works.welcomes {task : Task} (hw : Works task s t) : Welcomes s t := by
  by_cases ht : task = .stop
  · subst ht
    cases hw with
    | collapse =>
      refine ⟨fun hin => .inl ?_, Nat.le_refl _⟩
      rcases mem_collapse hin with ⟨hin, _⟩ | ⟨hin, _⟩
      · exact ⟨_, hin⟩
      · exact ⟨_, hin⟩
    | stop =>
      rw [Session.stop, abort, dropConnection]
      cases s.connection with
      | none => exact .of_eq rfl rfl
      | some wire => exact .of_eq rfl rfl
  · cases hk : served? task s with
    | none => exact .of_enrols (hw.unserved ht hk)
    | some k =>
      rcases hw.serves hk with ⟨_, he⟩ | ⟨_, _, u, hu, hc, hn⟩
      · exact .of_enrols he
      · exact .setCaller hu hc hn

/-- Nobody has returned who is still there or has not come yet, and nobody has returned twice. -/
structure Discreet (s : Session) : Prop where
  unheard : ∀ id, (∃ state, (id, state) ∈ s.callers) ∨ s.callerCount < id → s.replies id = []
  once : ∀ id, (s.replies id).length ≤ 1

namespace Discreet

theorem quiet (h : Discreet s) (hh : Hushed s t) (hw : Welcomes s t) : Discreet t where
  unheard id hid := by
    rw [hh.replies]
    refine h.unheard id ?_
    rcases hid with ⟨_, hin⟩ | hlt
    · exact hw.old hin
    · exact .inr (Nat.lt_of_le_of_lt hw.count hlt)
  once id := hh.replies id ▸ h.once id

theorem returned (h : Discreet s) (hl : Ledger s) (hin : (id, .answered result) ∈ s.callers) :
    Discreet ({ s with callers := s.callers.filter (·.1 ≠ id) }.note (.returned id result)) := by
  have hreplies (k : Nat) : ({ s with callers := s.callers.filter (·.1 ≠ id) }.note (.returned id result)).replies k =
      s.replies k ++ if id = k then [result] else [] := by
    refine (collect_note (Happening.reply? k) _ _).trans (congrArg (s.replies k ++ ·) ?_)
    rw [Happening.reply?]
    split
    · rfl
    · rfl
  constructor
  · intro k hk
    have hne : id ≠ k := by
      rintro rfl
      rcases hk with ⟨_, hk⟩ | hlt
      · simpa using (List.mem_filter.1 hk).2
      · exact absurd (hl.enrolled.known id (List.mem_map.2 ⟨_, hin, rfl⟩)) (Nat.not_le_of_lt hlt)
    rw [hreplies, if_neg hne, List.append_nil]
    exact h.unheard k (hk.imp_left fun ⟨_, hst⟩ => ⟨_, (List.mem_filter.1 hst).1⟩)
  · intro k
    rw [hreplies]
    split
    · rename_i hk
      rw [← hk, h.unheard id (.inl ⟨_, hin⟩)]
      simp
    · simpa using h.once k

theorem step (h : Discreet s) (hl : Ledger s) (hs : Step m s t) : Discreet t := by
  cases hs with
  | driver hw => exact h.quiet hw.hushed hw.welcomes
  | call c => exact h.quiet (.called (Called.call s c)) (.of_enrols (enrols_call s c))
  | @connect _ k _ =>
    have hh : Hushed s (s.beginConnect k) := by
      obtain ⟨_, _, _, _, hb, _⟩ := beginConnect_eq s k
      rw [hb]
      exact .of_eq rfl
    obtain ⟨hn, _, ⟨_, _, hc⟩ | ⟨_, _, hc⟩⟩ := beginConnect_cases s k
    · exact h.quiet hh (.setCaller (.of_eq rfl rfl) hc hn)
    · exact h.quiet hh (.setCaller (.of_eq rfl rfl) hc hn)
  | returned hin => exact h.returned hl hin
  | wait => exact h.quiet (.of_eq rfl) (.of_eq rfl rfl)
  | push wire d =>
    obtain ⟨net, hp, _⟩ := push_eq s wire d
    rw [hp]
    exact h.quiet (.of_eq rfl) (.of_eq rfl rfl)
  | listen => exact h.quiet (.of_eq rfl) (.of_eq rfl rfl)
  | drop => exact h.quiet (.of_eq rfl) (.of_eq rfl rfl)

end Discreet

theorem Reachable.discreet (h : s.Reachable) : Discreet s := by
  have key := h.invariant (P := fun s => Ledger s ∧ Discreet s) (fun _ _ _ _ _ => ?_) fun hs ⟨hl, h⟩ =>
    ⟨hl.step hs, h.step hl hs⟩
  · exact key.2
  · exact ⟨ledger_of_idle ⟨.nil, by simp [start]⟩ rfl (by simp [start]), fun _ _ => rfl, fun _ => Nat.zero_le 1⟩

inductive Answered (id : Nat) (result : Except ConnectFault Unit) (s : Session) : Prop
  | due : (id, .answered result) ∈ s.callers → s.replies id = [] → Answered id result s
  | given : (∀ state, (id, state) ∉ s.callers) → s.replies id = [result] → Answered id result s

theorem Settled.answered (h : Settled id result s) (hd : Discreet s) : Answered id result s := by
  by_cases hin : ∃ state, (id, state) ∈ s.callers
  · obtain ⟨state, hin⟩ := hin
    obtain rfl := h.only hin
    exact .due hin (hd.unheard id (.inl ⟨_, hin⟩))
  · rcases h.told with htold | ⟨e, he, hr⟩
    · exact absurd ⟨_, htold⟩ hin
    · refine .given (fun state hst => hin ⟨state, hst⟩) ?_
      have hmem : result ∈ s.replies id :=
        List.mem_filterMap.2 ⟨e, List.mem_reverse.2 he, by simp [hr, Happening.reply?]⟩
      obtain ⟨_, hone⟩ := List.length_eq_one_iff.1 (Nat.le_antisymm (hd.once id) (List.length_pos_of_mem hmem))
      rw [hone] at hmem ⊢
      rw [List.mem_singleton.1 hmem]

end

end Session

end MarketTicker
