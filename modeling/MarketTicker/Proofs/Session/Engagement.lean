import MarketTicker.Proofs.Session.Replies

namespace MarketTicker.Session

section

variable {s t u : Session} {m : Move} {ms ns : List Move} {id : Nat}

inductive Engaged : List Move → Session → Session → Prop
  | nil (s : Session) : Engaged [] s s
  | cons {m : Move} {ms : List Move} {s t u : Session} :
      s.activity ≠ .idle → Step m s t → Engaged ms t u → Engaged (m :: ms) s u

/-- A run in which nothing happens but what the driver does: it goes on where it can, and waits otherwise
until it is due. -/
inductive Alone : List Move → Session → Session → Prop
  | nil (s : Session) : Alone [] s s
  | works {task : Task} {ms : List Move} {s t u : Session} :
      s.driverStep? = some t → Works task s t → Alone ms t u → Alone (.driver task :: ms) s u
  | waits {now : Nat} {ms : List Move} {s u : Session} :
      s.driverStep? = none → s.nextWake? = some now → s.now ≤ now → Alone ms { s with now } u →
      Alone (.wait :: ms) s u

theorem Engaged.run (h : Engaged ms s t) : Run ms s t := by
  induction h with
  | nil => exact .nil _
  | cons _ hs _ ih => exact .cons hs ih

theorem Engaged.snoc (h : Engaged ms s t) (hb : t.activity ≠ .idle) (hs : Step m t u) : Engaged (ms ++ [m]) s u := by
  induction h with
  | nil => exact .cons hb hs (.nil _)
  | cons hb' hs' _ ih => exact .cons hb' hs' (ih hb hs)

namespace Alone

theorem run (h : Alone ms s t) : Run ms s t := by
  induction h with
  | nil => exact .nil _
  | works _ hw _ ih => exact .cons (.driver hw) ih
  | waits _ _ hle _ ih => exact .cons (.wait hle) ih

theorem append (h : Alone ms s t) (h' : Alone ns t u) : Alone (ms ++ ns) s u := by
  induction h with
  | nil => exact h'
  | works hd hw _ ih => exact .works hd hw (ih h')
  | waits hd hn hle _ ih => exact .waits hd hn hle (ih h')

end Alone

theorem Works.adds {task : Task} (hw : Works task s t) (hb : s.activity ≠ .idle) :
    Adds s t ∧ t.activity.underWay = s.activity.underWay := by
  have course {task : Task} {s t : Session} (hw : Works task s t) (hs : task ≠ .stop) (ht : taken task s = s) :
      Adds s t ∧ t.activity.underWay = s.activity.underWay := by
    have hc := hw.course_any hs
    rw [ht] at hc
    exact ⟨hc.adds, hc.underWay⟩
  cases hw with
  | command hi => exact absurd hi hb
  | tick hi => exact absurd hi hb
  | delivery hi => exact absurd hi hb
  | collapse hi => exact absurd hi hb
  | stop hi => exact absurd hi hb
  | handshake hd h => exact course (.handshake hd h) (by simp) rfl
  | restore hr => exact course (.restore hr) (by simp) rfl
  | conclude hr => exact course (.conclude hr) (by simp) rfl
  | hungUp hh => exact course (.hungUp hh) (by simp) rfl
  | hangUpLate hh hlate => exact course (.hangUpLate hh hlate) (by simp) rfl

def Frees (s : Session) : Prop :=
  ∃ ms t, Engaged ms s t ∧ Alone ms s t ∧ t.activity = .idle ∧ Adds s t

namespace Frees

theorem idle (hi : s.activity = .idle) : Frees s :=
  ⟨[], s, .nil s, .nil s, hi, .of_eq rfl rfl rfl⟩

theorem works (hb : s.activity ≠ .idle) (hd : s.driverStep? = some t) (h : Frees t) : Frees s := by
  obtain ⟨task, hw⟩ := works_of_driverStep? hd
  obtain ⟨ms, u, he, ha, hi, hadds⟩ := h
  obtain ⟨hadds', hu⟩ := hw.adds hb
  exact ⟨_, u, .cons hb (.driver hw) he, .works hd hw ha, hi, hadds'.trans hadds hu⟩

theorem waits {now : Nat} (hb : s.activity ≠ .idle) (hd : s.driverStep? = none) (hn : s.nextWake? = some now)
    (hle : s.now ≤ now) (h : Frees { s with now }) : Frees s := by
  obtain ⟨ms, u, he, ha, hi, hadds⟩ := h
  exact ⟨_, u, .cons hb (.wait hle) he, .waits hd hn hle ha, hi, hadds⟩

theorem restoring (rest : List Control) {s : Session} {sequel : Sequel} (ha : s.activity = .restoring rest sequel) :
    Frees s := by
  induction rest generalizing s with
  | nil =>
    refine works (t := s.conclude sequel) (by simp [ha]) (by simp only [driverStep?, ha]) (idle ?_)
    exact (congrArg Session.activity (helm_conclude s sequel) :)
  | cons c rest ih =>
    refine works (t := { s with activity := .restoring rest sequel }.send c) (by simp [ha])
      (by simp only [driverStep?, ha]) (ih ?_)
    rcases helm_send { s with activity := .restoring rest sequel } c with h | ⟨wire, _, h⟩
    · exact (congrArg Session.activity h :)
    · exact (congrArg Session.activity h :)

theorem settled {d : Dial} (ha : s.activity = .dialing d) (hs : s.settleDial d = some t) : Frees s := by
  refine works (t := t) (by simp [ha]) (by simpa only [driverStep?, ha] using hs) ?_
  rcases settleDial_eq_some hs with ⟨fault, rfl⟩ | ⟨_, manner, rfl⟩
  · exact idle (congrArg Session.activity (helm_attemptFailed s d.cause fault) :)
  · exact restoring _ (congrArg Session.activity (helm_attemptSucceeded s d.cause manner) :)

/-- A handshake is over when its answer is there, and at the latest at its deadline. -/
theorem dialing {d : Dial} (ha : s.activity = .dialing d) : Frees s := by
  cases hs : s.settleDial d with
  | some t => exact settled ha hs
  | none =>
    have hd : s.driverStep? = none := by simpa only [driverStep?, ha] using hs
    have hb : s.activity ≠ .idle := by simp [ha]
    have hwake : s.nextWake? = some (if d.answer = .hang then d.deadline else min d.arrival d.deadline) := by
      simp only [nextWake?, ha]
    unfold settleDial at hs
    split at hs
    · cases hs
    · rename_i hopen
      split at hs
      · rename_i hthere
        split at hs
        · cases hs
        · cases hs
        · exact absurd ‹_› hthere.2
      · rename_i hthere
        split at hs
        · cases hs
        · rename_i hlate
          by_cases hdue : (if d.answer = .hang then d.deadline else min d.arrival d.deadline) = d.deadline
          · rw [hdue] at hwake
            obtain ⟨t, ht, _⟩ := settleDial_of_late (s := { s with now := d.deadline }) (Nat.le_refl d.deadline)
            exact waits hb hd hwake (by omega) (settled ha ht)
          · have harrives : d.answer ≠ .hang := fun hh => hdue (if_pos hh)
            rw [if_neg harrives] at hwake hdue
            have hmin : min d.arrival d.deadline = d.arrival := by omega
            rw [hmin] at hwake
            have hle : s.now ≤ d.arrival := by
              by_contra hx
              exact hthere ⟨by omega, harrives⟩
            refine waits hb hd hwake hle ?_
            cases hs : ({ s with now := d.arrival } : Session).settleDial d with
            | some t => exact settled ha hs
            | none =>
              unfold settleDial at hs
              rw [if_neg (by exact hopen), if_pos ⟨Nat.le_refl _, harrives⟩] at hs
              cases hanswer : d.answer with
              | hang => exact absurd hanswer harrives
              | accept manner => simp [hanswer] at hs
              | refuse fault => simp [hanswer] at hs

theorem hangingUp {wire deadline : Nat} {previous : Link.Phase} (ha : s.activity = .hangingUp wire previous deadline) :
    Frees s := by
  have late {s : Session} (ha : s.activity = .hangingUp wire previous deadline) (hd : deadline ≤ s.now) : Frees s := by
    refine works (by simp [ha]) (by simp only [driverStep?, ha]; rw [if_pos hd]) (idle ?_)
    exact (congrArg Session.activity (helm_hungUp (s.log .debug "Ticker close handshake timed out" []) wire previous) :)
  by_cases hd : deadline ≤ s.now
  · exact late ha hd
  · have hwake : s.nextWake? = some deadline := by simp only [nextWake?, ha]
    refine waits (by simp [ha]) ?_ hwake (by omega) (late ha (Nat.le_refl _))
    simp only [driverStep?, ha]
    exact if_neg hd

end Frees

theorem Ledger.kept (h : Ledger s) (hw : (id, .waiting) ∈ s.callers) (hs : Step m s t) :
    (id, .waiting) ∈ t.callers ∨ ∃ result, Settled id result t := by
  cases hs with
  | @driver task _ _ hworks =>
    by_cases ht : task = .stop
    · subst ht
      cases hworks with
      | collapse => exact .inr ⟨_, settled_collapse h.enrolled hw⟩
      | stop _ _ _ hdead =>
        have hnobody : s.dropped = true ∧ s.callers = [] := by simpa [alive] using hdead
        rw [hnobody.2] at hw
        cases hw
    · by_cases hid : served? task s = some id
      · rcases hworks.serves hid with ⟨_, he⟩ | ⟨_, result, he⟩
        · exact .inl (he.keep hw)
        · exact .inr ⟨result, he.settled h.enrolled hw⟩
      · exact .inl ((hworks.spares ht hid).keep hw)
  | call c => exact .inl ((enrols_call s c).keep hw)
  | @connect _ k hin =>
    have hne : id ≠ k := by
      rintro rfl
      cases h.enrolled.functional hw hin
    exact .inl ((Spares.beginConnect hne).keep hw)
  | @returned _ k result hin =>
    have hne : id ≠ k := by
      rintro rfl
      cases h.enrolled.functional hw hin
    exact .inl (List.mem_filter.2 ⟨hw, by simpa using hne⟩)
  | wait => exact .inl hw
  | push wire d =>
    obtain ⟨net, hp, _⟩ := push_eq s wire d
    exact .inl (hp ▸ hw)
  | listen => exact .inl hw
  | drop => exact .inl hw

def Provided (id : Nat) (s : Session) : Prop :=
  ∃ ms t result, Alone ms s t ∧ Settled id result t

theorem Provided.after (h : Alone ms s t) (h' : Provided id t) : Provided id s := by
  obtain ⟨_, u, result, ha, hset⟩ := h'
  exact ⟨_, u, result, h.append ha, hset⟩

theorem Adds.callers (h : Adds s t) : t.queue.filterMap Command.caller? = s.queue.filterMap Command.caller? := by
  obtain ⟨cs, hq, hcs, _⟩ := h
  rw [hq, Command.callers_append hcs]

theorem Adds.place (h : Adds s t) {n : Nat} {c : Command} (hn : s.queue[n]? = some c) : t.queue[n]? = some c := by
  obtain ⟨cs, hq, _⟩ := h
  rw [hq, List.getElem?_append_left (List.getElem?_eq_some_iff.1 hn).1, hn]

theorem Adds.mem (h : Adds s t) {c : Command} (hc : c ∈ s.queue) : c ∈ t.queue := by
  obtain ⟨cs, hq, _⟩ := h
  rw [hq]
  exact List.mem_append_left cs hc

end

end MarketTicker.Session
