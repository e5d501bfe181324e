import MarketTicker.Proofs.Session.Course

namespace MarketTicker.Session

theorem Works.now {task : Task} {s t : Session} (hw : Works task s t) : t.now = s.now := by
  by_cases ht : task = .stop
  · subst ht
    cases hw with
    | collapse => rfl
    | stop => exact (congrArg Session.now (helm_stop s) :)
  · refine (hw.course_any ht).now.trans ?_
    cases task <;> rfl

theorem now_beginConnect (s : Session) (id : Nat) : (s.beginConnect id).now = s.now := by
  obtain ⟨_, _, _, _, hs, _⟩ := beginConnect_eq s id
  rw [hs]

theorem step?_eq_some {s t : Session} (h : s.step? = some t) : (∃ m, Step m s t) ∧ t.now = s.now := by
  unfold step? at h
  split at h
  · rename_i hd
    cases h
    obtain ⟨task, hw⟩ := works_of_driverStep? hd
    exact ⟨⟨_, .driver hw⟩, hw.now⟩
  · unfold callerStep? at h
    split at h
    · rename_i id hfind
      cases h
      exact ⟨⟨_, .connect (List.mem_of_find?_eq_some hfind)⟩, now_beginConnect _ _⟩
    · rename_i id result hfind
      cases h
      exact ⟨⟨_, .returned (List.mem_of_find?_eq_some hfind)⟩, rfl⟩
    · cases h

theorem run_settle (s : Session) : (∃ ms, Run ms s s.settle) ∧ s.settle.now = s.now := by
  have key (fuel : Nat) (s : Session) :
      (∃ ms, Run ms s (settleWithin fuel s)) ∧ (settleWithin fuel s).now = s.now := by
    induction fuel generalizing s with
    | zero => exact ⟨⟨[], .nil s⟩, rfl⟩
    | succ fuel ih =>
      unfold settleWithin
      split
      · rename_i t ht
        obtain ⟨⟨m, hm⟩, hnow⟩ := step?_eq_some ht
        obtain ⟨⟨ms, hms⟩, hlater⟩ := ih t
        exact ⟨⟨m :: ms, .cons hm hms⟩, hlater.trans hnow⟩
      · exact ⟨⟨[], .nil s⟩, rfl⟩
  exact key patience s

theorem run_advance (s : Session) (millis : Nat) : ∃ ms, Run ms s (s.advance millis) := by
  have sleep {s : Session} {now : Nat} (h : s.now ≤ now) : ∃ ms, Run ms s (settle { s with now }) := by
    obtain ⟨⟨ms, hms⟩, _⟩ := run_settle { s with now }
    exact ⟨.wait :: ms, .cons (.wait h) hms⟩
  have key (target fuel : Nat) (s : Session) (h : s.now ≤ target) :
      ∃ ms, Run ms s (advanceWithin target fuel s) := by
    induction fuel generalizing s with
    | zero => exact ⟨[], .nil s⟩
    | succ fuel ih =>
      unfold advanceWithin
      split
      · rename_i wake _
        split
        · rename_i hwake
          obtain ⟨ms, hms⟩ := sleep (Nat.le_of_lt hwake.1)
          have hnow := (run_settle { s with now := wake }).2
          obtain ⟨ns, hns⟩ := ih (settle { s with now := wake }) (hnow ▸ hwake.2)
          exact ⟨ms ++ ns, hms.append hns⟩
        · exact sleep h
      · exact sleep h
  exact key _ _ s (Nat.le_add_right _ _)

theorem run_perform (s : Session) (stimulus : Stimulus) : ∃ ms, Run ms s (s.perform stimulus).2 := by
  have settled {m : Move} {s t : Session} (h : Step m s t) : ∃ ms, Run ms s t.settle := by
    obtain ⟨⟨ms, hms⟩, _⟩ := run_settle t
    exact ⟨m :: ms, .cons h hms⟩
  cases stimulus with
  | call c =>
    unfold perform
    dsimp only
    split
    · obtain ⟨hms, _⟩ := run_settle s
      exact hms
    · exact settled (.call c s)
  | advance millis => exact run_advance s millis
  | push wire d => exact settled (.push wire d s)
  | drop => exact settled (.drop s)

end MarketTicker.Session
