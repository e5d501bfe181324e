import MarketTicker.Proofs.Session.Attempt
import MarketTicker.Proofs.Session.Finality

namespace MarketTicker.Session

/-- A step in time: a tick comes no earlier than it is due, and time passes only where the driver waits, and
not beyond what it waits for. -/
structure Timely (m : Move) (s t : Session) : Prop where
  step : Step m s t
  tick : m = .driver .tick → s.dueMillis ≤ s.now
  wait : m = .wait → s.driverStep? = none ∧ ∀ wake, s.nextWake? = some wake → t.now ≤ wake

theorem timely_onTick {s : Session} (hi : s.activity = .idle) (hf : s.timerFails = false)
    (hdue : s.dueMillis ≤ s.now) : Timely (.driver .tick) s ({ s with due := s.nextDue } : Session).onTick :=
  ⟨.driver (.tick hi hf), fun _ => hdue, by simp⟩

/-- Time in which nobody makes a call and no attempt to connect again is announced. -/
inductive Lull : Session → Session → Prop
  | refl {s : Session} : s.queue = [] → Lull s s
  | step {m : Move} {s t u : Session} : Lull s t → Timely m t u → (∀ c, m ≠ .call c) → (∀ id, m ≠ .connect id) →
      u.queue = [] → (∀ n, ¬Announces n t u) → Lull s u

namespace Lull

variable {s t u : Session}

theorem works {task : Task} (h : Lull s t) (hw : Works task t u) (ht : task ≠ .tick) (hq : u.queue = []) :
    Lull s u := by
  refine h.step ⟨.driver hw, fun hx => absurd (Move.driver.inj hx) ht, by simp⟩ (by simp) (by simp) hq fun n ha => ?_
  exact ht (Move.driver.inj ((Step.driver hw).announces_iff.1 ha).1)

theorem wait {now wake : Nat} (h : Lull s t) (hle : t.now ≤ now) (hrest : t.driverStep?.isNone = true)
    (hwake : t.nextWake? = some wake) (hnow : now ≤ wake) (hq : t.queue = []) : Lull s { t with now } := by
  refine h.step ⟨.wait hle, by simp, fun _ => ⟨Option.isNone_iff_eq_none.1 hrest, fun later hlater => ?_⟩⟩
    (by simp) (by simp) hq fun n ha => ?_
  · obtain rfl : wake = later := Option.some.inj (hwake.symm.trans hlater)
    exact hnow
  · cases ((Step.wait hle).announces_iff.1 ha).1

end Lull

theorem Lull.first {s t : Session} (h : Lull s t) : s.queue = [] := by
  induction h with
  | refl hq => exact hq
  | step _ _ _ _ _ _ ih => exact ih

/-- Closing is asked for together with its command, so it is not asked for where no command comes. -/
theorem Step.closing_of_queue {m : Move} {s t : Session} (hs : Step m s t) (hm : ∀ id, m ≠ .connect id)
    (hu : s.activity.underWay = true) (hq : t.queue = []) : t.closing = s.closing := by
  rcases hs.adds hm with ⟨_, hcl, _⟩ | ⟨cs, ht, _, ⟨hcl, _⟩ | ⟨_, _, hclose⟩⟩
  · exact hcl
  · exact hcl
  · rw [hq] at ht
    have hempty : cs = [] := (List.append_eq_nil_iff.1 ht.symm).2
    exact absurd (hclose hu) (by simp [hempty])

/-- The time from which the tick after the next one is counted: where the next comes more than five
milliseconds late, the time at which it comes. -/
def reckoned (s : Session) : Nat :=
  if s.due + 5000000 < s.nanos then s.now else s.dueMillis

theorem reckoned_le {s : Session} (h : s.dueMillis ≤ s.now) : s.reckoned ≤ s.now := by
  unfold reckoned
  split
  · exact Nat.le_refl _
  · exact h

theorem dueMillis_le_reckoned (s : Session) : s.dueMillis ≤ s.reckoned := by
  unfold reckoned
  split
  · rename_i h
    unfold nanos at h
    unfold dueMillis
    omega
  · exact Nat.le_refl _

theorem now_le_reckoned (s : Session) : s.now ≤ s.reckoned + 5 := by
  unfold reckoned
  split
  · omega
  · rename_i h
    unfold nanos at h
    unfold dueMillis
    omega

theorem reckoned_of_le {s : Session} (h : s.now ≤ s.dueMillis) : s.reckoned = s.dueMillis := by
  unfold reckoned
  rw [if_neg]
  unfold nanos
  unfold dueMillis at h
  omega

theorem dueMillis_nextDue {s : Session} {t : Nat} (h : s.setup.beat.interval.nanos = t * 1000000) :
    dueMillis { s with due := s.nextDue } = s.reckoned + t := by
  unfold dueMillis nextDue reckoned nanos
  rw [h]
  dsimp only
  split
  · omega
  · unfold dueMillis
    omega

end MarketTicker.Session
