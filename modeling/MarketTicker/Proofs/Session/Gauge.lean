import MarketTicker.Proofs.Session.Acts
import MarketTicker.Proofs.Session.Books
import MarketTicker.Proofs.Session.Course

namespace MarketTicker.Session

variable {m : Move} {ms : List Move} {s t u : Session}

theorem Books.gauge_published {taken : List Recording} {owed : List Account} (h : Books taken owed s) :
    s.gauge? .connected = some 1 ↔ s.published = .connected := by
  have hlast := h.connected
  rw [gauge?_eq s rfl]
  by_cases hp : s.published = .connected
  · rw [if_pos hp] at hlast
    cases hread : (s.readings (Metric.gauge .connected)).getLast? with
    | none =>
      rw [hread] at hlast
      cases hlast
    | some n =>
      rw [hread] at hlast
      exact ⟨fun _ => hp, fun _ => congrArg some hlast⟩
  · rw [if_neg hp] at hlast
    refine ⟨fun hread => ?_, fun h => absurd h hp⟩
    rw [hread] at hlast
    cases hlast

/-- A driver whose timer cannot start has never come to a command. -/
theorem Reachable.connection_of_timerFails (h : s.Reachable) (hf : s.timerFails = true) : s.connection = none := by
  have key := h.invariant (P := fun s => s.timerFails = true →
    s.connection = none ∧ (s.activity = .unstarted ∨ s.activity = .idle ∨ s.activity = .stopped))
    (fun _ _ _ _ _ _ => ⟨rfl, .inl rfl⟩) ?_
  · exact (key hf).1
  intro m s t hs ih ht
  have hfail : s.timerFails = true := hs.timerFails.symm.trans ht
  obtain ⟨hc, ha⟩ := ih hfail
  cases hs with
  | driver hw =>
    cases hw with
    | collapse => exact ⟨hc, .inr (.inr rfl)⟩
    | command _ hn => cases hn.symm.trans hfail
    | tick _ hn => cases hn.symm.trans hfail
    | delivery _ hn => cases hn.symm.trans hfail
    | stop _ hn => cases hn.symm.trans hfail
    | handshake hd => simp [hd] at ha
    | restore hr => simp [hr] at ha
    | conclude hr => simp [hr] at ha
    | hungUp hh => simp [hh] at ha
    | hangUpLate hh => simp [hh] at ha
  | call c =>
    have hhelm := (Called.call s c).helm
    rw [activity_of_helm hhelm]
    exact ⟨(congrArg Session.connection hhelm :).trans hc, ha⟩
  | @connect _ id _ =>
    obtain ⟨_, _, _, _, hb, _⟩ := beginConnect_eq s id
    rw [hb]
    refine ⟨hc, ?_⟩
    split
    · exact .inr (.inl rfl)
    · exact ha
  | push wire d =>
    obtain ⟨net, hp, _⟩ := push_eq s wire d
    rw [hp]
    exact ⟨hc, ha⟩
  | returned => exact ⟨hc, ha⟩
  | wait => exact ⟨hc, ha⟩
  | listen => exact ⟨hc, ha⟩
  | drop => exact ⟨hc, ha⟩

theorem Works.ended (hw : Works .stop s t) (h : s.Reachable) :
    t.activity = .stopped ∧ t.connection = none ∧ t.published = s.published := by
  cases hw with
  | collapse _ hf => exact ⟨rfl, h.connection_of_timerFails hf, rfl⟩
  | stop =>
    have hh := helm_stop s
    exact ⟨(congrArg Session.activity hh :), (congrArg Session.connection hh :), (congrArg Session.published hh :)⟩

theorem Step.ends (hs : Step m s t) (h : s.activity ≠ .stopped) (ht : t.activity = .stopped) : Works .stop s t := by
  cases hs with
  | @driver task _ _ hw =>
    by_cases htask : task = .stop
    · exact htask ▸ hw
    · have hbusy : (taken task s).activity.underWay = true := by
        cases task with
        | _ => exact hw.underWay
      rw [← (hw.course_any htask).underWay, ht] at hbusy
      cases hbusy
  | call c => exact absurd ((activity_of_helm (Called.call s c).helm).symm.trans ht) h
  | @connect _ id _ =>
    rw [activity_beginConnect] at ht
    split at ht
    · cases ht
    · exact absurd ht h
  | push wire d =>
    obtain ⟨net, hp, _⟩ := push_eq s wire d
    exact absurd ((congrArg Session.activity hp).symm.trans ht) h
  | returned => exact absurd ht h
  | wait => exact absurd ht h
  | listen => exact absurd ht h
  | drop => exact absurd ht h

theorem Step.published_of_stopped (hs : Step m s t) (h : s.activity = .stopped) :
    t.published = s.published ∧ t.connection = s.connection := by
  cases hs with
  | driver hw => exact absurd h hw.running
  | call c =>
    have hhelm := (Called.call s c).helm
    exact ⟨(congrArg Session.published hhelm :), (congrArg Session.connection hhelm :)⟩
  | @connect _ id _ =>
    obtain ⟨_, _, _, _, hb, _⟩ := beginConnect_eq s id
    rw [hb]
    exact ⟨rfl, rfl⟩
  | push wire d =>
    obtain ⟨net, hp, _⟩ := push_eq s wire d
    rw [hp]
    exact ⟨rfl, rfl⟩
  | returned => exact ⟨rfl, rfl⟩
  | wait => exact ⟨rfl, rfl⟩
  | listen => exact ⟨rfl, rfl⟩
  | drop => exact ⟨rfl, rfl⟩

theorem Reachable.ended (h : s.Reachable) (ha : s.activity = .stopped) :
    ∃ u t ms, u.Reachable ∧ Works .stop u t ∧ Run ms t s := by
  have key := h.invariant (P := fun s => s.Reachable ∧ (s.activity = .stopped →
    ∃ u t ms, u.Reachable ∧ Works .stop u t ∧ Run ms t s)) ?_ ?_
  · exact key.2 ha
  · exact fun _ _ _ _ _ => ⟨⟨_, _, _, _, _, [], .nil _⟩, fun hs => by cases hs⟩
  · intro m s t hs ⟨hr, ih⟩
    refine ⟨hr.run (.single hs), fun ht => ?_⟩
    by_cases hlive : s.activity = .stopped
    · obtain ⟨u, v, ms, hu, hw, hrun⟩ := ih hlive
      exact ⟨u, v, ms ++ [m], hu, hw, hrun.append (.single hs)⟩
    · exact ⟨s, t, [], hr, hs.ends hlive ht, .nil t⟩

/-- As long as the driver runs, its gauge shows whether a connection is held. When it has ended none is held, and the
gauge goes on showing what it showed in the end. -/
theorem gauge_connected_iff (h : s.Reachable) :
    (s.activity ≠ .stopped → (s.gauge? .connected = some 1 ↔ s.connection.isSome = true)) ∧
      (s.activity = .stopped → s.connection = none ∧
        ∃ u t ms, u.Reachable ∧ Works .stop u t ∧ Run ms t s ∧
          (s.gauge? .connected = some 1 ↔ u.connection.isSome = true)) := by
  have shown {s : Session} (h : s.Reachable) : s.gauge? .connected = some 1 ↔ s.published = .connected := by
    obtain ⟨taken, hb⟩ := h.books
    exact hb.gauge_published
  have mirrors {s : Session} (h : s.Reachable) (ha : s.activity ≠ .stopped) :
      s.gauge? .connected = some 1 ↔ s.connection.isSome = true := by
    have hc := h.coherent ha
    rw [shown h, hc.held, hc.published, Link.connected, decide_eq_true_iff]
  refine ⟨mirrors h, fun ha => ?_⟩
  obtain ⟨u, t, ms, hu, hw, hrun⟩ := h.ended ha
  obtain ⟨hstopped, hnone, hsame⟩ := hw.ended hu
  have hkept : s.activity = .stopped ∧ s.published = t.published ∧ s.connection = t.connection := by
    refine hrun.preserves (P := fun s => s.activity = .stopped ∧ s.published = t.published ∧ s.connection = t.connection)
      (fun hs ht => ?_) ⟨hstopped, rfl, rfl⟩
    obtain ⟨hp, hc⟩ := hs.published_of_stopped ht.1
    exact ⟨hs.stopped ht.1, hp.trans ht.2.1, hc.trans ht.2.2⟩
  refine ⟨hkept.2.2.trans hnone, u, t, ms, hu, hw, hrun, ?_⟩
  rw [shown h, hkept.2.1, hsame, ← shown hu, mirrors hu hw.running]

theorem ends_connected :
    ∃ s t : Session, s.Reachable ∧ s.connection.isSome = true ∧ Works .stop s t ∧ t.gauge? .connected = some 1 := by
  have asked := (Run.nil (start .standard ⟨"key", "token"⟩ .none (.start [] ⟨.accept .smooth, 0⟩) fun _ => none)).append
    (.single (.call .connect _))
  have begun := asked.append (.single (@Step.connect _ 1 (by simp [call, requestConnect, start])))
  have connected := ((begun.append (.single (.driver (.command rfl rfl rfl)))).append
    (.single (.driver (.handshake rfl rfl)))).append (.single (.driver (.conclude rfl)))
  have dropped := (connected.append (.single (@Step.returned _ 1 (.ok ()) (List.mem_singleton.2 rfl)))).append
    (.single (.drop _))
  exact ⟨_, _, ⟨_, _, _, _, _, _, dropped⟩, rfl, .stop rfl rfl rfl rfl, rfl⟩

theorem gauge_connected_iff_of_drop :
    ∃ s t : Session, s.Reachable ∧ s.gauge? .connected = some 1 ∧ Works .stop s t ∧ t.connection = none := by
  obtain ⟨s, t, hs, hc, hw, _⟩ := ends_connected
  have ht : t.activity = .stopped := (hw.ended hs).1
  exact ⟨s, t, hs, ((gauge_connected_iff hs).1 hw.running).2 hc, hw,
    ((gauge_connected_iff (hs.run (.single (.driver hw)))).2 ht).1⟩

/-- A driver that ends with a connection lets it go and leaves the gauge up. -/
theorem gauge_connected_outlives :
    ¬∀ s : Session, s.Reachable → (s.gauge? .connected = some 1 ↔ s.connection.isSome = true) := by
  intro h
  obtain ⟨s, t, hs, _, hw, hup⟩ := ends_connected
  have hheld := (h t (hs.run (.single (.driver hw)))).1 hup
  rw [(hw.ended hs).2.1] at hheld
  cases hheld

end MarketTicker.Session
