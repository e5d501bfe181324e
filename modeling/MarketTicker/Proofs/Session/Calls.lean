import MarketTicker.Session.Scenario

namespace MarketTicker

def Activity.underWay : Activity → Bool
  | .unstarted => false
  | .stopped => false
  | _ => true

namespace Session

/-- The session without what its callers change. -/
def helm (s : Session) : Session :=
  { s with
    watchlist := .empty, closing := false, cancelled := false, queue := [], callers := []
    callerCount := 0, trace := [] }

theorem activity_of_helm {s t : Session} (h : t.helm = s.helm) : t.activity = s.activity :=
  (congrArg Session.activity h :)

/-- Commands come last and connect to nothing, and closing is raised only together with its command. -/
def Adds (s t : Session) : Prop :=
  ∃ cs, t.queue = s.queue ++ cs ∧ (∀ id, .connect id ∉ cs) ∧
    (t.closing = s.closing ∧ t.cancelled = s.cancelled ∨
      t.closing = true ∧ t.cancelled = true ∧ (s.activity.underWay = true → .close ∈ cs))

namespace Adds

variable {s t u : Session}

theorem of_eq (hq : t.queue = s.queue) (hcl : t.closing = s.closing) (hca : t.cancelled = s.cancelled) :
    Adds s t :=
  ⟨[], by simp [hq], by simp, .inl ⟨hcl, hca⟩⟩

theorem trans (h : Adds s t) (h' : Adds t u) (ha : t.activity.underWay = s.activity.underWay) :
    Adds s u := by
  obtain ⟨cs, hq, hcs, hf⟩ := h
  obtain ⟨ds, hq', hds, hf'⟩ := h'
  refine ⟨cs ++ ds, by simp [hq', hq], fun id => by simp [hcs id, hds id], ?_⟩
  rcases hf' with ⟨hcl', hca'⟩ | ⟨hcl', hca', hm'⟩
  · rcases hf with ⟨hcl, hca⟩ | ⟨hcl, hca, hm⟩
    · exact .inl ⟨hcl'.trans hcl, hca'.trans hca⟩
    · exact .inr ⟨hcl'.trans hcl, hca'.trans hca, fun hw => List.mem_append_left _ (hm hw)⟩
  · exact .inr ⟨hcl', hca', fun hw => List.mem_append_right _ (hm' (ha.trans hw))⟩

end Adds

/-- What a call leaves alone, and in which places it only adds. -/
structure Called (s t : Session) : Prop where
  helm : t.helm = s.helm
  adds : Adds s t
  trace : ∃ added, t.trace = added ++ s.trace ∧
    ∀ e ∈ added, (∃ r, e.happening = .logged r) ∨ ∃ r, e.happening = .recorded r

namespace Called

variable {s t u : Session}

theorem refl (s : Session) : Called s s where
  helm := rfl
  adds := .of_eq rfl rfl rfl
  trace := ⟨[], by simp⟩

theorem trans (h : Called s t) (h' : Called t u) : Called s u where
  helm := h'.helm.trans h.helm
  adds := h.adds.trans h'.adds (congrArg Activity.underWay (activity_of_helm h.helm))
  trace := by
    obtain ⟨xs, ht, hxs⟩ := h.trace
    obtain ⟨ys, ht', hys⟩ := h'.trace
    refine ⟨ys ++ xs, by simp [ht', ht], fun e he => ?_⟩
    rcases List.mem_append.1 he with he | he
    · exact hys e he
    · exact hxs e he

theorem log (s : Session) (level : LogLevel) (message : String) (fields : List (String × String)) :
    Called s (s.log level message fields) where
  helm := rfl
  adds := .of_eq rfl rfl rfl
  trace := ⟨[_], rfl, fun e he => by simp_all⟩

theorem record (s : Session) (r : Recording) : Called s (s.record r) where
  helm := rfl
  adds := .of_eq rfl rfl rfl
  trace := ⟨[_], rfl, fun e he => by simp_all⟩

theorem enqueue (s : Session) {c : Command} (hc : ∀ id, c ≠ .connect id) : Called s (s.enqueue c) := by
  unfold Session.enqueue
  split
  · exact log s ..
  · exact ⟨rfl, ⟨[c], rfl, fun id => by simpa using (hc id).symm, .inl ⟨rfl, rfl⟩⟩, ⟨[], by simp⟩⟩

theorem enqueueOnWire (s : Session) {c : Command} (hc : ∀ id, c ≠ .connect id) :
    Called s (s.enqueueOnWire c) := by
  unfold Session.enqueueOnWire
  split
  · exact refl s
  · exact enqueue s hc

theorem watch (s : Session) (w : Watchlist) : Called s { s with watchlist := w } :=
  ⟨rfl, .of_eq rfl rfl rfl, ⟨[], by simp⟩⟩

theorem noteSubscribe (s : Session) (ts : List Token) : Called s (s.noteSubscribe ts) :=
  ((watch s _).trans (record _ _)).trans (log _ ..)

theorem noteUnsubscribe (s : Session) (ts : List Token) : Called s (s.noteUnsubscribe ts) :=
  ((watch s _).trans (record _ _)).trans (log _ ..)

theorem noteSetMode (s : Session) (ts : List Token) (mode : Mode) :
    Called s (s.noteSetMode ts mode).1 := by
  simp only [Session.noteSetMode]
  split
  · exact log s ..
  · exact (watch s _).trans (log _ ..)

theorem close (s : Session) : Called s s.close := by
  unfold Session.close Session.enqueue
  split
  · rename_i hstopped
    have ha : s.activity = .stopped := of_decide_eq_true hstopped
    refine ⟨rfl, ⟨[], by simp [Session.log, note, cancel, raiseClosing], by simp, .inr ⟨rfl, rfl, ?_⟩⟩,
      ⟨[_], rfl, fun e he => by simp_all⟩⟩
    simp [ha, Activity.underWay]
  · exact ⟨rfl, ⟨[.close], rfl, by simp, .inr ⟨rfl, rfl, fun _ => by simp⟩⟩, ⟨[], rfl, by simp⟩⟩

theorem call (s : Session) (c : Call) : Called s (s.call c) := by
  cases c with
  | connect => exact ⟨rfl, .of_eq rfl rfl rfl, ⟨[], rfl, by simp⟩⟩
  | close => exact close s
  | subscribe ts =>
    simp only [Session.call, Session.subscribe]
    split
    · exact refl s
    · exact (noteSubscribe s ts).trans (enqueueOnWire _ (fun id => by simp))
  | unsubscribe ts =>
    simp only [Session.call, Session.unsubscribe]
    split
    · exact refl s
    · exact (noteUnsubscribe s ts).trans (enqueueOnWire _ (fun id => by simp))
  | setMode ts mode =>
    have hnote := noteSetMode s ts mode
    simp only [Session.call, Session.setMode]
    split
    · exact refl s
    · split
      · rename_i h
        rw [h] at hnote
        exact hnote
      · rename_i h
        rw [h] at hnote
        exact hnote.trans (enqueueOnWire _ (fun id => by simp))
  | resubscribe => exact enqueueOnWire s (fun id => by simp)
  | enableRetry interval maxRetries => exact enqueue s (fun id => by simp)
  | disableRetry => exact enqueue s (fun id => by simp)

theorem calls (s : Session) (cs : List Call) : Called s (s.calls cs) := by
  induction cs generalizing s with
  | nil => exact refl s
  | cons c cs ih => exact (call s c).trans (ih (s.call c))

theorem react (s : Session) (r : Reaction) : Called s (s.react r) := by
  unfold Session.react
  split
  · exact calls s r.calls
  · exact refl s

end Called

end Session

end MarketTicker
