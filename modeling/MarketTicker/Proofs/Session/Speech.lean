import MarketTicker.Proofs.Session.Dispatch
import MarketTicker.Proofs.Session.Grammar
import MarketTicker.Proofs.Session.Wires

namespace MarketTicker

def Link.Phase.farewell (previous : Link.Phase) : List Event :=
  if previous = .closing then [] else [.closed]

namespace Delivery

theorem mem_events {d : Delivery} {e : Event} (he : e ∈ d.events) : e.inbound = true ∨ ∃ m, e = .error m := by
  have single {x : Event} (hx : x.inbound = true ∨ ∃ m, x = .error m) (h : e ∈ [x]) :
      e.inbound = true ∨ ∃ m, e = .error m := List.mem_singleton.1 h ▸ hx
  cases d with
  | binary data =>
    rw [events] at he
    split at he
    · obtain ⟨t, _, rfl⟩ := List.mem_map.1 he
      exact .inl rfl
    · cases he
  | text content =>
    rw [events] at he
    split at he
    · exact single (.inl rfl) he
    · exact single (.inr ⟨_, rfl⟩) he
    · cases he
    · exact single (.inr ⟨_, rfl⟩) he
    · cases he
  | _ => cases he

theorem suits_events {d : Delivery} {e : Event} (he : e ∈ d.events) : e.suits .connected = true := by
  rcases mem_events he with h | ⟨m, rfl⟩
  · cases e with
    | tick => rfl
    | order => rfl
    | _ => cases h
  · rfl

end Delivery

/-- A handler sees a phase that suits the event it is told of. -/
def TraceEntry.Suited (x : TraceEntry) : Prop :=
  ∀ e phase, x.happening = .handled e (some phase) → e.suits phase = true

def Released (i : Nat) (trace : List TraceEntry) : Prop :=
  ∃ x ∈ trace, x.happening = .released i

theorem Released.cons {i : Nat} {trace : List TraceEntry} (h : Released i trace) (x : TraceEntry) :
    Released i (x :: trace) := by
  obtain ⟨y, hy, hr⟩ := h
  exact ⟨y, List.mem_cons_of_mem _ hy, hr⟩

namespace Session

def Discharged (s : Session) : Prop :=
  ∀ i, i < s.net.wires.length → s.net.held i = false → Released i s.trace

end Session

/-- The time for an event has come: callers see a phase that suits it, and what it ends is let go. -/
structure Event.Timely (e : Event) (s : Session) : Prop where
  suits : e.suits s.published = true
  alone : e.ends = true → ∀ i, s.net.held i = false

theorem Event.timely_error (m : String) (s : Session) : (Event.error m).Timely s :=
  ⟨rfl, fun h => absurd h (by simp [Event.ends])⟩

theorem Delivery.timely_events {d : Delivery} {e : Event} {s : Session} (he : e ∈ d.events)
    (hp : s.published = .connected) : e.Timely s := by
  refine ⟨hp ▸ d.suits_events he, fun h => ?_⟩
  rcases d.mem_events he with hi | ⟨m, rfl⟩
  · cases e with
    | tick => cases h
    | order => cases h
    | _ => cases hi
  · cases h

theorem Event.Timely.of_helm {e : Event} {s t : Session} (h : e.Timely s) (ht : t.helm = s.helm) : e.Timely t := by
  have hp : t.published = s.published := (congrArg Session.published ht :)
  have hn : t.net = s.net := (congrArg Session.net ht :)
  exact ⟨hp ▸ h.suits, hn ▸ h.alone⟩

namespace Session

structure Tacit (s t : Session) : Prop where
  trace : t.trace = s.trace
  wires : s.net.wires.length ≤ t.net.wires.length
  discharged : s.Discharged → t.Discharged

namespace Tacit

variable {s t : Session}

theorem of_held (ht : t.trace = s.trace) (hl : t.net.wires.length = s.net.wires.length)
    (hh : ∀ i, t.net.held i = s.net.held i) : Tacit s t where
  trace := ht
  wires := Nat.le_of_eq hl.symm
  discharged h := by
    intro i hi hf
    rw [ht]
    exact h i (hl ▸ hi) ((hh i).symm.trans hf)

theorem keep (ht : t.trace = s.trace) (hn : t.net = s.net) : Tacit s t := by
  apply of_held ht
  · rw [hn]
  · intro i
    rw [hn]

theorem letGo {wire : Nat} (hr : Released wire s.trace) (ht : t.trace = s.trace)
    (hn : t.net = s.net.letGo (some wire)) : Tacit s t where
  trace := ht
  wires := Nat.le_of_eq (by rw [hn, Net.length_letGo])
  discharged h := by
    intro i hi hf
    rw [ht]
    by_cases hw : wire = i
    · exact hw ▸ hr
    · refine h i (by simpa [hn] using hi) (Bool.eq_false_iff.2 fun hheld => ?_)
      rw [hn] at hf
      exact absurd ((Net.held_letGo _ _ _).2 ⟨hheld, hw⟩) (by simp [hf])

theorem accept {manner : Manner} (ht : t.trace = s.trace) (hn : t.net = (s.net.accept manner).2) :
    Tacit s t where
  trace := ht
  wires := by simp [hn, Net.accept]
  discharged h := by
    intro i hi hf
    have hnot : ¬(s.net.held i = true ∨ s.net.wires.length = i) := by
      rw [← Net.held_accept s.net manner, ← hn, hf]
      simp
    obtain ⟨hheld, hne⟩ := not_or.1 hnot
    have hlen : i < s.net.wires.length + 1 := by simpa [hn, Net.accept] using hi
    rw [ht]
    exact h i (by omega) (Bool.eq_false_iff.2 hheld)

end Tacit

/-- How a session goes on: what is noted, the events that are told, and silent changes in between. -/
inductive Speech : Session → List Event → Session → Prop
  | refl (s : Session) : Speech s [] s
  | note {s t : Session} {es : List Event} {x : TraceEntry} :
      Speech s es t → x.happening.event? = none → x.Suited → Speech s es { t with trace := x :: t.trace }
  | emitted {s t : Session} {es : List Event} {e : Event} :
      Speech s es t → e.Timely t → Speech s (es ++ [e]) (t.note (.emitted e))
  | still {s t u : Session} {es : List Event} : Speech s es t → Tacit t u → Speech s es u

namespace Speech

variable {s t u : Session} {es : List Event}

theorem events (h : Speech s es t) : t.events = s.events ++ es := by
  induction h with
  | refl => exact (List.append_nil _).symm
  | @note t es x h hx _ ih =>
    have hcons : Session.events { t with trace := x :: t.trace } = t.events ++ x.happening.event?.toList :=
      collect_cons x rfl
    rw [hcons, ih, hx]
    exact List.append_nil _
  | @emitted t es e h _ ih =>
    have hnote : (t.note (.emitted e)).events = t.events ++ [e] := collect_note _ _ _
    rw [hnote, ih, List.append_assoc]
  | still h hu ih => exact (collect_congr hu.trace).trans ih

theorem suited (h : Speech s es t) : ∀ x ∈ t.trace, x ∈ s.trace ∨ x.Suited := by
  induction h with
  | refl => exact fun x hx => .inl hx
  | note h _ hs ih =>
    intro y hy
    rcases List.mem_cons.1 hy with rfl | hy
    · exact .inr hs
    · exact ih y hy
  | emitted h _ ih =>
    intro y hy
    rcases List.mem_cons.1 hy with rfl | hy
    · exact .inr fun _ _ hx => by cases hx
    · exact ih y hy
  | still h hu ih => exact hu.trace ▸ ih

theorem wires (h : Speech s es t) : s.net.wires.length ≤ t.net.wires.length := by
  induction h with
  | refl => exact Nat.le_refl _
  | note _ _ _ ih => exact ih
  | emitted _ _ ih => exact ih
  | still _ hu ih => exact Nat.le_trans ih hu.wires

theorem discharged (h : Speech s es t) (hs : s.Discharged) : t.Discharged := by
  induction h with
  | refl => exact hs
  | note _ _ _ ih => exact fun i hi hf => (ih i hi hf).cons _
  | emitted _ _ ih => exact fun i hi hf => (ih i hi hf).cons _
  | still _ hu ih => exact hu.discharged ih

theorem parted (h : Speech s es t) (hs : s.Discharged) {e : Event} {time : Nat} {earlier : List TraceEntry}
    (hx : ⟨time, .emitted e⟩ :: earlier <:+ t.trace) (hafter : s.trace <:+ earlier) :
    e ∈ es ∧ (e.ends = true → ∀ i, i < s.net.wires.length → Released i earlier) := by
  induction h with
  | refl =>
    -- nothing was added, and no entry stands above all that was there
    have hlen : earlier.length + 1 ≤ earlier.length := Nat.le_trans hx.length_le hafter.length_le
    exact absurd hlen (Nat.not_succ_le_self _)
  | note h hn _ ih =>
    rcases List.suffix_cons_iff.1 hx with heq | hx
    · obtain ⟨rfl, rfl⟩ := List.cons.inj heq
      cases hn
    · exact ih hx
  | @emitted t es e' h ht ih =>
    rcases List.suffix_cons_iff.1 hx with heq | hx
    · obtain ⟨hentry, rfl⟩ := List.cons.inj heq
      obtain rfl : e = e' := by simpa using congrArg TraceEntry.happening hentry
      refine ⟨by simp, fun he i hi => ?_⟩
      exact h.discharged hs i (Nat.lt_of_lt_of_le hi h.wires) (ht.alone he i)
    · obtain ⟨he, hi⟩ := ih hx
      exact ⟨List.mem_append_left _ he, hi⟩
  | still h hu ih => exact ih (hu.trace ▸ hx)

theorem trans {es' : List Event} (h : Speech s es t) (h' : Speech t es' u) : Speech s (es ++ es') u := by
  induction h' with
  | refl => exact (List.append_nil es).symm ▸ h
  | note _ hn hs ih => exact .note ih hn hs
  | emitted _ he ih =>
    rw [← List.append_assoc]
    exact .emitted ih he
  | still _ hu ih => exact .still ih hu

theorem keep (h : Speech s es t) (ht : u.trace = t.trace) (hn : u.net = t.net) : Speech s es u :=
  .still h (.keep ht hn)

theorem log (h : Speech s es t) (level : LogLevel) (message : String) (fields : List (String × String)) :
    Speech s es (t.log level message fields) :=
  .note h rfl fun _ _ hx => by cases hx

theorem record (h : Speech s es t) (r : Recording) : Speech s es (t.record r) :=
  .note h rfl fun _ _ hx => by cases hx

theorem called (h : Speech s es t) (hc : Called t u) : Speech s es u := by
  have key (added : List TraceEntry)
      (ha : ∀ x ∈ added, (∃ r, x.happening = .logged r) ∨ ∃ r, x.happening = .recorded r) :
      Speech s es { t with trace := added ++ t.trace } := by
    induction added with
    | nil => exact h
    | cons x added ih =>
      have hx := ha x List.mem_cons_self
      refine .note (ih fun y hy => ha y (List.mem_cons_of_mem _ hy)) ?_ ?_
      · rcases hx with ⟨r, hr⟩ | ⟨r, hr⟩
        · rw [hr]
          rfl
        · rw [hr]
          rfl
      · intro e phase he
        rcases hx with ⟨r, hr⟩ | ⟨r, hr⟩
        · cases hr.symm.trans he
        · cases hr.symm.trans he
  obtain ⟨added, ht, ha⟩ := hc.trace
  exact (key added ha).keep ht (congrArg Session.net hc.helm :)

theorem publish (h : Speech s es t) : Speech s es t.publish :=
  (h.keep (u := { t with published := t.link.phase }) rfl rfl).record _

theorem emit (h : Speech s es t) {e : Event} (he : e.Timely t) : Speech s (es ++ [e]) (t.emit e) := by
  have hn := h.emitted he
  rw [Session.emit]
  dsimp only
  split
  · exact hn
  · rename_i handler _
    have hh : Speech s (es ++ [e]) ((t.note (.emitted e)).note (.handled e (t.note (.emitted e)).visiblePhase)) := by
      refine .note hn rfl ?_
      intro e' phase hx
      obtain ⟨rfl, hp⟩ := Happening.handled.inj hx
      have hphase : t.published = phase := by
        rw [visiblePhase] at hp
        split at hp
        · exact Option.some.inj hp
        · cases hp
      exact hphase ▸ he.suits
    have hr := hh.called (Called.react _ (handler (t.note (.emitted e)).trace e))
    split
    · exact hr.note rfl fun _ _ hx => by cases hx
    · exact hr

theorem report (h : Speech s es t) (source : ErrorSource) (message : String) :
    Speech s (es ++ [.error message]) (t.report source message) :=
  (h.record _).emit (Event.timely_error message _)

theorem release (h : Speech s es t) (wire : Nat) : Speech s es (t.release wire) := by
  have hn : Speech s es (t.note (.released wire)) := .note h rfl fun _ _ hx => by cases hx
  exact hn.still (.letGo ⟨_, List.mem_cons_self, rfl⟩ rfl rfl)

theorem dropConnection (h : Speech s es t) : Speech s es t.dropConnection := by
  rw [Session.dropConnection]
  split
  · exact h
  · rename_i wire _
    exact (h.keep (u := { t with connection := none }) rfl rfl).release wire

theorem abort (h : Speech s es t) : Speech s es t.abort := by
  rw [Session.abort]
  split
  · exact h
  · exact h.dropConnection.log ..

theorem transmit (h : Speech s es t) (wire : Nat) (c : Control) :
    ∃ ms : List String, Speech s (es ++ ms.map .error) (t.transmit wire c) := by
  have hcharged : Speech s es { t with net := t.net.charge wire } := by
    refine h.still (.of_held rfl (Net.length_charge _ _) fun i => ?_)
    apply Net.held_update
    intro w
    rfl
  rw [Session.transmit]
  split
  · refine ⟨[], ?_⟩
    rw [List.map_nil, List.append_nil]
    exact ((Speech.note (x := ⟨t.now, .sent wire c⟩) hcharged rfl fun _ _ hx => by cases hx).record _).log ..
  · rename_i fault _
    refine ⟨[fault.message], ?_⟩
    have hnoted := Speech.note (x := ⟨t.now, .sendFailed wire c⟩) hcharged rfl fun _ _ hx => by cases hx
    exact (hnoted.log ..).report ..

theorem send (h : Speech s es t) (c : Control) :
    ∃ ms : List String, Speech s (es ++ ms.map .error) (t.send c) := by
  have nothing {u : Session} (hu : Speech s es u) : ∃ ms : List String, Speech s (es ++ ms.map .error) u :=
    ⟨[], by simpa using hu⟩
  rw [Session.send]
  split
  · split
    · exact nothing h
    · exact h.transmit _ c
  · exact nothing (h.log ..)

theorem restore (h : Speech s es t) (sequel : Sequel) : Speech s es (t.restore sequel) := by
  have hr : Speech s es { t with activity := .restoring t.watchlist.restorePlan.controls sequel } :=
    h.keep rfl rfl
  rw [Session.restore]
  split
  · exact hr
  · exact hr.log ..

theorem concludeAttempt (h : Speech s es t) (cause : Cause) (result : Except ConnectFault Unit) :
    Speech s es (t.concludeAttempt cause result) := by
  unfold Session.concludeAttempt
  dsimp only
  split
  · exact h.keep rfl rfl
  · exact h.keep rfl rfl
  · exact h.keep rfl rfl

theorem attemptFailed (h : Speech s es t) (cause : Cause) (fault : ConnectFault) :
    ∃ ms : List String, Speech s (es ++ ms.map .error) (t.attemptFailed cause fault) := by
  have hp := (h.keep (u := { t with link := t.link.connectFailed }) rfl rfl).publish
  unfold Session.attemptFailed
  dsimp only
  split
  · refine ⟨[], ?_⟩
    rw [List.map_nil, List.append_nil]
    exact (hp.log ..).concludeAttempt ..
  · exact ⟨[fault.message], ((hp.log ..).report ..).concludeAttempt ..⟩

theorem attemptSucceeded (h : Speech s es t) (cause : Cause) (manner : Manner) :
    Speech s es (t.attemptSucceeded cause manner) := by
  have ha : Speech s es
      { t with
        net := (t.net.accept manner).2, connection := some (t.net.accept manner).1
        link := t.link.connectSucceeded } := h.still (.accept rfl rfl)
  exact (ha.publish.log .info "Connected to Kite ticker" []).restore (.announce cause)

theorem dial (h : Speech s es t) (cause : Cause) (limit : Span) :
    ∃ ms : List String, Speech s (es ++ ms.map .error) (t.dial cause limit) := by
  have hl := h.log .info "Connecting to Kite ticker"
    [("request", (ConnectRequest.make t.setup.root t.credentials).describe)]
  rw [Session.dial]
  dsimp only
  split
  · exact hl.attemptFailed ..
  · split
    · exact hl.attemptFailed ..
    · refine ⟨[], ?_⟩
      rw [List.map_nil, List.append_nil]
      have hwires := wires_nextOutcome t.net
      have hn := hl.still (u := { t.log .info "Connecting to Kite ticker" _ with net := t.net.nextOutcome.2 })
        (.of_held rfl (congrArg List.length hwires) (Net.held_of_wires hwires))
      exact (Speech.note (x := ⟨t.now, .dialled _⟩) hn rfl fun _ _ hx => by cases hx).keep rfl rfl

theorem attempt (h : Speech s es t) (cause : Cause) (limit : Span) :
    ∃ ms : List String, Speech s (es ++ ms.map .error) (t.attempt cause limit) := by
  rw [Session.attempt]
  split
  · refine ⟨[], ?_⟩
    rw [List.map_nil, List.append_nil]
    exact (h.log ..).concludeAttempt ..
  · rename_i l _
    exact (h.keep (u := { t with link := l }) rfl rfl).publish.dial ..

theorem announceClosed (h : Speech s es t) (ht : Event.closed.Timely t) (previous : Link.Phase) :
    Speech s (es ++ previous.farewell) (t.announceClosed previous) := by
  rw [Session.announceClosed, Link.Phase.farewell]
  split
  · rw [List.append_nil]
    exact h
  · exact (h.log ..).emit (ht.of_helm rfl)

theorem hungUp (h : Speech s es t) {wire : Nat} (hp : t.published = .closing)
    (ho : ∀ i, t.net.held i = true → wire = i) (previous : Link.Phase) :
    Speech s (es ++ previous.farewell) (t.hungUp wire previous) := by
  have hr := (h.keep (u := { t with activity := .idle }) rfl rfl).release wire
  apply hr.announceClosed
  constructor
  · change Event.closed.suits t.published = true
    rw [hp]
    rfl
  · intro _ i
    change (t.net.letGo (some wire)).held i = false
    apply Bool.eq_false_iff.2
    intro hi
    obtain ⟨hheld, hne⟩ := (Net.held_letGo _ _ _).1 hi
    exact hne (ho i hheld)

theorem dispatch {es' : List Event} (h : Speech s es t) (hd : Dispatch t es' u)
    (ht : ∀ e ∈ es', e.Timely t) : Speech s (es ++ es') u := by
  induction hd with
  | refl => exact (List.append_nil es).symm ▸ h
  | log r _ ih => exact (ih ht).note rfl fun _ _ hx => by cases hx
  | record r _ ih => exact (ih ht).record r
  | @emit u es' e hd ih =>
    rw [← List.append_assoc]
    have he := ht e (List.mem_append_right _ (List.mem_singleton.2 rfl))
    exact (ih fun x hx => ht x (List.mem_append_left _ hx)).emit (he.of_helm hd.helm)

end Speech

end Session

end MarketTicker
