import MarketTicker.Proofs.Session.Helm

namespace MarketTicker

def Delivery.events : Delivery → List Event
  | .binary data =>
    match Feed.Frame.decode data with
    | .ok decoded => decoded.ticks.map .tick
    | .error _ => []
  | .text content =>
    match ServerMessage.read content with
    | .ok (.order order) => [.order order]
    | .ok (.error message) => [.error message]
    | .ok (.other _) => []
    | .error (.invalidOrder reason) => [.error (ServerMessage.Refusal.message (.invalidOrder reason))]
    | .error (.malformed _) => []
  | _ => []

namespace Happening

def event? : Happening → Option Event
  | .emitted e => some e
  | _ => none

def heard? : Happening → Option Event
  | .handled e _ => some e
  | _ => none

end Happening

namespace Session

variable {α : Type} {s t : Session}

def collect (f : Happening → Option α) (s : Session) : List α :=
  s.history.filterMap fun x => f x.happening

def events (s : Session) : List Event :=
  s.collect Happening.event?

def heard (s : Session) : List Event :=
  s.collect Happening.heard?

theorem collect_append {f : Happening → Option α} {added : List TraceEntry} (h : t.trace = added ++ s.trace) :
    t.collect f = s.collect f ++ added.reverse.filterMap fun x => f x.happening := by
  rw [collect, collect, history, history, h, List.reverse_append, List.filterMap_append]

theorem collect_congr {f : Happening → Option α} (h : t.trace = s.trace) : t.collect f = s.collect f := by
  rw [collect, collect, history, history, h]

theorem collect_cons {f : Happening → Option α} (x : TraceEntry) (h : t.trace = x :: s.trace) :
    t.collect f = s.collect f ++ (f x.happening).toList := by
  rw [← List.singleton_append] at h
  exact collect_append h

theorem collect_note (f : Happening → Option α) (s : Session) (h : Happening) :
    (s.note h).collect f = s.collect f ++ (f h).toList :=
  collect_cons ⟨s.now, h⟩ rfl

theorem collect_called {f : Happening → Option α} (hl : ∀ r, f (.logged r) = none) (hr : ∀ r, f (.recorded r) = none)
    (h : Called s t) : t.collect f = s.collect f := by
  obtain ⟨added, ht, ha⟩ := h.trace
  rw [collect_append ht, List.filterMap_eq_nil_iff.2, List.append_nil]
  intro x hx
  rcases ha x (List.mem_reverse.1 hx) with ⟨r, hxr⟩ | ⟨r, hxr⟩
  · rw [hxr, hl]
  · rw [hxr, hr]

theorem collect_emit {f : Happening → Option α} (hl : ∀ r, f (.logged r) = none) (hr : ∀ r, f (.recorded r) = none)
    (s : Session) (e : Event) :
    (s.emit e).collect f =
      s.collect f ++ (f (.emitted e)).toList ++
        if (s.handlers.get? e.slot).isSome then (f (.handled e s.visiblePhase)).toList else [] := by
  rw [emit]
  dsimp only
  have hsame : (s.note (.emitted e)).handlers = s.handlers := rfl
  rw [hsame]
  cases s.handlers.get? e.slot with
  | none => exact (collect_note f s _).trans (List.append_nil _).symm
  | some handler =>
    have hheard : ((s.note (.emitted e)).note (.handled e s.visiblePhase)).collect f =
        s.collect f ++ (f (.emitted e)).toList ++ (f (.handled e s.visiblePhase)).toList :=
      (collect_note f _ _).trans (by rw [collect_note])
    have hreact := collect_called hl hr (.react ((s.note (.emitted e)).note (.handled e s.visiblePhase))
      (handler (s.note (.emitted e)).trace e))
    dsimp only
    split
    · rw [collect_note, hl]
      exact (List.append_nil _).trans (hreact.trans hheard)
    · exact hreact.trans hheard

/-- A stretch of work that tells of events and takes notes, and changes nothing itself. -/
inductive Dispatch : Session → List Event → Session → Prop
  | refl (s : Session) : Dispatch s [] s
  | log {s t : Session} {es : List Event} (r : LogRecord) : Dispatch s es t → Dispatch s es (t.note (.logged r))
  | record {s t : Session} {es : List Event} (r : Recording) : Dispatch s es t → Dispatch s es (t.record r)
  | emit {s t : Session} {es : List Event} (e : Event) : Dispatch s es t → Dispatch s (es ++ [e]) (t.emit e)

namespace Dispatch

variable {es : List Event}

theorem helm (h : Dispatch s es t) : t.helm = s.helm := by
  induction h with
  | refl => rfl
  | log _ _ ih => exact ih
  | record _ _ ih => exact ih
  | emit e _ ih => exact (helm_emit _ e).trans ih

theorem handlers (h : Dispatch s es t) : t.handlers = s.handlers :=
  (congrArg Session.handlers h.helm :)

theorem events (h : Dispatch s es t) : t.events = s.events ++ es := by
  induction h with
  | refl => exact (List.append_nil _).symm
  | log r _ ih => exact (collect_note _ _ _).trans ((List.append_nil _).trans ih)
  | record r _ ih => exact (collect_note _ _ _).trans ((List.append_nil _).trans ih)
  | @emit t es e _ ih =>
    have hemit : (t.emit e).events = t.events ++ [e] ++ if (t.handlers.get? e.slot).isSome then [] else [] :=
      collect_emit (fun _ => rfl) (fun _ => rfl) t e
    rw [hemit, ih, ite_self, List.append_nil, List.append_assoc]

/-- Every event reaches the handler in its slot, however those before it ended. -/
theorem heard (h : Dispatch s es t) :
    t.heard = s.heard ++ es.filter fun e => (s.handlers.get? e.slot).isSome := by
  induction h with
  | refl => exact (List.append_nil _).symm
  | log r _ ih => exact (collect_note _ _ _).trans ((List.append_nil _).trans ih)
  | record r _ ih => exact (collect_note _ _ _).trans ((List.append_nil _).trans ih)
  | @emit t es e h ih =>
    have hemit : (t.emit e).heard = t.heard ++ [] ++ if (t.handlers.get? e.slot).isSome then [e] else [] :=
      collect_emit (fun _ => rfl) (fun _ => rfl) t e
    rw [hemit, ih, h.handlers, List.append_nil, List.filter_append, List.append_assoc, List.filter_cons,
      List.filter_nil]

theorem report (h : Dispatch s es t) (source : ErrorSource) (message : String) :
    Dispatch s (es ++ [.error message]) (t.report source message) :=
  .emit _ (.record _ h)

theorem logOutcomes (h : Dispatch s es t) (xs : List Feed.Outcome) : Dispatch s es (xs.foldl logOutcome t) := by
  induction xs generalizing t with
  | nil => exact h
  | cons x xs ih =>
    apply ih
    cases x with
    | tick => exact h
    | missing => exact h
    | zeroToken => exact .log _ h
    | rejected => exact .log _ h
    | cut => exact .log _ h

theorem deliverTicks (h : Dispatch s es t) (ts : List Tick) :
    Dispatch s (es ++ ts.map .tick) (ts.foldl deliverTick t) := by
  induction ts generalizing t es with
  | nil => exact (List.append_nil es).symm ▸ h
  | cons x ts ih =>
    rw [List.map_cons, List.append_cons]
    exact ih (.emit _ (.record _ h))

theorem onBinary (hl : s.link.connected = true) (data : List UInt8) :
    Dispatch s (Delivery.binary data).events (s.onBinary data) := by
  have hframe := Dispatch.record (.frame .binary) (.refl s)
  unfold Session.onBinary
  split
  · rename_i hbeat
    rw [Delivery.events, Feed.Frame.decode, if_pos hbeat]
    exact .record _ (.refl s)
  · dsimp only
    split
    · rename_i hdown
      have hup : (s.record (.frame .binary)).link.connected = true := hl
      rw [hup] at hdown
      cases hdown
    · rw [Delivery.events]
      generalize Feed.Frame.decode data = decoded
      cases decoded with
      | ok decoded =>
        dsimp only
        split
        · exact (Dispatch.record _ (hframe.logOutcomes _)).deliverTicks _
        · exact (hframe.logOutcomes _).deliverTicks _
      | error => exact .log _ (.record _ hframe)

theorem onText (s : Session) (content : String) : Dispatch s (Delivery.text content).events (s.onText content) := by
  have hframe := Dispatch.record (.frame .text) (.refl s)
  rw [Session.onText, Delivery.events]
  generalize ServerMessage.read content = message
  cases message with
  | ok message =>
    cases message with
    | order order => exact .emit _ (.log _ (.record _ hframe))
    | error message => exact (Dispatch.log _ hframe).report ..
    | other kind => exact .log _ hframe
  | error refusal =>
    cases refusal with
    | invalidOrder reason => exact (Dispatch.log _ hframe).report ..
    | malformed reason => exact .log _ hframe

end Dispatch

end Session

end MarketTicker
