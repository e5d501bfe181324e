import MarketTicker.Proofs.Session.Helm
import MarketTicker.Proofs.Session.Step

namespace MarketTicker

def Cause.caller? : Cause → Option Nat
  | .caller id => some id
  | .retry _ => none

def Activity.caller? : Activity → Option Nat
  | .dialing d => d.cause.caller?
  | .restoring _ (.announce cause) => cause.caller?
  | _ => none

def Command.caller? : Command → Option Nat
  | .connect id => some id
  | _ => none

namespace Session

def fixtures (s : Session) : Handlers Handler × Nat × Nat :=
  (s.handlers, s.now, s.generation)

def commons (s : Session) :
    Watchlist × Bool × Bool × List Command × List TraceEntry × List (Nat × CallerState) × Nat ×
      Handlers Handler × Nat × Nat :=
  (s.watchlist, s.closing, s.cancelled, s.queue, s.trace, s.callers, s.callerCount, s.fixtures)

/-- A stretch of the driver's work: notes, calls by handlers, answers to callers that may return with them,
and changes to what is the driver's own. -/
inductive Course (P : Happening → Prop) (C : Call → Prop) : Session → Session → Prop
  | refl (s : Session) : Course P C s s
  | note {s t : Session} {h : Happening} : Course P C s t → P h → Course P C s (t.note h)
  | call {s t : Session} {c : Call} : Course P C s t → C c → Course P C s (t.call c)
  | answer {s t : Session} {id : Nat} {result : Except ConnectFault Unit} :
      Course P C s t → P (.returned id result) → Course P C s (t.answer id result)
  | steer {s t u : Session} : Course P C s t → u.commons = t.commons →
      u.activity.underWay = t.activity.underWay → Course P C s u

/-- All that is noted in passing is allowed; what dials, tells of a new attempt or is sent need not be. -/
structure Tolerant (P : Happening → Prop) : Prop where
  logged : ∀ r, P (.logged r)
  recorded : ∀ r, P (.recorded r)
  handled : ∀ e phase, P (.handled e phase)
  released : ∀ wire, P (.released wire)
  closeFrame : ∀ wire, P (.closeFrame wire)
  sendFailed : ∀ wire c, P (.sendFailed wire c)
  error : ∀ m, P (.emitted (.error m))
  tick : ∀ t, P (.emitted (.tick t))
  order : ∀ o, P (.emitted (.order o))
  connected : P (.emitted .connected)
  closed : P (.emitted .closed)

def Obliging (C : Call → Prop) (s : Session) : Prop :=
  ∀ slot handler, s.handlers.get? slot = some handler → ∀ c, (∃ past e, c ∈ (handler past e).calls) → C c

structure Terms (P : Happening → Prop) (C : Call → Prop) (s : Session) : Prop where
  tolerant : Tolerant P
  obliging : s.Obliging C
  underWay : s.activity.underWay = true

namespace Course

variable {P : Happening → Prop} {C : Call → Prop} {s t u : Session}

theorem underWay (h : Course P C s t) : t.activity.underWay = s.activity.underWay := by
  induction h with
  | refl => rfl
  | note _ _ ih => exact ih
  | call _ _ ih => rw [activity_of_helm (Called.call _ _).helm, ih]
  | answer _ _ ih => exact ih
  | steer _ _ ha ih => exact ha.trans ih

theorem adds (h : Course P C s t) : Adds s t := by
  induction h with
  | refl => exact .of_eq rfl rfl rfl
  | note _ _ ih => exact ih
  | call h _ ih => exact ih.trans (Called.call _ _).adds h.underWay
  | answer _ _ ih => exact ih
  | @steer t u h hu _ ih =>
    simp only [commons, Prod.mk.injEq] at hu
    exact ih.trans (.of_eq hu.2.2.2.1 hu.2.1 hu.2.2.1) h.underWay

theorem fixtures (h : Course P C s t) : t.fixtures = s.fixtures := by
  induction h with
  | refl => rfl
  | note _ _ ih => exact ih
  | call _ _ ih => exact (congrArg Session.fixtures (Called.call _ _).helm :).trans ih
  | answer _ _ ih => exact ih
  | steer _ hu _ ih =>
    simp only [commons, Prod.mk.injEq] at hu
    exact hu.2.2.2.2.2.2.2.trans ih

theorem handlers (h : Course P C s t) : t.handlers = s.handlers :=
  congrArg (·.1) h.fixtures

theorem now (h : Course P C s t) : t.now = s.now :=
  congrArg (·.2.1) h.fixtures

theorem generation (h : Course P C s t) : t.generation = s.generation :=
  congrArg (·.2.2) h.fixtures

theorem trace (h : Course P C s t) (hP : Tolerant P) :
    ∃ added, t.trace = added ++ s.trace ∧ ∀ e ∈ added, P e.happening := by
  induction h with
  | refl => exact ⟨[], by simp⟩
  | note _ hp ih =>
    obtain ⟨xs, ht, hxs⟩ := ih
    refine ⟨⟨_, _⟩ :: xs, by simp only [Session.note, ht]; rfl, fun e he => ?_⟩
    rcases List.mem_cons.1 he with rfl | he
    · exact hp
    · exact hxs e he
  | @call t c _ _ ih =>
    obtain ⟨xs, ht, hxs⟩ := ih
    obtain ⟨ys, hy, hys⟩ := (Called.call t c).trace
    refine ⟨ys ++ xs, by simp [hy, ht], fun e he => ?_⟩
    rcases List.mem_append.1 he with he | he
    · rcases hys e he with ⟨r, hr⟩ | ⟨r, hr⟩
      · exact hr ▸ hP.logged r
      · exact hr ▸ hP.recorded r
    · exact hxs e he
  | answer _ _ ih => exact ih
  | steer _ hu _ ih =>
    simp only [commons, Prod.mk.injEq] at hu
    obtain ⟨xs, ht, hxs⟩ := ih
    exact ⟨xs, hu.2.2.2.2.1.trans ht, hxs⟩

theorem setLink (h : Course P C s t) (link : Link) : Course P C s { t with link } :=
  .steer h rfl rfl

theorem setConnection (h : Course P C s t) (connection : Option Nat) : Course P C s { t with connection } :=
  .steer h rfl rfl

theorem setDue (h : Course P C s t) (due : Nat) : Course P C s { t with due } :=
  .steer h rfl rfl

theorem setNet (h : Course P C s t) (net : Net) : Course P C s { t with net } :=
  .steer h rfl rfl

section

variable (h : Course P C s t) (o : Terms P C s)

include h o

theorem log (level : LogLevel) (message : String) (fields : List (String × String)) :
    Course P C s (t.log level message fields) :=
  h.note (o.tolerant.logged _)

theorem record (r : Recording) : Course P C s (t.record r) :=
  h.note (o.tolerant.recorded r)

theorem busy : t.activity.underWay = true :=
  h.underWay.trans o.underWay

theorem setActivity {activity : Activity} (ha : activity.underWay = true) :
    Course P C s { t with activity } :=
  .steer h rfl (ha.trans (h.busy o).symm)

theorem publish : Course P C s t.publish :=
  .note (.steer h rfl rfl) (o.tolerant.recorded _)

theorem react {handler : Handler} {slot : Slot} (hr : t.handlers.get? slot = some handler) (past : List TraceEntry)
    (e : Event) : Course P C s (t.react (handler past e)) := by
  have calls (cs : List Call) (hcs : ∀ c ∈ cs, C c) {t : Session} (h : Course P C s t) :
      Course P C s (t.calls cs) := by
    induction cs generalizing t with
    | nil => exact h
    | cons c cs ih =>
      exact ih (fun c' hc' => hcs c' (List.mem_cons_of_mem _ hc')) (h.call (hcs c List.mem_cons_self))
  unfold Session.react
  split
  · exact calls _ (fun c hc => o.obliging slot handler (h.handlers ▸ hr) c ⟨past, e, hc⟩) h
  · exact h

omit h in
theorem emit_of_note {e : Event} (hn : Course P C s (t.note (.emitted e))) : Course P C s (t.emit e) := by
  unfold Session.emit
  dsimp only
  split
  · exact hn
  · rename_i handler hr
    have hh := (hn.note (o.tolerant.handled e (t.note (.emitted e)).visiblePhase)).react o hr
      (t.note (.emitted e)).trace e
    split
    · exact hh.note (o.tolerant.logged _)
    · exact hh

theorem emit {e : Event} (he : P (.emitted e)) : Course P C s (t.emit e) :=
  emit_of_note o (h.note he)

theorem report (source : ErrorSource) (message : String) : Course P C s (t.report source message) :=
  (h.record o _).emit o (o.tolerant.error message)

theorem release (wire : Nat) : Course P C s (t.release wire) :=
  (h.setNet _).note (o.tolerant.released wire)

theorem dropConnection : Course P C s t.dropConnection := by
  unfold Session.dropConnection
  split
  · exact h
  · exact ((h.setConnection none).setNet _).note (o.tolerant.released _)

theorem abort : Course P C s t.abort := by
  unfold Session.abort
  split
  · exact h
  · exact (h.dropConnection o).log o ..

theorem transmit {wire : Nat} {c : Control} (hs : P (.sent wire c)) :
    Course P C s (t.transmit wire c) := by
  unfold Session.transmit
  dsimp only
  split
  · exact (((h.setNet _).note hs).record o _).log o ..
  · exact (((h.setNet _).note (o.tolerant.sendFailed wire c)).log o ..).report o ..

theorem send {c : Control} (hs : ∀ wire, P (.sent wire c)) : Course P C s (t.send c) := by
  unfold Session.send
  split
  · split
    · exact h
    · exact h.transmit o (hs _)
  · exact h.log o ..

theorem restore (sequel : Sequel) : Course P C s (t.restore sequel) := by
  have hr : Course P C s { t with activity := .restoring t.watchlist.restorePlan.controls sequel } :=
    h.setActivity o rfl
  unfold Session.restore
  dsimp only
  split
  · exact hr
  · exact hr.log o ..

theorem concludeAttempt {cause : Cause} {result : Except ConnectFault Unit}
    (ha : ∀ id, cause = .caller id → P (.returned id result)) :
    Course P C s (t.concludeAttempt cause result) := by
  have hi := h.setActivity o (rfl : Activity.idle.underWay = true)
  cases cause with
  | caller id => exact hi.answer (ha id rfl)
  | retry since =>
    cases result with
    | ok => exact hi
    | error fault => exact hi.setLink _

theorem beforeFailure (fault : ConnectFault) : Course P C s (t.beforeFailure fault) := by
  have hp := (h.setLink t.link.connectFailed).publish o
  cases fault with
  | cancelled => exact hp.log o ..
  | transport fault => exact (hp.log o ..).report o ..
  | timeout limit => exact (hp.log o ..).report o ..
  | notRunning => exact (hp.log o ..).report o ..

theorem attemptFailed {cause : Cause} {fault : ConnectFault}
    (ha : ∀ id, cause = .caller id → P (.returned id (.error fault))) :
    Course P C s (t.attemptFailed cause fault) := by
  rw [attemptFailed_eq]
  exact (h.beforeFailure o fault).concludeAttempt o ha

theorem attemptSucceeded (cause : Cause) (manner : Manner) :
    Course P C s (t.attemptSucceeded cause manner) := by
  have hs : Course P C s
      { t with
        net := (t.net.accept manner).2, connection := some (t.net.accept manner).1
        link := t.link.connectSucceeded } := .steer h rfl rfl
  exact ((hs.publish o).log o .info "Connected to Kite ticker" []).restore o (.announce cause)

theorem dial {cause : Cause} {limit : Span}
    (ha : ∀ id, cause = .caller id → ∀ result, P (.returned id result))
    (hd : t.isCancelled t.generation = false → ∀ r, P (.dialled r)) :
    Course P C s (t.dial cause limit) := by
  unfold Session.dial
  dsimp only
  have hl := h.log o .info "Connecting to Kite ticker"
    [("request", (ConnectRequest.make t.setup.root t.credentials).describe)]
  split
  · exact hl.attemptFailed o fun id hid => ha id hid _
  · rename_i hc
    have hopen : t.isCancelled t.generation = false := Bool.eq_false_iff.2 hc
    split
    · exact hl.attemptFailed o fun id hid => ha id hid _
    · exact ((hl.setNet t.net.nextOutcome.2).note (hd hopen _)).setActivity o rfl

theorem attempt {cause : Cause} {limit : Span}
    (ha : ∀ id, cause = .caller id → ∀ result, P (.returned id result))
    (hd : t.isCancelled t.generation = false → ∀ r, P (.dialled r)) :
    Course P C s (t.attempt cause limit) := by
  unfold Session.attempt
  split
  · exact (h.log o ..).concludeAttempt o fun id hid => ha id hid _
  · exact ((h.setLink _).publish o).dial o ha hd

theorem announceClosed (previous : Link.Phase) : Course P C s (t.announceClosed previous) := by
  unfold Session.announceClosed
  split
  · exact h
  · exact (h.log o ..).emit o o.tolerant.closed

theorem hungUp (wire : Nat) (previous : Link.Phase) : Course P C s (t.hungUp wire previous) :=
  ((h.setActivity o (rfl : Activity.idle.underWay = true)).release o wire).announceClosed o _

theorem shut : Course P C s t.shut := by
  have hp := (h.setLink t.link.close).publish o
  unfold Session.shut
  dsimp only
  split
  · exact hp.announceClosed o _
  · rename_i wire _
    have hc := (hp.setConnection none).note (o.tolerant.closeFrame wire)
    split
    · exact hc.setActivity o rfl
    · exact (hc.log o ..).hungUp o ..
    · exact hc.hungUp o ..

theorem connectionLost (fault? : Option TransportFault) : Course P C s (t.connectionLost fault?) := by
  have hd := h.dropConnection o
  unfold Session.connectionLost
  dsimp only
  split
  · exact hd
  · have hp := (hd.setLink t.dropConnection.link.connectionLost).publish o
    split
    · exact ((hp.log o ..).report o ..).emit o o.tolerant.closed
    · exact (hp.log o ..).emit o o.tolerant.closed

theorem handleCommand {c : Command}
    (ha : ∀ id, c = .connect id → ∀ result, P (.returned id result))
    (hd : ∀ id, c = .connect id → t.isCancelled t.generation = false → ∀ r, P (.dialled r))
    (hs : ∀ control, c = .send control → ∀ wire, P (.sent wire control)) :
    Course P C s (t.handleCommand c) := by
  cases c with
  | connect id => exact h.attempt o (fun k hk => Cause.caller.inj hk ▸ ha id rfl) (hd id rfl)
  | send control => exact h.send o (hs control rfl)
  | resubscribe => exact h.restore o _
  | enableRetry interval maxRetries => exact (h.setLink _).log o ..
  | disableRetry => exact (h.setLink _).log o ..
  | close => exact h.shut o

theorem onTick
    (hr : t.closing = false → ∀ n backoff, t.link.tick.1 = .redial n backoff →
      P (.emitted (.reconnecting n)) ∧ ∀ r, P (.dialled r))
    (hx : t.closing = false → t.link.tick.1 = .giveUp → P (.emitted .exhausted)) :
    Course P C s t.onTick := by
  unfold Session.onTick
  split
  · exact h
  · rename_i hopen
    rw [Bool.not_eq_true] at hopen
    have hl := h.setLink t.link.tick.2
    generalize t.link.tick = ticked at hl hr hx ⊢
    obtain ⟨demand, link⟩ := ticked
    cases demand with
    | nothing => exact hl
    | redial attempt backoff =>
      obtain ⟨hemit, hdial⟩ := hr hopen attempt backoff rfl
      have he := ((((hl.log o .warn "Ticker watchdog expired, reconnecting"
        [("attempt", countText attempt), ("backoff_secs", countText backoff.seconds)]).record o
          .reconnect).abort o).publish o).emit o hemit
      dsimp only
      split
      · exact he
      · exact he.attempt o (fun _ hid => by cases hid) fun _ => hdial
    | giveUp =>
      exact ((((hl.log o ..).record o _).abort o).publish o).emit o (hx hopen rfl)
    | timeOut =>
      exact ((((hl.log o ..).abort o).publish o).report o ..).emit o o.tolerant.closed

theorem onBinary (data : List UInt8) : Course P C s (t.onBinary data) := by
  have outcomes (xs : List Feed.Outcome) {t : Session} (h : Course P C s t) :
      Course P C s (xs.foldl logOutcome t) := by
    induction xs generalizing t with
    | nil => exact h
    | cons x xs ih =>
      apply ih
      cases x with
      | tick => exact h
      | missing => exact h
      | zeroToken => exact h.note (o.tolerant.logged _)
      | rejected => exact h.note (o.tolerant.logged _)
      | cut => exact h.note (o.tolerant.logged _)
  have ticks (xs : List Tick) {t : Session} (h : Course P C s t) :
      Course P C s (xs.foldl deliverTick t) := by
    induction xs generalizing t with
    | nil => exact h
    | cons x xs ih => exact ih ((h.record o _).emit o (o.tolerant.tick x))
  unfold Session.onBinary
  split
  · exact h.record o _
  · dsimp only
    split
    · exact h.record o _
    · split
      · rename_i decoded _
        apply ticks
        split
        · exact (outcomes _ (h.record o _)).record o _
        · exact outcomes _ (h.record o _)
      · exact ((h.record o _).record o _).log o ..

theorem onText (text : String) : Course P C s (t.onText text) := by
  have hf := h.record o (.frame .text)
  unfold Session.onText
  dsimp only
  split
  · exact ((hf.record o _).log o ..).emit o (o.tolerant.order _)
  · exact (hf.log o ..).report o ..
  · exact hf.log o ..
  · exact (hf.log o ..).report o ..
  · exact hf.log o ..

theorem receive (d : Delivery) : Course P C s (t.receive d) := by
  cases d with
  | binary data => exact (h.setLink t.link.dataReceived).onBinary o data
  | text text => exact (h.setLink t.link.dataReceived).onText o text
  | close => exact h.connectionLost o none
  | ended => exact h.connectionLost o none
  | fault fault => exact h.connectionLost o (some fault)

theorem conclude {sequel : Sequel} (ha : ∀ id, sequel = .announce (.caller id) → P (.returned id (.ok ()))) :
    Course P C s (t.conclude sequel) := by
  cases sequel with
  | resume => exact h.setActivity o rfl
  | announce cause => exact (h.emit o o.tolerant.connected).concludeAttempt o fun id hid => ha id (hid ▸ rfl)

end

end Course

/-- Nothing new is started where closing has been asked for. -/
structure Licence (P : Happening → Prop) (s : Session) : Prop where
  dial : s.closing = false ∨ s.cancelled = false → ∀ r, P (.dialled r)
  redial : s.closing = false → ∀ n, P (.emitted (.reconnecting n))
  giveUp : s.closing = false → P (.emitted .exhausted)

def Sending : Task → Session → Control → Prop
  | .command, s, c => s.queue.head? = some (.send c)
  | .restore, s, c => ∃ rest sequel, s.activity = .restoring (c :: rest) sequel
  | _, _, _ => False

def served? : Task → Session → Option Nat
  | .command, s => s.queue.head?.bind Command.caller?
  | _, s => s.activity.caller?

def taken : Task → Session → Session
  | .command, s => { s with queue := s.queue.tail }
  | _, s => s

/-- What a piece of the driver's work may note besides, where it is that work which notes it. -/
structure Grants (P : Happening → Prop) (task : Task) (s : Session) : Prop where
  connect : task = .command → (∃ id, s.queue.head? = some (.connect id)) → s.cancelled = false →
    ∀ r, P (.dialled r)
  redial : task = .tick → s.closing = false → ∀ n backoff, s.link.tick.1 = .redial n backoff →
    P (.emitted (.reconnecting n)) ∧ ∀ r, P (.dialled r)
  giveUp : task = .tick → s.closing = false → s.link.tick.1 = .giveUp → P (.emitted .exhausted)
  send : ∀ c, Sending task s c → ∀ wire, P (.sent wire c)
  answer : ∀ id, served? task s = some id → ∀ result, P (.returned id result)

theorem Licence.grants {P : Happening → Prop} {task : Task} {s : Session} (hl : Licence P s)
    (hs : ∀ c, Sending task s c → ∀ wire, P (.sent wire c)) (hr : ∀ id result, P (.returned id result)) :
    Grants P task s where
  connect _ _ hc := hl.dial (.inr hc)
  redial _ hopen n _ _ := ⟨hl.redial hopen n, hl.dial (.inl hopen)⟩
  giveUp _ hopen _ := hl.giveUp hopen
  send := hs
  answer id _ := hr id

theorem Works.course_of_grants {P : Happening → Prop} {C : Call → Prop} {task : Task} {s t : Session}
    (hw : Works task s t) (ht : task ≠ .stop) (o : Terms P C s) (hg : Grants P task s) :
    Course P C (taken task s) t := by
  have hrefl := Course.refl (P := P) (C := C) s
  cases hw with
  | @command _ c rest hi _ hq =>
    have ho : Terms P C { s with queue := rest } := ⟨o.tolerant, o.obliging, o.underWay⟩
    rw [taken, hq]
    refine Course.handleCommand (.refl _) ho (fun id hid => ?_) (fun id hid hc => ?_) (fun control hc => ?_)
    · exact hg.answer id (by rw [served?, hq, hid]; rfl)
    · exact hg.connect rfl ⟨id, by rw [hq, hid]; rfl⟩ (by simpa [isCancelled] using hc)
    · exact hg.send control (by rw [Sending, hq, hc]; rfl)
  | tick =>
    exact (hrefl.setDue s.nextDue).onTick o (hg.redial rfl) (hg.giveUp rfl)
  | delivery _ _ hd =>
    obtain ⟨wire, rest, _, _, rfl⟩ := takeDelivery?_eq_some hd
    exact (hrefl.setNet _).receive o _
  | @handshake _ _ d hd h =>
    rcases settleDial_eq_some h with ⟨fault, rfl⟩ | ⟨_, manner, rfl⟩
    · exact hrefl.attemptFailed o fun id hid =>
        hg.answer id (by simp [served?, hd, Activity.caller?, hid, Cause.caller?]) _
    · exact hrefl.attemptSucceeded o _ _
  | @restore _ c rest sequel hr =>
    have hb : Course P C s { s with activity := .restoring rest sequel } := hrefl.setActivity o rfl
    exact hb.send o (hg.send c ⟨rest, sequel, hr⟩)
  | conclude hr =>
    exact hrefl.conclude o fun id hid => hg.answer id (by simp [served?, hr, hid, Activity.caller?, Cause.caller?]) _
  | hungUp => exact hrefl.hungUp o _ _
  | hangUpLate => exact (hrefl.log o ..).hungUp o _ _
  | collapse => exact absurd rfl ht
  | stop => exact absurd rfl ht

theorem Works.course {P : Happening → Prop} {C : Call → Prop} {task : Task} {s t : Session}
    (hw : Works task s t) (ht : task ≠ .stop) (o : Terms P C s) (hl : Licence P s)
    (hs : ∀ c, Sending task s c → ∀ wire, P (.sent wire c)) (hr : ∀ id result, P (.returned id result)) :
    Course P C (taken task s) t :=
  hw.course_of_grants ht o (hl.grants hs hr)

theorem tolerant_true : Tolerant fun _ => True where
  logged _ := trivial
  recorded _ := trivial
  handled _ _ := trivial
  released _ := trivial
  closeFrame _ := trivial
  sendFailed _ _ := trivial
  error _ := trivial
  tick _ := trivial
  order _ := trivial
  connected := trivial
  closed := trivial

theorem licence_true (s : Session) : Licence (fun _ => True) s where
  dial _ _ := trivial
  redial _ _ := trivial
  giveUp _ := trivial

theorem Works.underWay {task : Task} {s t : Session} (hw : Works task s t) : s.activity.underWay = true := by
  cases hw with
  | command h => rw [h]; rfl
  | tick h => rw [h]; rfl
  | delivery h => rw [h]; rfl
  | handshake h => rw [h]; rfl
  | restore h => rw [h]; rfl
  | conclude h => rw [h]; rfl
  | hungUp h => rw [h]; rfl
  | hangUpLate h => rw [h]; rfl
  | collapse h => rw [h]; rfl
  | stop h => rw [h]; rfl

theorem Works.running {task : Task} {s t : Session} (hw : Works task s t) : s.activity ≠ .stopped := by
  intro hx
  have hu := hw.underWay
  rw [hx] at hu
  cases hu

theorem Works.course_any {task : Task} {s t : Session} (hw : Works task s t) (ht : task ≠ .stop) :
    Course (fun _ => True) (fun _ => True) (taken task s) t :=
  hw.course ht ⟨tolerant_true, fun _ _ _ _ _ => trivial, hw.underWay⟩ (licence_true s) (fun _ _ _ => trivial)
    fun _ _ => trivial

theorem trace_stop (s : Session) :
    ∃ added, s.stop.trace = added ++ s.trace ∧
      ∀ e ∈ added, (∃ wire, e.happening = .released wire) ∨ ∃ r, e.happening = .logged r := by
  unfold stop abort dropConnection
  cases hc : s.connection with
  | none => exact ⟨[_], rfl, by simp⟩
  | some wire => exact ⟨[_, _, _], rfl, by simp⟩

theorem Step.trace_of_grants {P : Happening → Prop} {m : Move} {s t : Session} (hs : Step m s t)
    (hP : Tolerant P) (hg : ∀ task, m = .driver task → Grants P task s)
    (hr : ∀ id result, P (.returned id result)) :
    ∃ added, t.trace = added ++ s.trace ∧ ∀ e ∈ added, P e.happening := by
  cases hs with
  | @driver task _ _ hw =>
    by_cases ht : task = .stop
    · subst ht
      cases hw with
      | collapse => exact ⟨[], rfl, by simp⟩
      | stop =>
        obtain ⟨added, h, ha⟩ := trace_stop s
        refine ⟨added, h, fun e he => ?_⟩
        rcases ha e he with ⟨wire, hr⟩ | ⟨r, hr⟩
        · exact hr ▸ hP.released wire
        · exact hr ▸ hP.logged r
    · have o : Terms P (fun _ => True) s := ⟨hP, fun _ _ _ _ _ => trivial, hw.underWay⟩
      obtain ⟨added, h, ha⟩ := (hw.course_of_grants ht o (hg task rfl)).trace hP
      refine ⟨added, h.trans ?_, ha⟩
      cases task <;> rfl
  | call c =>
    obtain ⟨added, h, ha⟩ := (Called.call s c).trace
    refine ⟨added, h, fun e he => ?_⟩
    rcases ha e he with ⟨r, hr⟩ | ⟨r, hr⟩
    · exact hr ▸ hP.logged r
    · exact hr ▸ hP.recorded r
  | @connect _ id =>
    obtain ⟨_, _, _, _, h, _⟩ := beginConnect_eq s id
    exact ⟨[], (congrArg Session.trace h :), by simp⟩
  | returned => exact ⟨[_], rfl, by simp [hr]⟩
  | wait => exact ⟨[], rfl, by simp⟩
  | push wire d =>
    obtain ⟨_, h, _⟩ := push_eq s wire d
    exact ⟨[], (congrArg Session.trace h :), by simp⟩
  | listen => exact ⟨[], rfl, by simp⟩
  | drop => exact ⟨[], rfl, by simp⟩

theorem Step.trace {P : Happening → Prop} {m : Move} {s t : Session} (hs : Step m s t) (hP : Tolerant P)
    (hl : Licence P s) (hsent : ∀ wire c, P (.sent wire c)) (hr : ∀ id result, P (.returned id result)) :
    ∃ added, t.trace = added ++ s.trace ∧ ∀ e ∈ added, P e.happening :=
  hs.trace_of_grants hP (fun _ _ => hl.grants (fun c _ wire => hsent wire c) hr) hr

theorem Step.grows {m : Move} {s t : Session} (hs : Step m s t) : ∃ added, t.trace = added ++ s.trace := by
  obtain ⟨added, h, _⟩ := hs.trace tolerant_true (licence_true s) (fun _ _ => trivial) fun _ _ => trivial
  exact ⟨added, h⟩

end Session

end MarketTicker
