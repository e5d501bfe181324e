import MarketTicker.Proofs.Session.Coherence
import MarketTicker.Proofs.Session.Course

namespace MarketTicker

/-- A handshake that begins, and the events that tell of a new attempt or of the last one. -/
def Happening.isFreshStart : Happening → Bool
  | .dialled _ => true
  | .emitted (.reconnecting _) => true
  | .emitted .exhausted => true
  | _ => false

def Move.left (m : Move) (q : List Command) : List Command :=
  if m = .driver .command then q.tail else q

namespace Session

/-- No handshake begins, and none ends in a connection. -/
structure Docile (s t : Session) : Prop where
  attempts : t.net.attempts = s.net.attempts
  wires : t.net.wires.length = s.net.wires.length
  dialing : ∀ d, t.activity = .dialing d → s.activity = .dialing d

namespace Docile

variable {s t u : Session}

theorem refl (s : Session) : Docile s s :=
  ⟨rfl, rfl, fun _ h => h⟩

theorem trans (h : Docile s t) (h' : Docile t u) : Docile s u :=
  ⟨h'.attempts.trans h.attempts, h'.wires.trans h.wires, fun d hd => h.dialing d (h'.dialing d hd)⟩

theorem of_helm (h : t.helm = s.helm) : Docile s t :=
  ⟨(congrArg (fun s => s.net.attempts) h :), (congrArg (fun s => s.net.wires.length) h :),
    fun _ hd => (activity_of_helm h).symm.trans hd⟩

theorem of_activity (hd : t.activity.isDialing = false) (ha : t.net.attempts = s.net.attempts)
    (hw : t.net.wires.length = s.net.wires.length) : Docile s t :=
  ⟨ha, hw, fun d h => by rw [h] at hd; cases hd⟩

theorem of_helm_eq (h : t.helm = u) (hd : u.activity.isDialing = false) (ha : u.net.attempts = s.net.attempts)
    (hw : u.net.wires.length = s.net.wires.length) : Docile s t := by
  subst h
  exact .of_activity hd ha hw

end Docile

theorem docile_attemptFailed (s : Session) (cause : Cause) (fault : ConnectFault) :
    Docile s (s.attemptFailed cause fault) := by
  have h := helm_attemptFailed s cause fault
  exact .of_helm_eq h rfl rfl rfl

theorem docile_attempt {s : Session} {cause : Cause} {limit : Span}
    (hflags : s.closing = true → s.cancelled = true) (ht : (s.attempt cause limit).closing = true) :
    Docile s (s.attempt cause limit) := by
  cases hb : s.link.beginConnect? with
  | none =>
    have h : (s.attempt cause limit).helm = { s.helm with activity := .idle } := helm_attempt_of_none hb
    exact .of_helm_eq h rfl rfl rfl
  | some l =>
    rw [attempt_of_some hb] at ht ⊢
    rcases helm_dial ({ s with link := l }.publish) cause limit with ⟨fault, h⟩ | ⟨hc, hcl, _⟩
    · have hf := docile_attemptFailed ({ s with link := l }.publish) cause fault
      have hs := hf.trans (.of_helm h)
      exact ⟨hs.attempts, hs.wires, hs.dialing⟩
    · have hcl : s.closing = true := hcl.symm.trans ht
      have hc : s.cancelled = false := by simpa [isCancelled, publish, record, note] using hc
      rw [hflags hcl] at hc
      cases hc

theorem docile_connectionLost {s : Session} (hi : s.activity = .idle) (fault? : Option TransportFault) :
    Docile s (s.connectionLost fault?) := by
  have h := helm_connectionLost s fault?
  rw [helm_dropConnection] at h
  have ha := Net.attempts_letGo s.helm.net s.helm.connection
  have hw := Net.length_letGo s.helm.net s.helm.connection
  have hd : s.activity.isDialing = false := by rw [hi]; rfl
  split at h
  · exact .of_helm_eq h hd ha hw
  · exact .of_helm_eq h hd ha hw

theorem docile_shut {s : Session} (hi : s.activity = .idle) : Docile s s.shut := by
  have hd : s.activity.isDialing = false := by rw [hi]; rfl
  cases hc : s.connection with
  | none =>
    have h := helm_shut_of_none hc
    exact .of_helm_eq h hd rfl rfl
  | some wire =>
    rcases helm_shut_of_some hc with h | h
    · exact .of_helm_eq h rfl rfl rfl
    · exact .of_helm_eq h rfl (Net.attempts_letGo _ _) (Net.length_letGo _ _)

theorem docile_send (s : Session) (c : Control) : Docile s (s.send c) := by
  rcases helm_send s c with h | ⟨wire, _, h⟩
  · exact .of_helm h
  · exact ⟨(congrArg (fun s => s.net.attempts) h :).trans (Net.attempts_charge _ _),
      (congrArg (fun s => s.net.wires.length) h :).trans (Net.length_charge _ _),
      fun d hd => (congrArg Session.activity h :).symm.trans hd⟩

theorem docile_hungUp (s : Session) (wire : Nat) (previous : Link.Phase) : Docile s (s.hungUp wire previous) := by
  have h := helm_hungUp s wire previous
  exact .of_helm_eq h rfl (Net.attempts_letGo _ _) (Net.length_letGo _ _)

theorem docile_handleCommand {s : Session} (hi : s.activity = .idle) {c : Command}
    (hflags : s.closing = true → s.cancelled = true) (ht : (s.handleCommand c).closing = true) :
    Docile s (s.handleCommand c) := by
  cases c with
  | connect id => exact docile_attempt hflags ht
  | send control => exact docile_send s control
  | resubscribe =>
    have h := helm_restore s .resume
    exact .of_helm_eq h rfl rfl rfl
  | enableRetry => exact ⟨rfl, rfl, fun _ hd => hd⟩
  | disableRetry => exact ⟨rfl, rfl, fun _ hd => hd⟩
  | close => exact docile_shut hi

theorem docile_onTick {s : Session} (hi : s.activity = .idle) (ht : s.onTick.closing = true) :
    Docile s s.onTick := by
  have hd : s.activity.isDialing = false := by rw [hi]; rfl
  have hx : Docile s s.afterExpiry :=
    .of_activity hd (Net.attempts_letGo _ _) (Net.length_letGo _ _)
  rcases helm_onTick s with h | ⟨_, h⟩ | ⟨_, h | ⟨t, since, limit, hh, hopen, h⟩⟩
  · exact .of_helm h
  · exact .of_helm_eq h hd rfl rfl
  · exact hx.trans (.of_helm h)
  · have hs : Docile t (t.attempt (.retry since) limit) :=
      docile_attempt (fun hc => by rw [hopen] at hc; cases hc) (h ▸ ht)
    rw [h]
    exact (hx.trans (.of_helm (s := s.afterExpiry) hh)).trans hs

theorem docile_receive {s : Session} (hi : s.activity = .idle) (d : Delivery) : Docile s (s.receive d) := by
  rcases helm_receive s d with h | ⟨fault?, h⟩
  · exact ⟨(congrArg (fun s => s.net.attempts) h :), (congrArg (fun s => s.net.wires.length) h :),
      fun d hd => (congrArg Session.activity h :).symm.trans hd⟩
  · rw [h]
    exact docile_connectionLost hi fault?

theorem closing_attemptSucceeded (s : Session) (cause : Cause) (manner : Manner) :
    (s.attemptSucceeded cause manner).closing = s.closing := by
  unfold attemptSucceeded restore
  dsimp only
  split
  · rfl
  · rfl

theorem Works.docile {task : Task} {s t : Session} (hw : Works task s t)
    (hflags : s.closing = true → s.cancelled = true) (ht : t.closing = true) : Docile s t := by
  cases hw with
  | @command _ c rest hi _ hq =>
    have hs : Docile s { s with queue := rest } := .of_helm rfl
    refine hs.trans (docile_handleCommand ?_ ?_ ht)
    · exact hi
    · exact hflags
  | tick hi _ =>
    have key (due : Nat) : Docile s { s with due } := ⟨rfl, rfl, fun _ hd => hd⟩
    refine (key s.nextDue).trans (docile_onTick ?_ ht)
    exact hi
  | delivery hi _ hd =>
    obtain ⟨wire, rest, _, _, rfl⟩ := takeDelivery?_eq_some hd
    have hs : Docile s { s with net := s.net.update wire fun w => { w with inbox := rest } } :=
      ⟨rfl, Net.length_update _ _ _, fun _ hd => hd⟩
    refine hs.trans (docile_receive ?_ _)
    exact hi
  | @handshake _ _ d hd h =>
    rcases settleDial_eq_some h with ⟨fault, rfl⟩ | ⟨hc, manner, rfl⟩
    · exact docile_attemptFailed s d.cause fault
    · rw [closing_attemptSucceeded] at ht
      simp [isCancelled, hflags ht] at hc
  | @restore _ c rest sequel hr =>
    have hs : Docile s { s with activity := .restoring rest sequel } := .of_activity rfl rfl rfl
    exact hs.trans (docile_send _ c)
  | @conclude _ sequel _ =>
    have h := helm_conclude s sequel
    exact .of_helm_eq h rfl rfl rfl
  | hungUp => exact docile_hungUp s _ _
  | hangUpLate =>
    have hs : Docile s (s.log .debug "Ticker close handshake timed out" []) := .of_helm rfl
    exact hs.trans (docile_hungUp _ _ _)
  | collapse => exact .of_activity rfl rfl rfl
  | stop =>
    have h := helm_stop s
    exact .of_helm_eq h rfl (Net.attempts_letGo _ _) (Net.length_letGo _ _)

theorem Step.docile {m : Move} {s t : Session} (hs : Step m s t) (hm : ∀ id, m ≠ .connect id)
    (hflags : s.closing = true → s.cancelled = true) (ht : t.closing = true) : Docile s t := by
  cases hs with
  | driver hw => exact hw.docile hflags ht
  | call c => exact .of_helm (Called.call s c).helm
  | @connect _ id => exact absurd rfl (hm id)
  | returned => exact .of_helm rfl
  | wait => exact ⟨rfl, rfl, fun _ hd => hd⟩
  | push wire d =>
    obtain ⟨net, hp, hw, ha⟩ := push_eq s wire d
    rw [hp]
    exact ⟨ha, hw, fun _ hd => hd⟩
  | listen => exact ⟨rfl, rfl, fun _ hd => hd⟩
  | drop => exact ⟨rfl, rfl, fun _ hd => hd⟩

theorem Step.adds {m : Move} {s t : Session} (hs : Step m s t) (hm : ∀ id, m ≠ .connect id) :
    t.activity = .stopped ∧ t.closing = s.closing ∧ t.cancelled = s.cancelled ∨
      Adds { s with queue := m.left s.queue } t := by
  cases hs with
  | @driver task _ _ hw =>
    by_cases ht : task = .stop
    · subst ht
      cases hw with
      | collapse => exact .inl ⟨rfl, rfl, rfl⟩
      | stop =>
        refine .inl ⟨(congrArg Session.activity (helm_stop s) :), ?_⟩
        unfold Session.stop abort dropConnection
        cases s.connection with
        | none => exact ⟨rfl, rfl⟩
        | some wire => exact ⟨rfl, rfl⟩
    · have h := (hw.course_any ht).adds
      cases task <;> exact .inr h
  | call c => exact .inr (Called.call s c).adds
  | @connect _ id => exact absurd rfl (hm id)
  | returned => exact .inr (.of_eq rfl rfl rfl)
  | wait => exact .inr (.of_eq rfl rfl rfl)
  | push wire d =>
    obtain ⟨net, hp, _⟩ := push_eq s wire d
    rw [hp]
    exact .inr (.of_eq rfl rfl rfl)
  | listen => exact .inr (.of_eq rfl rfl rfl)
  | drop => exact .inr (.of_eq rfl rfl rfl)

theorem Step.flags {m : Move} {s t : Session} (hs : Step m s t) (hm : ∀ id, m ≠ .connect id) :
    t.closing = s.closing ∧ t.cancelled = s.cancelled ∨ t.closing = true ∧ t.cancelled = true := by
  rcases hs.adds hm with ⟨_, h⟩ | ⟨_, _, _, h | ⟨hcl, hca, _⟩⟩
  · exact .inl h
  · exact .inl h
  · exact .inr ⟨hcl, hca⟩

theorem Step.queue {m : Move} {s t : Session} (hs : Step m s t) (hm : ∀ id, m ≠ .connect id) :
    t.activity = .stopped ∨ ∃ cs, t.queue = m.left s.queue ++ cs ∧ ∀ id, .connect id ∉ cs := by
  rcases hs.adds hm with ⟨h, _⟩ | ⟨cs, hq, hcs, _⟩
  · exact .inl h
  · exact .inr ⟨cs, hq, hcs⟩

theorem Reachable.flags {s : Session} (h : s.Reachable) : s.closing = true → s.cancelled = true := by
  refine h.invariant (P := fun s => s.closing = true → s.cancelled = true) (fun _ _ _ _ _ h => by cases h)
    fun {m s t} hs hf ht => ?_
  by_cases hm : ∃ id, m = .connect id
  · obtain ⟨id, rfl⟩ := hm
    cases hs
    obtain ⟨_, _, _, _, hb, _⟩ := beginConnect_eq s id
    rw [hb] at ht
    cases ht
  · rcases hs.flags (fun id h => hm ⟨id, h⟩) with ⟨hcl, hca⟩ | ⟨_, hca⟩
    · exact hca.trans (hf (hcl ▸ ht))
    · exact hca

theorem tolerant_unfresh : Tolerant fun h => h.isFreshStart = false := by
  constructor <;> simp [Happening.isFreshStart]

theorem licence_unfresh {s : Session} (hcl : s.closing = true) (hca : s.cancelled = true) :
    Licence (fun h => h.isFreshStart = false) s :=
  ⟨fun h => by simp [hcl, hca] at h, fun h => by simp [hcl] at h, fun h => by simp [hcl] at h⟩

structure Shut (s : Session) : Prop where
  phase : s.link.phase = .closing
  published : s.published = .closing
  connection : s.connection = none
  countdown : s.link.countdown.running = false

theorem shut_helm {s : Session} : s.helm.Shut ↔ s.Shut :=
  ⟨fun h => ⟨h.phase, h.published, h.connection, h.countdown⟩,
    fun h => ⟨h.phase, h.published, h.connection, h.countdown⟩⟩

theorem shut_shut (s : Session) : s.shut.Shut := by
  cases hc : s.connection with
  | none =>
    rw [← shut_helm, helm_shut_of_none hc]
    exact ⟨rfl, rfl, hc, rfl⟩
  | some wire =>
    rcases helm_shut_of_some hc with h | h
    · rw [← shut_helm, h]
      exact ⟨rfl, rfl, rfl, rfl⟩
    · rw [← shut_helm, h]
      exact ⟨rfl, rfl, rfl, rfl⟩

namespace Shut

variable {s t : Session}

theorem of_helm (h : Shut s) (ht : t.helm = s.helm) : Shut t := by
  rw [← shut_helm, ht, shut_helm]
  exact h

theorem connected (h : Shut s) : s.link.connected = false := by
  simp [Link.connected, h.phase]

theorem send (h : Shut s) (c : Control) : (s.send c).Shut := by
  have hs : s.send c = s.log .trace "Not connected, control message deferred" [("action", c.action.name)] := by
    simp [Session.send, h.connected]
  rw [hs]
  exact h.of_helm rfl

theorem turn (h : Shut s) (activity : Activity) (net : Net) : Shut { s with activity, net } :=
  ⟨h.phase, h.published, h.connection, h.countdown⟩

theorem handleCommand (h : Shut s) {c : Command} (hc : ∀ id, c ≠ .connect id) : (s.handleCommand c).Shut := by
  cases c with
  | connect id => exact absurd rfl (hc id)
  | send control => exact h.send control
  | resubscribe =>
    rw [← shut_helm, Session.handleCommand, helm_restore]
    exact (shut_helm.2 h).turn _ _
  | enableRetry interval maxRetries =>
    have hcd := (Link.running_enableRetry h.connected interval maxRetries).trans h.countdown
    exact ⟨(Link.phase_enableRetry _ _ _).trans h.phase, h.published, h.connection, hcd⟩
  | disableRetry => exact ⟨h.phase, h.published, h.connection, rfl⟩
  | close => exact shut_shut s

theorem onTick (h : Shut s) : s.onTick.Shut := by
  have htick := Link.tick_of_closing h.phase
  rcases helm_onTick s with ht | ⟨_, ht⟩ | ⟨hn, _⟩
  · exact h.of_helm ht
  · rw [← shut_helm, ht, htick]
    exact ⟨h.phase, h.published, h.connection, rfl⟩
  · rw [htick] at hn
    exact absurd rfl hn

theorem works {task : Task} (h : Shut s) (hw : Works task s t)
    (hq : task = .command → ∀ id, s.queue.head? ≠ some (.connect id)) (hd : s.activity.isDialing = false) :
    Shut t := by
  cases hw with
  | @command _ c rest _ _ hqueue =>
    have hs : Shut { s with queue := rest } := h.of_helm rfl
    refine hs.handleCommand fun id hc => hq rfl id ?_
    rw [hqueue, hc]
    rfl
  | tick =>
    have key (due : Nat) : Shut { s with due } := ⟨h.phase, h.published, h.connection, h.countdown⟩
    exact (key s.nextDue).onTick
  | delivery _ _ hdel =>
    obtain ⟨wire, _, hc, _⟩ := takeDelivery?_eq_some hdel
    exact absurd (h.connection.symm.trans hc) (by simp)
  | handshake hdial => rw [hdial] at hd; cases hd
  | @restore _ c rest sequel _ =>
    have hs : Shut { s with activity := .restoring rest sequel } := h.turn _ s.net
    exact hs.send c
  | @conclude _ sequel _ =>
    rw [← shut_helm, helm_conclude]
    exact (shut_helm.2 h).turn _ _
  | @hungUp _ wire previous _ _ =>
    rw [← shut_helm, helm_hungUp]
    exact (shut_helm.2 h).turn _ _
  | @hangUpLate _ wire previous _ _ _ =>
    rw [← shut_helm, helm_hungUp]
    exact (shut_helm.2 h).turn _ _
  | collapse => exact (h.turn .stopped s.net).of_helm rfl
  | stop =>
    rw [← shut_helm, helm_stop]
    exact ⟨h.phase, h.published, rfl, h.countdown⟩

theorem step {m : Move} (h : Shut s) (hc : s.activity ≠ .stopped → s.Coherent) (hs : Step m s t)
    (hm : ∀ id, m ≠ .connect id) (hq : m = .driver .command → ∀ id, s.queue.head? ≠ some (.connect id)) :
    Shut t := by
  cases hs with
  | driver hw =>
    refine h.works hw (fun ht => hq (ht ▸ rfl)) (Bool.eq_false_iff.2 fun hd => ?_)
    have hp := (hc hw.running).dialing.2 hd
    rw [h.phase] at hp
    cases hp
  | call c => exact h.of_helm (Called.call s c).helm
  | @connect _ id => exact absurd rfl (hm id)
  | returned => exact h.of_helm rfl
  | wait => exact ⟨h.phase, h.published, h.connection, h.countdown⟩
  | push wire d =>
    obtain ⟨net, hp, _⟩ := push_eq s wire d
    exact hp.symm ▸ h.turn s.activity net
  | listen => exact ⟨h.phase, h.published, h.connection, h.countdown⟩
  | drop => exact ⟨h.phase, h.published, h.connection, h.countdown⟩

end Shut

theorem Run.count_of_stopped {ms : List Move} {s t : Session} (hr : Run ms s t) (h : s.activity = .stopped) :
    ms.count (.driver .command) = 0 := by
  induction hr with
  | nil => rfl
  | @cons m ms s u t hs _ ih =>
    have hne : m ≠ .driver .command := by
      rintro rfl
      cases hs with
      | driver hw =>
        cases hw with
        | command hi => rw [h] at hi; cases hi
    rw [List.count_cons_of_ne hne, ih (hs.stopped h)]

section

variable {after : List Move} {s t u : Session}

/-- What holds from a call to close on, until the next call to connect. -/
structure Closing (s : Session) : Prop where
  closing : s.closing = true
  cancelled : s.cancelled = true
  coherent : s.activity ≠ .stopped → s.Coherent

theorem Closing.step {m : Move} (h : Closing s) (hs : Step m s t) (hm : ∀ id, m ≠ .connect id) : Closing t := by
  have hc (ht : t.activity ≠ .stopped) : t.Coherent := hs.coherent (h.coherent fun hx => ht (hs.stopped hx)) ht
  rcases hs.flags hm with ⟨hcl, hca⟩ | ⟨hcl, hca⟩
  · exact ⟨hcl.trans h.closing, hca.trans h.cancelled, hc⟩
  · exact ⟨hcl, hca, hc⟩

theorem Closing.run (h : Closing s) (hr : Run after s t) (hn : ∀ id, .connect id ∉ after) : Closing t :=
  hr.keeps (M := fun m => ∀ id, m ≠ .connect id) (fun hm hs h => h.step hs hm)
    (fun _ hin id he => hn id (he ▸ hin)) h

theorem Closing.starts_nothing (h : Closing s) (hr : Run after s t) (hn : ∀ id, .connect id ∉ after) :
    Docile s t ∧ ∃ added, t.trace = added ++ s.trace ∧ ∀ e ∈ added, e.happening.isFreshStart = false := by
  refine (hr.keeps (M := fun m => ∀ id, m ≠ .connect id) (P := fun t => Closing t ∧ Docile s t ∧
    ∃ added, t.trace = added ++ s.trace ∧ ∀ e ∈ added, e.happening.isFreshStart = false)
    (fun {m u t} hm hs hu => ?_) (fun _ hin id he => hn id (he ▸ hin)) ⟨h, .refl s, [], by simp⟩).2
  obtain ⟨hu, hd, added, ht, ha⟩ := hu
  have hl := licence_unfresh hu.closing hu.cancelled
  obtain ⟨later, hlater, hfresh⟩ := hs.trace tolerant_unfresh hl (fun _ _ => rfl) fun _ _ => rfl
  have hnext := hu.step hs hm
  refine ⟨hnext, hd.trans (hs.docile hm (fun _ => hu.cancelled) hnext.closing), later ++ added, by simp [hlater, ht],
    fun e he => ?_⟩
  rcases List.mem_append.1 he with he | he
  · exact hfresh e he
  · exact ha e he

def Unasked (s : Session) : Prop :=
  s.activity = .stopped ∨ ∀ id, .connect id ∉ s.queue

theorem Unasked.step {m : Move} (h : Unasked s) (hs : Step m s t) (hm : ∀ id, m ≠ .connect id) : Unasked t := by
  rcases h with h | h
  · exact .inl (hs.stopped h)
  · rcases hs.queue hm with ht | ⟨cs, hq, hcs⟩
    · exact .inl ht
    · refine .inr fun id hin => ?_
      rw [hq] at hin
      rcases List.mem_append.1 hin with hin | hin
      · refine h id ?_
        unfold Move.left at hin
        split at hin
        · exact List.mem_of_mem_tail hin
        · exact hin
      · exact hcs id hin

theorem Unasked.head {m : Move} (h : Unasked s) (hs : Step m s t) (hm : m = .driver .command) (id : Nat) :
    s.queue.head? ≠ some (.connect id) := by
  subst hm
  cases hs with
  | driver hw =>
    intro hid
    exact h.resolve_left hw.running id (List.mem_of_mem_head? hid)

theorem Shut.run (h : Shut s) (hc : Closing s) (hq : Unasked s) (hr : Run after s t)
    (hn : ∀ id, .connect id ∉ after) : Shut t := by
  have key := hr.keeps (M := fun m => ∀ id, m ≠ .connect id) (P := fun s => Closing s ∧ Unasked s ∧ Shut s)
    (fun hm hs ⟨hc, hq, h⟩ => ⟨hc.step hs hm, hq.step hs hm, h.step hc.coherent hs hm (hq.head hs)⟩)
    (fun _ hin id he => hn id (he ▸ hin)) ⟨hc, hq, h⟩
  exact key.2.2

structure Last (n : Nat) (q : List Command) : Prop where
  close : q[n]? = some .close
  behind : ∀ id, .connect id ∉ q.drop n

theorem Last.append {n : Nat} {q cs : List Command} (h : Last n q) (hcs : ∀ id, .connect id ∉ cs) :
    Last n (q ++ cs) := by
  have hlt : n < q.length := (List.getElem?_eq_some_iff.1 h.close).1
  refine ⟨by rw [List.getElem?_append_left hlt, h.close], fun id hin => ?_⟩
  rw [List.drop_append_of_le_length (Nat.le_of_lt hlt)] at hin
  rcases List.mem_append.1 hin with hin | hin
  · exact h.behind id hin
  · exact hcs id hin

theorem Closing.processed (hc : Closing s) (hr : Run after s t) (hn : ∀ id, .connect id ∉ after) {n : Nat}
    (hlast : Last n s.queue) (hlt : n < after.count (.driver .command)) : Shut t := by
  -- the command to close moves up by one with every command taken, and whatever comes in stands behind it
  induction hr generalizing n with
  | nil => exact absurd hlt (by simp)
  | @cons m ms s u t hs hr ih =>
    have hm (id : Nat) (he : m = .connect id) := hn id (he ▸ List.mem_cons_self)
    have hn' (id : Nat) : .connect id ∉ ms := fun he => hn id (List.mem_cons_of_mem _ he)
    have hu := hc.step hs hm
    have hqueue := hs.queue hm
    by_cases hmove : m = .driver .command
    · subst hmove
      rw [List.count_cons_self] at hlt
      rw [Move.left, if_pos rfl] at hqueue
      cases n with
      | zero =>
        have hask : Unasked s := .inr hlast.behind
        have hshut : Shut u := by
          cases hs with
          | driver hw =>
            cases hw with
            | @command _ c rest _ _ hq =>
              have hclose := hlast.close
              rw [hq] at hclose
              obtain rfl : c = .close := Option.some.inj hclose
              exact shut_shut _
        exact hshut.run hu (hask.step hs hm) hr hn'
      | succ n =>
        rcases hqueue with hx | ⟨cs, hq, hcs⟩
        · rw [hr.count_of_stopped hx] at hlt
          exact absurd hlt (by simp)
        · have htail : Last n s.queue.tail := by
            refine ⟨by rw [List.getElem?_tail, hlast.close], fun id => ?_⟩
            rw [List.drop_tail]
            exact hlast.behind id
          exact ih hu hn' (hq ▸ htail.append hcs) (Nat.lt_of_succ_lt_succ hlt)
    · rw [List.count_cons_of_ne hmove] at hlt
      rw [Move.left, if_neg hmove] at hqueue
      rcases hqueue with hx | ⟨cs, hq, hcs⟩
      · rw [hr.count_of_stopped hx] at hlt
        cases hlt
      · exact ih hu hn' (hq ▸ hlast.append hcs) hlt

/-- A call to close, by a caller, or by a handler while the driver works. -/
inductive Closes : Session → Session → Prop
  | call (s : Session) : Closes s s.close
  | handler {task : Task} {s t : Session} :
      Works task s t → s.closing = false → t.closing = true → Closes s t

theorem exists_last {q cs : List Command} (hclose : .close ∈ cs) (hcs : ∀ id, .connect id ∉ cs) :
    ∃ n, Last n (q ++ cs) := by
  obtain ⟨k, hk⟩ := List.mem_iff_getElem?.1 hclose
  refine ⟨q.length + k, ?_, fun id hin => hcs id ?_⟩
  · rw [List.getElem?_append_right (Nat.le_add_right _ _), Nat.add_sub_cancel_left, hk]
  · rw [List.drop_append, Nat.add_sub_cancel_left, List.drop_eq_nil_of_le (Nat.le_add_right _ _)] at hin
    exact List.mem_of_mem_drop hin

theorem close_flags (s : Session) : s.close.closing = true ∧ s.close.cancelled = true := by
  unfold close enqueue
  split
  · exact ⟨rfl, rfl⟩
  · exact ⟨rfl, rfl⟩

theorem queue_close {s : Session} (h : s.activity ≠ .stopped) : s.close.queue = s.queue ++ [.close] := by
  unfold close enqueue
  split
  · rename_i hd
    exact absurd (of_decide_eq_true hd) h
  · rfl

theorem Closes.closing {c : Session} (h : Closes s c) (hs : s.Reachable) : Closing c := by
  cases h with
  | call =>
    have hh := (Called.close s).helm
    obtain ⟨hcl, hca⟩ := close_flags s
    exact ⟨hcl, hca, fun hc => (hs.coherent (activity_of_helm hh ▸ hc)).of_helm hh⟩
  | handler hw hf ht =>
    have hrun := hw.running
    rcases (Step.driver hw).flags (by simp) with ⟨hcl, _⟩ | ⟨hcl, hca⟩
    · rw [hcl, hf] at ht
      cases ht
    · exact ⟨hcl, hca, fun hc => hw.coherent (hs.coherent hrun) hc⟩

theorem Closes.docile {c : Session} (h : Closes s c) (hs : s.Reachable) : Docile s c := by
  cases h with
  | call => exact .of_helm (Called.close s).helm
  | handler hw _ ht => exact hw.docile hs.flags ht

theorem Closes.last {c : Session} (h : Closes s c) (hc : c.activity ≠ .stopped) : ∃ n, Last n c.queue := by
  cases h with
  | call =>
    have ha : s.activity ≠ .stopped := activity_of_helm (Called.close s).helm ▸ hc
    rw [queue_close ha]
    exact exists_last List.mem_cons_self (by simp)
  | handler hw hf ht =>
    rcases (Step.driver hw).adds (by simp) with ⟨hs, _⟩ | ⟨cs, hq, hcs, ⟨hcl, _⟩ | ⟨_, _, hclose⟩⟩
    · exact absurd hs hc
    · exact absurd (hcl.symm.trans ht) (by simp [hf])
    · rw [hq]
      exact exists_last (hclose hw.underWay) hcs

/-- The end of a handshake that closing found under way: the driver can only give it up as cancelled, and
whoever waits for it is told so. -/
structure Doomed (d : Dial) (s : Session) : Prop where
  ready : s.driverStep? = some (s.attemptFailed d.cause .cancelled)
  only : ∀ task t, Works task s t → t = s.attemptFailed d.cause .cancelled
  told : ∀ id, d.cause = .caller id → ∀ state, (id, state) ∈ s.callers →
    (id, .answered (.error .cancelled)) ∈ (s.attemptFailed d.cause .cancelled).callers

theorem Closing.doomed (h : Closing s) {d : Dial} (hd : s.activity = .dialing d) : Doomed d s := by
  have hsettle : s.settleDial d = some (s.attemptFailed d.cause .cancelled) := by
    simp [settleDial, isCancelled, h.cancelled]
  refine ⟨?_, fun task t hw => ?_, fun id hid state hin => ?_⟩
  · simp only [driverStep?, hd]
    exact hsettle
  · obtain ⟨_, ht⟩ := hw.settles hd
    exact Option.some.inj (ht.symm.trans hsettle)
  · rw [hid]
    exact List.mem_map.2 ⟨(id, state), hin, if_pos rfl⟩

end

/-- Closing is final until somebody asks for a connection again. -/
theorem close_is_final {s c t : Session} {after : List Move} (hs : s.Reachable) (hc : Closes s c)
    (hr : Run after c t) (hn : ∀ id, .connect id ∉ after) :
    (∃ added, t.trace = added ++ c.trace ∧ ∀ e ∈ added, e.happening.isFreshStart = false) ∧
      Docile s t ∧ (∀ d, t.activity = .dialing d → Doomed d t) ∧
      (c.activity ≠ .stopped → ∃ n, Last n c.queue) ∧
      ∀ n, Last n c.queue → n < after.count (.driver .command) → Shut t := by
  have hclosing := hc.closing hs
  obtain ⟨hdocile, htrace⟩ := hclosing.starts_nothing hr hn
  refine ⟨htrace, (hc.docile hs).trans hdocile, fun d hd => ?_, hc.last, fun n hlast hlt => ?_⟩
  · exact (hclosing.run hr hn).doomed hd
  · exact hclosing.processed hr hn hlast hlt

theorem close_is_final_of_dialing :
    ∃ (s t : Session) (after : List Move), s.Reachable ∧ s.activity.isDialing = true ∧ Run after s.close t ∧
      (∀ id, .connect id ∉ after) ∧ t.net.wires.length = 0 ∧ Shut t := by
  -- the far side accepts the handshake, but closing comes first
  let first := start .standard ⟨"key", "token"⟩ .none (.start [] ⟨.accept .smooth, 0⟩) fun _ => none
  let asked := first.requestConnect.beginConnect 1
  let s := { asked with queue := [] }.handleCommand (.connect 1)
  have hcommand : Step (.driver .command) asked s := .driver (.command rfl (by decide) rfl)
  have hconnect : Step (.connect 1) first.requestConnect asked :=
    .connect (by simp [first, requestConnect, start])
  have hs : s.Reachable :=
    ⟨_, _, _, _, _, _, .cons (.call .connect first) (.cons hconnect (.single hcommand))⟩
  have hr := Run.cons (s := s.close) (.driver (.handshake rfl rfl)) (.single (.driver (.command rfl (by decide) rfl)))
  have hn (id : Nat) : .connect id ∉ [Move.driver .handshake, .driver .command] := by simp
  obtain ⟨_, hdocile, _, _, hshut⟩ := close_is_final hs (.call s) hr hn
  refine ⟨s, _, _, hs, rfl, hr, hn, hdocile.wires, hshut 0 ⟨rfl, fun id hin => ?_⟩ (by decide)⟩
  have hq : s.close.queue = [.close] := rfl
  rw [hq] at hin
  simp at hin

end Session

end MarketTicker
