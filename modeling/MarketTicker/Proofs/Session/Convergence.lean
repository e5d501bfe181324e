import MarketTicker.Proofs.Session.Coherence
import MarketTicker.Proofs.Session.Messages

namespace MarketTicker

def Happening.sentOn? (wire : Nat) : Happening → Option Control
  | .sent w c => if w = wire then some c else none
  | _ => none

def Activity.isRestoring : Activity → Bool
  | .restoring _ _ => true
  | _ => false

def Happening.isSendFailure : Happening → Bool
  | .sendFailed _ _ => true
  | _ => false

namespace Session

def outstanding (s : Session) : List Control :=
  match s.activity with
  | .restoring rest _ => rest
  | _ => []

def sentOn (s : Session) (wire : Nat) : List Control :=
  s.history.filterMap fun e => e.happening.sentOn? wire

/-- The server's modes on a connection, on which it knew of no instrument at first. -/
def served (s : Session) (wire : Nat) (t : Token) : Option Mode :=
  Control.serve t none (s.sentOn wire)

def AllSent (s : Session) : Prop :=
  ∀ e ∈ s.trace, e.happening.isSendFailure = false

instance (s : Session) : Decidable s.AllSent :=
  inferInstanceAs (Decidable (∀ e ∈ s.trace, e.happening.isSendFailure = false))

def Silent (h : Happening) : Prop :=
  ∀ wire c, h ≠ .sent wire c

theorem tolerant_silent : Tolerant Silent := by
  constructor <;> simp [Silent]

theorem sentOn_note (s : Session) (h : Happening) (wire : Nat) :
    (s.note h).sentOn wire = s.sentOn wire ++ (h.sentOn? wire).toList := by
  unfold sentOn history note
  rw [List.reverse_cons, List.filterMap_append]
  cases hw : h.sentOn? wire with
  | none => simp [hw]
  | some c => simp [hw]

@[simp] theorem sentOn_log (s : Session) (level : LogLevel) (message : String)
    (fields : List (String × String)) (wire : Nat) : (s.log level message fields).sentOn wire = s.sentOn wire :=
  (sentOn_note s _ wire).trans (List.append_nil _)

theorem sentOn_of_silent {s t : Session} {added : List TraceEntry} (ht : t.trace = added ++ s.trace)
    (ha : ∀ e ∈ added, Silent e.happening) (wire : Nat) : t.sentOn wire = s.sentOn wire := by
  have hnone : added.reverse.filterMap (fun e => e.happening.sentOn? wire) = [] := by
    rw [List.filterMap_eq_nil_iff]
    intro e he
    have hs := ha e (List.mem_reverse.1 he)
    cases hh : e.happening with
    | sent w c => exact absurd hh (hs w c)
    | _ => rfl
  unfold sentOn history
  rw [ht, List.reverse_append, List.filterMap_append, hnone, List.append_nil]

theorem Called.sentOn {s t : Session} (h : Called s t) (wire : Nat) : t.sentOn wire = s.sentOn wire := by
  obtain ⟨added, ht, hadd⟩ := h.trace
  refine sentOn_of_silent ht (fun e he => ?_) wire
  rcases hadd e he with ⟨r, hr⟩ | ⟨r, hr⟩
  · simp [hr, Silent]
  · simp [hr, Silent]

theorem AllSent.of_grown {s t : Session} (h : t.AllSent) (hg : ∃ added, t.trace = added ++ s.trace) :
    s.AllSent := by
  obtain ⟨added, ht⟩ := hg
  exact fun e he => h e (ht ▸ List.mem_append_right _ he)

inductive Holds (s t : Session) : Prop
  | parted : t.connection = none → Holds s t
  | kept : t.connection = s.connection → t.outstanding = s.outstanding → Holds s t
  | fresh : t.connection = some s.net.wires.length →
      t.outstanding = t.watchlist.restorePlan.controls → Holds s t
  | again : t.connection = s.connection → s.outstanding = [] →
      t.outstanding = t.watchlist.restorePlan.controls → Holds s t

theorem outstanding_of_activity {s t : Session} (h : t.activity = s.activity) :
    t.outstanding = s.outstanding := by
  unfold outstanding
  rw [h]

theorem fields_of_helm {t u : Session} (h : t.helm = u) :
    t.connection = u.connection ∧ t.outstanding = u.outstanding ∧ t.net = u.net := by
  subst h
  exact ⟨rfl, rfl, rfl⟩

theorem attemptFailed_keeps (s : Session) (cause : Cause) (fault : ConnectFault) :
    (s.attemptFailed cause fault).connection = s.connection ∧
      (s.attemptFailed cause fault).outstanding = [] ∧ (s.attemptFailed cause fault).net = s.net :=
  fields_of_helm (helm_attemptFailed s cause fault)

theorem attempt_keeps (s : Session) (cause : Cause) (limit : Span) :
    (s.attempt cause limit).connection = s.connection ∧ (s.attempt cause limit).outstanding = [] ∧
      (s.attempt cause limit).net.wires = s.net.wires := by
  cases hb : s.link.beginConnect? with
  | none =>
    have h : (s.attempt cause limit).helm = { s.helm with activity := .idle } := helm_attempt_of_none hb
    obtain ⟨hc, ho, hn⟩ := fields_of_helm h
    exact ⟨hc, ho, congrArg Net.wires hn⟩
  | some l =>
    rw [attempt_of_some hb]
    rcases helm_dial ({ s with link := l }.publish) cause limit with ⟨fault, h⟩ | ⟨_, _, d, _, _, h⟩
    · obtain ⟨hc, ho, hn⟩ := fields_of_helm (h.trans (helm_attemptFailed _ _ _))
      exact ⟨hc, ho, congrArg Net.wires hn⟩
    · obtain ⟨hc, ho, hn⟩ := fields_of_helm h
      exact ⟨hc, ho, (congrArg Net.wires hn).trans (wires_nextOutcome s.net)⟩

theorem connectionLost_keeps (s : Session) (fault? : Option TransportFault) :
    (s.connectionLost fault?).connection = none ∧
      (s.connectionLost fault?).net.wires.length = s.net.wires.length := by
  have h := helm_connectionLost s fault?
  rw [helm_dropConnection] at h
  have hlen := Net.length_letGo s.helm.net s.helm.connection
  split at h
  · obtain ⟨hc, _, hn⟩ := fields_of_helm h
    exact ⟨hc, hn ▸ hlen⟩
  · obtain ⟨hc, _, hn⟩ := fields_of_helm h
    exact ⟨hc, hn ▸ hlen⟩

theorem shut_keeps (s : Session) :
    s.shut.connection = none ∧ s.shut.net.wires.length = s.net.wires.length := by
  cases hc : s.connection with
  | none =>
    obtain ⟨hnone, _, hn⟩ := fields_of_helm (helm_shut_of_none hc)
    exact ⟨hnone.trans hc, hn ▸ rfl⟩
  | some wire =>
    rcases helm_shut_of_some hc with h | h
    · obtain ⟨hnone, _, hn⟩ := fields_of_helm h
      exact ⟨hnone, hn ▸ rfl⟩
    · obtain ⟨hnone, _, hn⟩ := fields_of_helm h
      exact ⟨hnone, hn ▸ Net.length_letGo _ _⟩

theorem Holds.of_eq {s s' t : Session} (h : Holds s' t) (hc : s'.connection = s.connection)
    (ho : s'.outstanding = s.outstanding) (hn : s'.net.wires.length = s.net.wires.length) : Holds s t := by
  cases h with
  | parted h => exact .parted h
  | kept h h' => exact .kept (h.trans hc) (h'.trans ho)
  | fresh h h' => exact .fresh (hn ▸ h) h'
  | again h h' h'' => exact .again (h.trans hc) (ho.symm.trans h') h''

theorem onTick_keeps {s : Session} (hi : s.activity = .idle) (due : Nat) :
    Holds s { s with due }.onTick ∧ { s with due }.onTick.net.wires.length = s.net.wires.length := by
  have key {s : Session} (hempty : s.outstanding = []) :
      Holds s s.onTick ∧ s.onTick.net.wires.length = s.net.wires.length := by
    rcases helm_onTick s with h | ⟨_, h⟩ | ⟨_, h | ⟨t, since, limit, ht, _, h⟩⟩
    · obtain ⟨hc, ho, hn⟩ := fields_of_helm h
      exact ⟨.kept hc ho, hn ▸ rfl⟩
    · obtain ⟨hc, ho, hn⟩ := fields_of_helm h
      exact ⟨.kept hc ho, hn ▸ rfl⟩
    · obtain ⟨hc, _, hn⟩ := fields_of_helm h
      exact ⟨.parted hc, hn ▸ Net.length_letGo _ _⟩
    · obtain ⟨hc, _, hw⟩ := attempt_keeps t (.retry since) limit
      obtain ⟨hct, _, hnt⟩ := fields_of_helm ht
      rw [h]
      refine ⟨.parted (hc.trans hct), ?_⟩
      rw [hw, hnt]
      exact Net.length_letGo _ _
  have hempty : outstanding { s with due } = [] := by rw [outstanding, hi]
  obtain ⟨h, hl⟩ := key hempty
  exact ⟨h.of_eq rfl rfl rfl, hl⟩

theorem watchlist_restore (s : Session) (sequel : Sequel) : (s.restore sequel).watchlist = s.watchlist := by
  unfold restore
  dsimp only
  split
  · rfl
  · rfl

theorem attemptSucceeded_keeps (s : Session) (cause : Cause) (manner : Manner) :
    Holds s (s.attemptSucceeded cause manner) ∧
      s.net.wires.length ≤ (s.attemptSucceeded cause manner).net.wires.length := by
  obtain ⟨hc, ho, hn⟩ := fields_of_helm (helm_attemptSucceeded s cause manner)
  have hw : (s.attemptSucceeded cause manner).watchlist = s.watchlist := watchlist_restore _ _
  refine ⟨.fresh hc (ho.trans ?_), ?_⟩
  · rw [hw]
    rfl
  · simp [hn, Net.accept]

theorem hungUp_keeps {s : Session} (hempty : s.outstanding = []) (wire : Nat) (previous : Link.Phase) :
    Holds s (s.hungUp wire previous) ∧ s.net.wires.length ≤ (s.hungUp wire previous).net.wires.length := by
  obtain ⟨hc, ho, hn⟩ := fields_of_helm (helm_hungUp s wire previous)
  refine ⟨.kept hc (ho.trans hempty.symm), ?_⟩
  rw [hn]
  exact Nat.le_of_eq (Net.length_letGo _ _).symm

theorem receive_keeps (s : Session) (d : Delivery) :
    Holds s (s.receive d) ∧ (s.receive d).net.wires.length = s.net.wires.length := by
  rcases helm_receive s d with h | ⟨fault?, h⟩
  · obtain ⟨hc, ho, hn⟩ := fields_of_helm h
    exact ⟨.kept hc ho, hn ▸ rfl⟩
  · obtain ⟨hc, hl⟩ := connectionLost_keeps s fault?
    rw [h]
    exact ⟨.parted hc, hl⟩

theorem handleCommand_keeps {s : Session} (hempty : s.outstanding = []) {c : Command}
    (hc : ∀ control, c ≠ .send control) :
    Holds s (s.handleCommand c) ∧ (s.handleCommand c).net.wires.length = s.net.wires.length := by
  cases c with
  | connect id =>
    obtain ⟨hc, ho, hw⟩ := attempt_keeps s (.caller id) s.setup.connectTimeout
    exact ⟨.kept hc (ho.trans hempty.symm), congrArg List.length hw⟩
  | send control => exact absurd rfl (hc control)
  | resubscribe =>
    obtain ⟨hc, ho, hn⟩ := fields_of_helm (helm_restore s .resume)
    refine ⟨.again hc hempty (ho.trans ?_), congrArg (fun net => net.wires.length) hn⟩
    rw [handleCommand, watchlist_restore]
    rfl
  | enableRetry => exact ⟨.kept rfl rfl, rfl⟩
  | disableRetry => exact ⟨.kept rfl rfl, rfl⟩
  | close =>
    obtain ⟨hc, hl⟩ := shut_keeps s
    exact ⟨.parted hc, hl⟩

theorem Works.holds {task : Task} {s t : Session} (hw : Works task s t) (ht : task ≠ .stop)
    (hs : ∀ c, ¬Sending task s c) : Holds s t ∧ s.net.wires.length ≤ t.net.wires.length := by
  cases hw with
  | @command _ c rest hi _ hq =>
    have hempty : s.outstanding = [] := by rw [outstanding, hi]
    have hc (control : Control) : c ≠ .send control := fun hc => hs control (by rw [Sending, hq, hc]; rfl)
    have hrest : outstanding { s with queue := rest } = [] := hempty
    obtain ⟨h, hl⟩ := handleCommand_keeps hrest hc
    exact ⟨h.of_eq rfl rfl rfl, Nat.le_of_eq hl.symm⟩
  | tick hi _ =>
    obtain ⟨h, hl⟩ := onTick_keeps hi s.nextDue
    exact ⟨h, Nat.le_of_eq hl.symm⟩
  | delivery hi _ hd =>
    obtain ⟨wire, rest, _, _, rfl⟩ := takeDelivery?_eq_some hd
    obtain ⟨h, hl⟩ := receive_keeps { s with net := s.net.update wire fun w => { w with inbox := rest } } _
    have hn := Net.length_update s.net wire fun w => { w with inbox := rest }
    exact ⟨h.of_eq rfl rfl hn, Nat.le_of_eq (hl.trans hn).symm⟩
  | handshake hd h =>
    rcases settleDial_eq_some h with ⟨fault, rfl⟩ | ⟨_, manner, rfl⟩
    · obtain ⟨hc, ho, hn⟩ := attemptFailed_keeps s _ fault
      exact ⟨.kept hc (ho.trans (by rw [outstanding, hd])), Nat.le_of_eq (by rw [hn])⟩
    · exact attemptSucceeded_keeps s _ manner
  | restore hr => exact absurd ⟨_, _, hr⟩ (hs _)
  | @conclude _ sequel hr =>
    obtain ⟨hc, ho, hn⟩ := fields_of_helm (helm_conclude s sequel)
    have hempty : s.outstanding = [] := by rw [outstanding, hr]
    exact ⟨.kept hc (ho.trans hempty.symm), Nat.le_of_eq (congrArg (fun net => net.wires.length) hn).symm⟩
  | hungUp hh => exact hungUp_keeps (by rw [outstanding, hh]) _ _
  | hangUpLate hh =>
    have hempty : s.outstanding = [] := by rw [outstanding, hh]
    have hempty : outstanding (s.log .debug "Ticker close handshake timed out" []) = [] := hempty
    obtain ⟨h, hl⟩ := hungUp_keeps hempty _ _
    exact ⟨h.of_eq rfl rfl rfl, hl⟩
  | collapse => exact absurd rfl ht
  | stop => exact absurd rfl ht

theorem transmit_of_sound {s : Session} {wire : Nat} (h : (s.net.wire? wire).bind Wire.sendFault? = none)
    (c : Control) :
    (s.transmit wire c).watchlist = s.watchlist ∧ (s.transmit wire c).queue = s.queue ∧
      ∀ w, (s.transmit wire c).sentOn w = s.sentOn w ++ if wire = w then [c] else [] := by
  simp only [transmit, h]
  refine ⟨rfl, rfl, fun w => ?_⟩
  simp only [log, record, sentOn_note, Happening.sentOn?, Option.toList_none, List.append_nil]
  congr 1
  split
  · rfl
  · rfl

theorem transmit_spec {s : Session} (hu : s.activity.underWay = true) (wire : Nat) (c : Control) :
    (∃ e ∈ (s.transmit wire c).trace, e.happening = .sendFailed wire c) ∨
      (s.transmit wire c).watchlist = s.watchlist ∧ (s.transmit wire c).queue = s.queue ∧
        ∀ w, (s.transmit wire c).sentOn w = s.sentOn w ++ if wire = w then [c] else [] := by
  cases hf : (s.net.wire? wire).bind Wire.sendFault? with
  | none => exact .inr (transmit_of_sound hf c)
  | some fault =>
    left
    simp only [transmit, hf]
    have o : Terms (fun _ => True) (fun _ => True) { s with net := s.net.charge wire } :=
      ⟨tolerant_true, fun _ _ _ _ _ => trivial, hu⟩
    have hr := Course.report (.refl (({ s with net := s.net.charge wire }.note (.sendFailed wire c)).log .warn
      "Failed to send control message" [("error", fault.message), ("action", c.action.name)])) ⟨o.1, o.2, o.3⟩
      .send fault.message
    obtain ⟨added, ht, _⟩ := hr.trace tolerant_true
    refine ⟨⟨s.now, .sendFailed wire c⟩, ?_, rfl⟩
    exact ht ▸ List.mem_append_right _ (List.mem_cons_of_mem _ List.mem_cons_self)

/-- What the server streams becomes the watchlist when all that is on its way has arrived. -/
structure Mirrored (p : Option Control) (s : Session) : Prop where
  echo : Agrees Echo p s
  resting : s.activity.underWay = false → s.messages = []
  numbered : ∀ wire, s.net.wires.length ≤ wire → s.sentOn wire = []
  mirror : s.activity.underWay = true → ∀ wire, s.connection = some wire →
    Agrees (fun t cs m => Control.serve t (s.served wire t) (s.outstanding ++ cs) = m) p s

theorem served_congr {s t : Session} (h : ∀ wire, t.sentOn wire = s.sentOn wire) (wire : Nat) :
    t.served wire = s.served wire := by
  funext x
  rw [served, served, h]

namespace Mirrored

variable {p : Option Control} {s t : Session}

theorem of_eq (h : Mirrored p s) (hw : t.watchlist = s.watchlist) (hm : t.messages = s.messages)
    (ha : t.activity = s.activity) (hc : t.connection = s.connection)
    (hn : t.net.wires.length = s.net.wires.length) (hs : ∀ wire, t.sentOn wire = s.sentOn wire) :
    Mirrored p t where
  echo x := by
    rw [hw, hm]
    exact h.echo x
  resting hu := hm.trans (h.resting (ha ▸ hu))
  numbered wire hl := (hs wire).trans (h.numbered wire (hn ▸ hl))
  mirror hu wire hwire x := by
    rw [hw, hm, served_congr hs, outstanding_of_activity ha]
    exact h.mirror (ha ▸ hu) wire (hc ▸ hwire) x

theorem stopped (h : Mirrored p s) (hw : t.watchlist = s.watchlist) (hm : t.messages = [])
    (ha : t.activity = .stopped) (hn : t.net.wires.length = s.net.wires.length)
    (hs : ∀ wire, t.sentOn wire = s.sentOn wire) : Mirrored p t where
  echo x := by
    rw [hw, hm]
    exact (h.echo x).drop
  resting _ := hm
  numbered wire hl := (hs wire).trans (h.numbered wire (hn ▸ hl))
  mirror hu := by simp [ha, Activity.underWay] at hu

theorem course {P : Happening → Prop} {C : Call → Prop} (h : Mirrored p s) (hu : s.activity.underWay = true)
    (hP : ∀ e, P e → Silent e) (hT : Tolerant P) (hC : ∀ c, C c → p = none ∨ c.bystanding = true)
    (hr : Course P C s t) (hh : Holds s t) (hl : s.net.wires.length ≤ t.net.wires.length) : Mirrored p t := by
  have hs (wire : Nat) : t.sentOn wire = s.sentOn wire := by
    obtain ⟨added, ht, ha⟩ := hr.trace hT
    exact sentOn_of_silent ht (fun e he => hP _ (ha e he)) wire
  have hecho : Agrees Echo p t := Agrees.course lasting_echo hu hC hr h.echo
  have hmirror (wire : Nat) (hwire : s.connection = some wire) :
      Agrees (fun t cs m => Control.serve t (s.served wire t) (s.outstanding ++ cs) = m) p t :=
    Agrees.course (lasting_serve _ _) hu hC hr (h.mirror hu wire hwire)
  refine ⟨hecho, fun hr' => ?_, fun wire hw => ?_, fun _ wire hwire x => ?_⟩
  · rw [hr.underWay, hu] at hr'
    cases hr'
  · exact (hs wire).trans (h.numbered wire (Nat.le_trans hl hw))
  · rw [served_congr hs]
    cases hh with
    | parted hc =>
      rw [hc] at hwire
      cases hwire
    | kept hc ho =>
      rw [ho]
      exact hmirror wire (hc ▸ hwire) x
    -- the plan gives the server the whole watchlist, and the messages behind it are already part of that
    | fresh hc ho =>
      obtain rfl : s.net.wires.length = wire := Option.some.inj (hc.symm.trans hwire)
      have hnew : s.served s.net.wires.length x = none := by
        rw [served, h.numbered _ (Nat.le_refl _)]
        rfl
      rw [ho, Control.serve_append, Watchlist.serve_restorePlan, hnew, Option.or_none]
      exact (hecho x).serve_eq
    | again hc hempty ho =>
      have hm := hmirror wire (hc ▸ hwire) x
      rw [hempty, List.nil_append] at hm
      rw [ho, Control.serve_append, Watchlist.serve_restorePlan]
      cases hx : t.watchlist.mode? x with
      | none => rw [Option.none_or, hm, hx]
      | some mode =>
        rw [Option.some_or, ← hx]
        exact (hecho x).serve_eq

theorem quietly {task : Task} {C : Call → Prop} (h : Mirrored p s) (hw : Works task s t) (ht : task ≠ .stop)
    (hns : ∀ c, ¬Sending task s c) (ho : s.Obliging C) (hC : ∀ c, C c → p = none ∨ c.bystanding = true) :
    Mirrored p t := by
  have hu := hw.underWay
  obtain ⟨hh, hl⟩ := hw.holds ht hns
  have hr : Course Silent C (taken task s) t :=
    hw.course ht ⟨tolerant_silent, ho, hu⟩
      ⟨fun _ _ _ _ => by simp, fun _ _ _ _ => by simp, fun _ _ _ => by simp⟩
      (fun c hc => absurd hc (hns c)) fun _ _ _ _ => by simp
  have htaken : taken task s = s ∨
      ∃ c rest, s.queue = c :: rest ∧ c.message? = none ∧ taken task s = { s with queue := rest } := by
    cases hw with
    | @command _ c rest _ _ hq =>
      refine .inr ⟨c, rest, hq, ?_, by rw [taken, hq]; rfl⟩
      cases c with
      | send control => exact absurd (by rw [Sending, hq]; rfl) (hns control)
      | _ => rfl
    | _ => exact .inl rfl
  rcases htaken with he | ⟨c, rest, hq, hc, he⟩
  · rw [he] at hr
    exact h.course hu (fun _ he => he) tolerant_silent hC hr hh hl
  · rw [he] at hr
    have hm : messages { s with queue := rest } = s.messages := by
      rw [messages, messages, hq, List.filterMap_cons, hc]
    have h' : Mirrored p { s with queue := rest } := h.of_eq rfl hm rfl rfl rfl fun _ => rfl
    exact h'.course hu (fun _ he => he) tolerant_silent hC hr (hh.of_eq rfl rfl rfl) hl

theorem send {c : Control} (hc : s.Coherent) (hu : s.activity.underWay = true) (hecho : Agrees Echo p s)
    (hnum : ∀ wire, s.net.wires.length ≤ wire → s.sentOn wire = [])
    (hmirror : ∀ wire, s.connection = some wire →
      Agrees (fun t cs m => Control.serve t (s.served wire t) (c :: (s.outstanding ++ cs)) = m) p s)
    (hall : (s.send c).AllSent) : Mirrored p (s.send c) := by
  cases hn : s.connection with
  | none =>
    have hl : s.link.connected = false := by rw [← hc.held, hn]; rfl
    have hs : s.send c = s.log .trace "Not connected, control message deferred" [("action", c.action.name)] := by
      simp [Session.send, hl]
    rw [hs]
    refine ⟨hecho, fun hr => ?_, fun wire hw => ?_, fun _ wire hwire => ?_⟩
    · exact absurd (hu.symm.trans hr) (by simp)
    · rw [sentOn_log]
      exact hnum wire hw
    · exact absurd (hn.symm.trans hwire) (by simp)
  | some wire =>
    have hl : s.link.connected = true := by rw [← hc.held, hn]; rfl
    have hs := send_of_connected hl hn c
    rw [hs] at hall ⊢
    rcases transmit_spec hu wire c with ⟨e, he, hfail⟩ | ⟨hw, hq, hsent⟩
    · exact absurd (hall e he) (by simp [hfail, Happening.isSendFailure])
    · have h := helm_transmit s wire c
      have hm : (s.transmit wire c).messages = s.messages := by rw [messages, messages, hq]
      have ha : (s.transmit wire c).activity = s.activity := (congrArg Session.activity h :)
      have hnet : (s.transmit wire c).net.wires.length = s.net.wires.length :=
        (congrArg (fun s => s.net.wires.length) h :).trans (Net.length_charge _ _)
      refine ⟨fun x => ?_, fun hr => ?_, fun w hw' => ?_, fun _ w hwire x => ?_⟩
      · rw [hw, hm]
        exact hecho x
      · rw [ha, hu] at hr
        cases hr
      · rw [hnet] at hw'
        have hne : wire ≠ w := Nat.ne_of_lt (Nat.lt_of_lt_of_le (hc.wire wire hn) hw')
        rw [hsent, hnum w hw', if_neg hne]
        rfl
      · have hconn : (s.transmit wire c).connection = s.connection := (congrArg Session.connection h :)
        obtain rfl : wire = w := Option.some.inj (hn.symm.trans (hconn.symm.trans hwire))
        have hserved : (s.transmit wire c).served wire x = c.actOn x (s.served wire x) := by
          rw [served, hsent, if_pos rfl, Control.serve_append]
          rfl
        dsimp only
        rw [hw, hm, hserved, outstanding_of_activity ha]
        exact hmirror wire hn x

theorem sending {task : Task} {c : Control} (h : Mirrored p s) (hw : Works task s t) (hs : Sending task s c)
    (hc : s.Coherent) (hall : t.AllSent) : Mirrored p t := by
  have hu := hw.underWay
  cases hw with
  | @command _ c' rest hi _ hq =>
    obtain rfl : c' = .send c := by rw [Sending, hq] at hs; exact Option.some.inj hs
    have hm : s.messages = c :: messages { s with queue := rest } := by rw [messages, hq]; rfl
    have hempty : s.outstanding = [] := by rw [outstanding, hi]
    have hrest : outstanding { s with queue := rest } = [] := hempty
    have hc' : Coherent { s with queue := rest } := hc.of_helm rfl
    refine send hc' hu (fun x => ?_) h.numbered (fun wire hwire x => ?_) hall
    · have hx := h.echo x
      rw [hm] at hx
      exact hx.tail
    · have hx := h.mirror hu wire hwire x
      rw [hm, hempty] at hx
      rw [hrest]
      exact hx
  | @restore _ c' rest sequel hr =>
    obtain ⟨rest', sequel', hs⟩ := hs
    obtain ⟨hcons, rfl⟩ : c' :: rest = c :: rest' ∧ sequel = sequel' :=
      Activity.restoring.inj (hr.symm.trans hs)
    obtain ⟨rfl, rfl⟩ := List.cons.inj hcons
    have ho : s.outstanding = c' :: outstanding { s with activity := .restoring rest sequel } := by
      rw [outstanding, hr]
      rfl
    have hc' : Coherent { s with activity := .restoring rest sequel } :=
      hc.turn (hc.ne_connecting (by rw [hr]; rfl)) rfl (by simp)
    refine send hc' rfl h.echo h.numbered (fun wire hwire x => ?_) hall
    have hx := h.mirror hu wire hwire x
    rw [ho] at hx
    exact hx
  | conclude hr =>
    obtain ⟨rest, sequel, hs⟩ := hs
    rw [hr] at hs
    cases hs
  | _ => exact hs.elim

theorem stop (h : Mirrored p s) (hw : Works .stop s t) : Mirrored p t := by
  cases hw with
  | collapse => exact h.stopped rfl rfl rfl rfl fun _ => rfl
  | stop _ _ hq _ =>
    have hh := helm_stop s
    obtain ⟨added, ht, ha⟩ := trace_stop s
    have hsame : s.stop.watchlist = s.watchlist ∧ s.stop.queue = s.queue := by
      unfold Session.stop abort dropConnection
      cases s.connection with
      | none => exact ⟨rfl, rfl⟩
      | some wire => exact ⟨rfl, rfl⟩
    refine h.stopped hsame.1 (by rw [messages, hsame.2, hq]; rfl) (congrArg Session.activity hh :)
      ((congrArg (fun s => s.net.wires.length) hh :).trans (Net.length_letGo _ _))
      (sentOn_of_silent ht fun e he => ?_)
    rcases ha e he with ⟨wire, hr⟩ | ⟨r, hr⟩
    · simp [hr, Silent]
    · simp [hr, Silent]

theorem works {task : Task} {C : Call → Prop} (h : Mirrored p s) (hw : Works task s t) (hc : s.Coherent)
    (hall : t.AllSent) (ho : s.Obliging C) (hC : ∀ c, C c → p = none ∨ c.bystanding = true) : Mirrored p t := by
  by_cases ht : task = .stop
  · subst ht
    exact h.stop hw
  · by_cases hs : ∃ c, Sending task s c
    · obtain ⟨c, hs⟩ := hs
      exact h.sending hw hs hc hall
    · exact h.quietly hw ht (fun c hsc => hs ⟨c, hsc⟩) ho hC

theorem called {q : Option Control} (h : Mirrored p s) (hc : Called s t) (he : Agrees Echo q t)
    (hr : s.activity.underWay = false → t.messages = [])
    (ha : s.activity.underWay = true → ∀ I, Lasting I → Agrees I p s → Agrees I q t) : Mirrored q t := by
  have hact : t.activity = s.activity := activity_of_helm hc.helm
  have hconn : t.connection = s.connection := (congrArg Session.connection hc.helm :)
  have hnet : t.net = s.net := (congrArg Session.net hc.helm :)
  refine ⟨he, fun hu => hr (hact ▸ hu), fun wire hw => ?_, fun hu wire hwire x => ?_⟩
  · rw [hc.sentOn]
    exact h.numbered wire (hnet ▸ hw)
  · rw [served_congr hc.sentOn, outstanding_of_activity hact]
    have hu' : s.activity.underWay = true := hact ▸ hu
    exact ha hu' _ (lasting_serve _ _) (h.mirror hu' wire (hconn ▸ hwire)) x

theorem begun (h : Mirrored none s) {c : Call} {control : Control} (hb : s.beginCall c = some (t, control)) :
    Mirrored (some control) t :=
  h.called (called_of_begun hb) (h.echo.begun lasting_echo hb)
    (fun hr => (Session.begun hb).1.trans (h.resting hr)) (fun _ _ hI ha => ha.begun hI hb)

theorem finished {control : Control} (h : Mirrored (some control) s) : Mirrored none (s.finishCall control) := by
  cases hu : s.activity.underWay with
  | true =>
    exact h.called (called_finishCall s control) (Agrees.finished hu h.echo)
      (fun hr => absurd (hu.symm.trans hr) (by simp)) (fun _ _ _ ha => Agrees.finished hu ha)
  | false =>
    have hm : (s.finishCall control).messages = [] :=
      (messages_finishCall_of_resting hu control).trans (h.resting hu)
    refine h.called (called_finishCall s control) (fun x => ?_) (fun _ => hm)
      (fun hr => absurd (hu.symm.trans hr) (by simp))
    rw [hm]
    exact .nil _

theorem call {c : Call} (h : Mirrored p s) (hc : p = none ∨ c.bystanding = true) : Mirrored p (s.call c) := by
  cases hb : s.beginCall c with
  | none =>
    obtain ⟨hw, hm⟩ := call_of_unbegun hb
    have same (I : Token → List Control → Option Mode → Prop) (ha : Agrees I p s) : Agrees I p (s.call c) := by
      intro x
      rw [hw, hm]
      exact ha x
    exact h.called (Called.call s c) (same _ h.echo) (fun hr => hm.trans (h.resting hr)) (fun _ I _ => same I)
  | some begun =>
    obtain ⟨t, control⟩ := begun
    rcases hc with rfl | hc
    · rw [call_of_begun hb]
      exact (h.begun hb).finished
    · rw [beginCall_of_bystanding s hc] at hb
      cases hb

theorem beginConnect (h : Mirrored p s) (hc : s.activity = .unstarted → s.connection = none) (id : Nat) :
    Mirrored p (s.beginConnect id) := by
  obtain ⟨generation, due, callers, cs, hs, hcs⟩ := beginConnect_eq s id
  have hm : (s.queue ++ cs).filterMap Command.message? = s.messages := by
    rw [List.filterMap_append]
    rcases hcs with rfl | rfl
    · exact List.append_nil _
    · exact List.append_nil _
  rw [hs]
  by_cases hu : s.activity = .unstarted
  · rw [if_pos hu]
    refine ⟨fun x => ?_, fun hr => ?_, h.numbered, fun _ wire hwire => ?_⟩
    · dsimp only
      rw [messages, hm]
      exact h.echo x
    · cases hr
    · exact absurd ((hc hu).symm.trans hwire) (by simp)
  · rw [if_neg hu]
    exact h.of_eq rfl hm rfl rfl rfl fun _ => rfl

theorem step {m : Move} (h : Mirrored p s) (hs : Step m s t) (hc : s.activity ≠ .stopped → s.Coherent)
    (hall : t.AllSent)
    (hp : p = none ∨ (∀ c, m = .call c → c.bystanding = true) ∧ s.Obliging (fun c => c.bystanding = true)) :
    Mirrored p t := by
  cases hs with
  | driver hw =>
    have hc := hc hw.running
    rcases hp with rfl | ⟨_, ho⟩
    · exact h.works hw hc hall (C := fun _ => True) (fun _ _ _ _ _ => trivial) (fun _ _ => .inl rfl)
    · exact h.works hw hc hall ho fun _ hb => .inr hb
  | call c =>
    rcases hp with rfl | ⟨hcall, _⟩
    · exact h.call (.inl rfl)
    · exact h.call (.inr (hcall c rfl))
  | connect =>
    refine h.beginConnect (fun hu => ?_) _
    have hc := hc (by simp [hu])
    exact hc.connection_of_ne (by simp [hc.unstarted hu])
  | returned =>
    exact h.of_eq rfl rfl rfl rfl rfl fun wire => (sentOn_note _ _ wire).trans (List.append_nil _)
  | wait => exact h.of_eq rfl rfl rfl rfl rfl fun _ => rfl
  | push wire d =>
    obtain ⟨net, hp, hn, _⟩ := push_eq s wire d
    rw [hp]
    exact h.of_eq rfl rfl rfl rfl hn fun _ => rfl
  | listen => exact h.of_eq rfl rfl rfl rfl rfl fun _ => rfl
  | drop => exact h.of_eq rfl rfl rfl rfl rfl fun _ => rfl

end Mirrored

/-- Sessions of which one caller may be halfway through a call that changes the watchlist. Meanwhile
anything else may happen, but nobody else changes the watchlist. -/
inductive Woven : Session → Option Control → Prop
  | start (setup : Setup) (credentials : Credentials) (handlers : Handlers Handler) (net : Net)
      (gate : ConnectRequest → Option TransportFault) : Woven (start setup credentials handlers net gate) none
  | step {m : Move} {s t : Session} : Woven s none → Step m s t → Woven t none
  | begin {c : Call} {control : Control} {s t : Session} :
      Woven s none → s.beginCall c = some (t, control) → Woven t (some control)
  | meanwhile {m : Move} {control : Control} {s t : Session} :
      Woven s (some control) → Step m s t → (∀ c, m = .call c → c.bystanding = true) →
      s.Obliging (fun c => c.bystanding = true) → Woven t (some control)
  | finish {control : Control} {s : Session} : Woven s (some control) → Woven (s.finishCall control) none

namespace Woven

variable {p : Option Control} {s : Session}

theorem coherent (h : Woven s p) (hs : s.activity ≠ .stopped) : s.Coherent := by
  induction h with
  | start => exact coherent_start _ _ _ _ _
  | step _ hst ih => exact hst.coherent (ih fun hx => hs (hst.stopped hx)) hs
  | begin _ hb ih =>
    have hc := called_of_begun hb
    exact (ih (activity_of_helm hc.helm ▸ hs)).of_helm hc.helm
  | meanwhile _ hst _ _ ih => exact hst.coherent (ih fun hx => hs (hst.stopped hx)) hs
  | @finish control s _ ih =>
    have hc := called_finishCall s control
    exact (ih (activity_of_helm hc.helm ▸ hs)).of_helm hc.helm

theorem mirrored (h : Woven s p) (hall : s.AllSent) : Mirrored p s := by
  induction h with
  | start =>
    exact ⟨fun _ => .nil _, fun _ => rfl, fun _ _ => rfl, fun hu => by cases hu⟩
  | step h hs ih =>
    exact (ih (hall.of_grown hs.grows)).step hs h.coherent hall (.inl rfl)
  | begin _ hb ih =>
    obtain ⟨added, ht, _⟩ := (called_of_begun hb).trace
    exact (ih (hall.of_grown ⟨added, ht⟩)).begun hb
  | meanwhile h hs hm ho ih =>
    exact (ih (hall.of_grown hs.grows)).step hs h.coherent hall (.inr ⟨hm, ho⟩)
  | @finish control s _ ih =>
    obtain ⟨added, ht, _⟩ := (called_finishCall s control).trace
    exact (ih (hall.of_grown ⟨added, ht⟩)).finished

end Woven

/-- Where nothing is left to send, the server streams what the watchlist holds, on the connection held. -/
theorem served_eq_watchlist {s : Session} (h : Woven s none) (hall : s.AllSent)
    (hphase : s.link.phase = .connected) (hrun : s.activity ≠ .stopped)
    (hrest : s.activity.isRestoring = false) (hq : s.queue = []) :
    ∃ wire, s.connection = some wire ∧ s.served wire = s.watchlist.mode? := by
  have hc := h.coherent hrun
  have hm := h.mirrored hall
  have hsome : s.connection.isSome = true := by rw [hc.held, Link.connected, hphase]; rfl
  obtain ⟨wire, hwire⟩ := Option.isSome_iff_exists.1 hsome
  have hu : s.activity.underWay = true := by
    cases ha : s.activity with
    | unstarted => rw [hc.unstarted ha] at hphase; cases hphase
    | stopped => exact absurd ha hrun
    | _ => rfl
  have hempty : s.outstanding = [] := by
    cases ha : s.activity with
    | restoring rest sequel => rw [ha] at hrest; cases hrest
    | _ => rw [outstanding, ha]
  refine ⟨wire, hwire, funext fun x => ?_⟩
  have hx := hm.mirror hu wire hwire x
  rw [hempty, messages, hq] at hx
  exact hx

theorem served_eq_watchlist_of_echo :
    ∃ s wire, Woven s none ∧ s.sentOn wire = [.unsubscribe [7], .subscribe [7], .mode .quote [7], .subscribe [7]] ∧
      s.served wire = s.watchlist.mode? := by
  -- the call is noted during the handshake, so its message comes once more after the restoration
  have h1 := Woven.start .standard ⟨"key", "token"⟩ .none (.start [] ⟨.accept .smooth, 0⟩) fun _ => none
  have h2 := h1.step (.call .connect _)
  have h3 := h2.step (@Step.connect _ 1 (by simp [call, requestConnect, start]))
  have h4 := h3.step (.driver (.command rfl rfl rfl))
  have h5 := h4.begin (c := .subscribe [7]) rfl
  have bystanding : ∀ task c, Move.driver task = .call c → c.bystanding = true := by simp
  have h6 := h5.meanwhile (.driver (.handshake rfl rfl)) (bystanding _) (fun _ _ h => by cases h)
  have h7 := h6.meanwhile (.driver (.restore rfl)) (bystanding _) (fun _ _ h => by cases h)
  have h8 := h7.meanwhile (.driver (.restore rfl)) (bystanding _) (fun _ _ h => by cases h)
  have h9 := h8.meanwhile (.driver (.restore rfl)) (bystanding _) (fun _ _ h => by cases h)
  have h10 := h9.meanwhile (.driver (.conclude rfl)) (bystanding _) (fun _ _ h => by cases h)
  have h11 := h10.finish
  have h12 := h11.step (.driver (.command rfl rfl rfl))
  obtain ⟨wire, hwire, hs⟩ := served_eq_watchlist h12 (by decide) rfl (by decide) rfl rfl
  obtain rfl : 0 = wire := Option.some.inj hwire
  exact ⟨_, 0, h12, rfl, hs⟩

end Session

end MarketTicker
