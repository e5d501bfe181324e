import MarketTicker.Proofs.Session.Engagement
import MarketTicker.Proofs.Session.Utterance

namespace MarketTicker.Session

section

variable {s t u v w : Session} {m : Move} {ms : List Move} {cs : List Call} {cause : Cause} {fault : ConnectFault}
  {limit : Span} {id : Nat} {rest : List Control}

theorem settled_keeps (s : Session) (cause : Cause) (result : Except ConnectFault Unit) :
    (s.settled cause result).retry = s.link.retry ∧
      (s.settled cause result).countdown.running = s.link.countdown.running := by
  unfold settled
  split
  · exact ⟨Link.retry_elapsed _ _, Link.running_elapsed _ _⟩
  · exact ⟨rfl, rfl⟩

/-- Of a handshake that began at `v` nothing has come as yet, and the calls `cs` were made during it. -/
structure Pending (v : Session) (cs : List Call) (s : Session) : Prop where
  down : v.link.phase ≠ .connected
  link : s.link = { v.link with phase := .connecting }
  connection : s.connection = none
  watchlist : s.watchlist = v.watchlist.amended cs
  utterances : s.utterances = v.utterances

/-- The handshake has failed. All that is left of it is one event, unless it was cancelled, and what the handler
of that event calls for. -/
structure Failed (fault : ConnectFault) (v : Session) (cs : List Call) (e : Session) : Prop where
  down : v.link.phase ≠ .connected
  connection : e.connection = none
  phase : e.link.phase = .disconnected
  published : e.published = .disconnected
  retry : e.link.retry = v.link.retry
  countdown : e.link.countdown.running = e.link.retryEnabled
  watchlist : ∃ prompted, (prompted = [] ∨ fault ≠ .cancelled ∧ e.Prompts (.error fault.message) prompted) ∧
    e.watchlist = v.watchlist.amended (cs ++ prompted)
  utterances : e.utterances = v.utterances ++ fault.told

structure Restoring (v w : Session) (rest : List Control) (s : Session) : Prop where
  down : v.link.phase ≠ .connected
  link : s.link = w.link.connectSucceeded
  published : s.published = .connected
  connection : s.connection = some w.net.wires.length
  held : s.net.held w.net.wires.length = true
  handed : ∃ us, s.utterances = v.utterances ++ us ∧ (∀ e, .told e ∈ us → ∃ message, e = .error message) ∧
    us.filterMap Utterance.handed? ++ rest.map (w.net.wires.length, ·) =
      w.watchlist.restorePlan.controls.map (w.net.wires.length, ·)

/-- The handshake has made a connection, and what restores the watchlist as it was then has been handed to it
before its event. -/
structure Opened (v : Session) (cs : List Call) (w e : Session) : Prop where
  down : v.link.phase ≠ .connected
  phase : e.link.phase = .connected
  published : e.published = .connected
  connection : e.connection = some w.net.wires.length
  held : e.net.held w.net.wires.length = true
  count : e.link.retry.count = 0
  watchlist : w.watchlist = v.watchlist.amended cs
  handed : ∃ us, e.utterances = v.utterances ++ us ++ [.told .connected] ∧
    (∀ e, .told e ∈ us → ∃ message, e = .error message) ∧
    us.filterMap Utterance.handed? = w.watchlist.restorePlan.controls.map (w.net.wires.length, ·)

/-- What comes of an attempt that began at `v`, had so much time, and went on from `t` to `e`: nothing where no
handshake could be begun, and otherwise what the handshake that the far side had ready came to. -/
inductive Verdict (cause : Cause) (limit : Span) (v t : Session) (ms : List Move) (e : Session) :
    Except ConnectFault Unit → Prop
  | barred {fault : ConnectFault} :
      ms = [] → v.Barred fault → Failed fault v [] e → Verdict cause limit v t ms e (.error fault)
  | failed {before : List Move} {w : Session} {fault : ConnectFault} :
      ms = before ++ [.driver .handshake] → v.Unbarred → Run before t w → Works .handshake w e →
      w.Ends (v.nextDial cause limit) (.error fault) → Failed fault v (called before) e →
      Verdict cause limit v t ms e (.error fault)
  | opened {before after : List Move} {w x : Session} {manner : Manner} :
      ms = before ++ .driver .handshake :: after → v.Unbarred → Run before t w → Works .handshake w x →
      w.Ends (v.nextDial cause limit) (.ok manner) → Run after x e → Opened v (called before) w e →
      Verdict cause limit v t ms e (.ok ())
  | standing {id : Nat} {r : LogRecord} :
      cause = .caller id → v.link.phase = .connected → v.published = .connected → v.connection.isSome = true →
      e = (v.note (.logged r)).answer id (.ok ()) → Verdict cause limit v t ms e (.ok ())

theorem Verdict.connection {result : Except ConnectFault Unit} (h : Verdict cause limit v t ms s result) :
    s.connection.isSome = result.isOk := by
  cases h with
  | barred _ _ hf => rw [hf.connection]; rfl
  | failed _ _ _ _ _ hf => rw [hf.connection]; rfl
  | opened _ _ _ _ _ _ ho => rw [ho.connection]; rfl
  | standing _ _ _ hc he => rw [he]; exact hc

theorem Pending.failed (h : Pending v cs s) (cause : Cause) (fault : ConnectFault) :
    Failed fault v cs (s.attemptFailed cause fault) := by
  have hh := helm_attemptFailed s cause fault
  have hp : s.link.phase = .connecting := by rw [h.link]
  have hdown : s.link.connectFailed.phase = .disconnected := by rw [Link.phase_connectFailed, if_pos hp]
  have hl : (s.attemptFailed cause fault).link =
      { s.helm with link := s.link.connectFailed }.settled cause (.error fault) := (congrArg Session.link hh :)
  obtain ⟨hretry, hrunning⟩ := settled_keeps { s.helm with link := s.link.connectFailed } cause (.error fault)
  have hsame : (s.attemptFailed cause fault).link.retry = s.link.retry := by
    rw [hl, hretry]
    exact Link.retry_connectFailed _
  obtain ⟨prompted, hprompts, hw⟩ := watchlist_attemptFailed s cause fault
  constructor
  case down => exact h.down
  case connection => exact (congrArg Session.connection hh :).trans h.connection
  case phase =>
    rw [hl, phase_settled]
    exact hdown
  case published => exact (congrArg Session.published hh :).trans hdown
  case retry =>
    rw [hsame, h.link]
  case countdown =>
    rw [Link.retryEnabled, hsame, hl, hrunning]
    exact Link.running_connectFailed hp
  case watchlist =>
    have hhandlers : (s.attemptFailed cause fault).handlers = s.handlers := (congrArg Session.handlers hh :)
    refine ⟨prompted, ?_, by rw [hw, h.watchlist, Watchlist.amended_append]⟩
    unfold Prompts at hprompts ⊢
    rw [hhandlers]
    exact hprompts
  case utterances => rw [utterances_attemptFailed, h.utterances]

theorem Pending.succeeded (h : Pending v cs w) (cause : Cause) (manner : Manner) :
    Restoring v w w.watchlist.restorePlan.controls (w.attemptSucceeded cause manner) := by
  have hh := helm_attemptSucceeded w cause manner
  constructor
  case down => exact h.down
  case link => exact (congrArg Session.link hh :)
  case published => exact (congrArg Session.published hh :)
  case connection => exact (congrArg Session.connection hh :)
  case held =>
    have hn : (w.attemptSucceeded cause manner).net = (w.net.accept manner).2 := (congrArg Session.net hh :)
    rw [hn]
    exact (Net.held_accept w.net manner _).2 (.inr rfl)
  case handed => exact ⟨[], by rw [utterances_attemptSucceeded, h.utterances, List.append_nil], by simp, rfl⟩

theorem Restoring.send {c : Control} (h : Restoring v w (c :: rest) s) (sequel : Sequel) :
    Restoring v w rest ({ s with activity := .restoring rest sequel }.send c) ∧
      ({ s with activity := .restoring rest sequel }.send c).activity = .restoring rest sequel := by
  have hup : ({ s with activity := .restoring rest sequel } : Session).link.connected = true := by
    rw [h.link]
    rfl
  rw [send_of_connected hup h.connection]
  have hh := helm_transmit { s with activity := .restoring rest sequel } w.net.wires.length c
  refine ⟨?_, (congrArg Session.activity hh :)⟩
  constructor
  case down => exact h.down
  case link => exact (congrArg Session.link hh :).trans h.link
  case published => exact (congrArg Session.published hh :).trans h.published
  case connection => exact (congrArg Session.connection hh :).trans h.connection
  case held =>
    have hn : ({ s with activity := .restoring rest sequel }.transmit w.net.wires.length c).net =
        s.net.charge w.net.wires.length := (congrArg Session.net hh :)
    have hkept : (s.net.charge w.net.wires.length).held w.net.wires.length = s.net.held w.net.wires.length := by
      apply Net.held_update
      intro wire
      rfl
    rw [hn, hkept]
    exact h.held
  case handed =>
    obtain ⟨us, hus, herring, hhanded⟩ := h.handed
    obtain ⟨errors, ht⟩ := utterances_transmit { s with activity := .restoring rest sequel } w.net.wires.length c
    refine ⟨us ++ .handed w.net.wires.length c :: errors.map (.told ∘ .error), ?_, fun e he => ?_, ?_⟩
    · rw [ht, ← List.append_assoc, ← hus]
      rfl
    · rcases List.mem_append.1 he with he | he
      · exact herring e he
      · obtain ⟨message, _, hm⟩ := List.mem_map.1 ((List.mem_cons.1 he).resolve_left (by simp))
        exact ⟨message, (Utterance.told.inj hm).symm⟩
    · have hnone : (errors.map (Utterance.told ∘ Event.error)).filterMap Utterance.handed? = [] := by
        simp [List.filterMap_eq_nil_iff, Utterance.handed?]
      rw [List.filterMap_append, List.filterMap_cons, hnone, ← hhanded, List.append_assoc]
      rfl

theorem Restoring.conclude (h : Restoring v w [] s) (hw : w.watchlist = v.watchlist.amended cs) (cause : Cause) :
    Opened v cs w (s.conclude (.announce cause)) := by
  have hh := helm_conclude s (.announce cause)
  have hl : (s.conclude (.announce cause)).link = w.link.connectSucceeded := (congrArg Session.link hh :).trans h.link
  constructor
  case down => exact h.down
  case phase => rw [hl, Link.phase_connectSucceeded]
  case published => exact (congrArg Session.published hh :).trans h.published
  case connection => exact (congrArg Session.connection hh :).trans h.connection
  case held =>
    have hn : (s.conclude (.announce cause)).net = s.net := (congrArg Session.net hh :)
    rw [hn]
    exact h.held
  case count =>
    rw [hl]
    rfl
  case watchlist => exact hw
  case handed =>
    obtain ⟨us, hus, herring, hhanded⟩ := h.handed
    refine ⟨us, ?_, herring, by simpa using hhanded⟩
    rw [Session.conclude, utterances_concludeAttempt, utterances_emit, hus]

theorem Pending.aside (h : Pending v cs s) (ha : Aside m s t) : Pending v (cs ++ called [m]) t where
  down := h.down
  link := ha.link.trans h.link
  connection := ha.connection.trans h.connection
  watchlist := by rw [ha.watchlist, h.watchlist, Watchlist.amended_append]
  utterances := ha.utterances.trans h.utterances

theorem Restoring.aside (h : Restoring v w rest s) (ha : Aside m s t) : Restoring v w rest t where
  down := h.down
  link := ha.link.trans h.link
  published := ha.published.trans h.published
  connection := ha.connection.trans h.connection
  held := (ha.held _).trans h.held
  handed := ha.utterances.symm ▸ h.handed

inductive Progress (cause : Cause) (limit : Span) (v t : Session) : List Move → Session → Prop
  | pending {ms : List Move} {s : Session} :
      v.Unbarred → Run ms t s → s.activity = .dialing (v.nextDial cause limit) → Pending v (called ms) s →
      Progress cause limit v t ms s
  | restoring {before after : List Move} {w x s : Session} {manner : Manner} {rest : List Control} :
      v.Unbarred → Run before t w → w.watchlist = v.watchlist.amended (called before) →
      w.Ends (v.nextDial cause limit) (.ok manner) → Works .handshake w x → Run after x s →
      s.activity = .restoring rest (.announce cause) → Restoring v w rest s →
      Progress cause limit v t (before ++ .driver .handshake :: after) s
  | ended {ms : List Move} {s : Session} {result : Except ConnectFault Unit} :
      s.activity = .idle → Verdict cause limit v t ms s result → (∀ id, cause = .caller id → Settled id result s) →
      Progress cause limit v t ms s

theorem Progress.works {task : Task} (h : Progress cause limit v t ms s) (hl : Ledger s) (hb : s.activity ≠ .idle)
    (hw : Works task s u) : Progress cause limit v t (ms ++ [.driver task]) u := by
  have hu := hw.underWay
  cases h with
  | ended hi => exact absurd hi hb
  | pending hopen hr ha hp =>
    obtain ⟨rfl, hsettle⟩ := hw.settles ha
    rcases settleDial_cases hsettle with ⟨fault, hends, rfl⟩ | ⟨manner, hends, rfl⟩
    · refine .ended (congrArg Session.activity (helm_attemptFailed s cause fault) :)
        (.failed rfl hopen hr (.handshake ha hsettle) hends (hp.failed cause fault)) ?_
      rintro id rfl
      refine (answers_attemptFailed hu id fault).settled hl.enrolled (hl.waits_of_served ?_)
      rw [ha]
      rfl
    · exact .restoring hopen hr hp.watchlist hends (.handshake ha hsettle) (.nil _)
        (congrArg Session.activity (helm_attemptSucceeded s cause manner) :) (hp.succeeded cause manner)
  | @restoring before after w x _ manner rest hopen hr hwatch hends hmade hafter ha hrest =>
    obtain ⟨rfl, ⟨rfl, rfl⟩ | ⟨c, later, rfl, rfl⟩⟩ := hw.restores ha
    · have hrun : Run (after ++ [.driver .restore]) x (s.conclude (.announce cause)) :=
        hafter.append (.single (.driver hw))
      refine .ended (congrArg Session.activity (helm_conclude s (.announce cause)) :)
        (.opened (by simp) hopen hr hmade hends hrun (hrest.conclude hwatch cause)) ?_
      rintro id rfl
      have hemit := ((Course.refl s).emit (terms_unreturned hu) tolerant_unreturned.connected).enrols
      refine (Answers.concludeAttempt hemit id (.ok ())).settled hl.enrolled (hl.waits_of_served ?_)
      rw [ha]
      rfl
    · obtain ⟨hrest', ha'⟩ := hrest.send (.announce cause)
      rw [List.append_assoc]
      exact .restoring hopen hr hwatch hends hmade (hafter.append (.single (.driver hw))) ha' hrest'

theorem Progress.aside (h : Progress cause limit v t ms s) (hb : s.activity ≠ .idle) (hs : Step m s u)
    (hm : ∀ task, m ≠ .driver task) : Progress cause limit v t (ms ++ [m]) u := by
  cases h with
  | ended hi => exact absurd hi hb
  | pending hopen hr ha hp =>
    have haside := hs.aside hm (by simp [ha])
    refine .pending hopen (hr.append (.single hs)) (haside.activity.trans ha) ?_
    rw [called_append]
    exact hp.aside haside
  | restoring hopen hr hwatch hends hmade hafter ha hrest =>
    have haside := hs.aside hm (by simp [ha])
    rw [List.append_assoc]
    exact .restoring hopen hr hwatch hends hmade (hafter.append (.single hs)) (haside.activity.trans ha)
      (hrest.aside haside)

theorem Progress.step (h : Progress cause limit v t ms s) (hl : Ledger s) (hb : s.activity ≠ .idle) (hs : Step m s u) :
    Progress cause limit v t (ms ++ [m]) u := by
  by_cases hm : ∃ task, m = .driver task
  · obtain ⟨task, rfl⟩ := hm
    cases hs with
    | driver hw => exact h.works hl hb hw
  · exact h.aside hb hs fun task he => hm ⟨task, he⟩

theorem Progress.verdict (h : Progress cause limit v t ms s) (hi : s.activity = .idle) :
    ∃ result, Verdict cause limit v t ms s result ∧ ∀ id, cause = .caller id → Settled id result s := by
  cases h with
  | pending _ _ ha => cases ha.symm.trans hi
  | restoring _ _ _ _ _ _ ha => cases ha.symm.trans hi
  | ended _ hverdict hsettled => exact ⟨_, hverdict, hsettled⟩

theorem Progress.underWay (h : Progress cause limit v t ms s) : s.activity.underWay = true := by
  cases h with
  | pending _ _ ha => rw [ha]; rfl
  | restoring _ _ _ _ _ _ ha => rw [ha]; rfl
  | ended hi => rw [hi]; rfl

theorem Progress.caller (h : Progress (.caller id) limit v t ms s) (hb : s.activity ≠ .idle) :
    s.activity.caller? = some id := by
  cases h with
  | pending _ _ ha =>
    rw [ha]
    rfl
  | restoring _ _ _ _ _ _ ha =>
    rw [ha]
    rfl
  | ended hi => exact absurd hi hb

end

end MarketTicker.Session
