import Mathlib.Logic.Relation
import MarketTicker.Proofs.Session.Finality
import MarketTicker.Proofs.Session.Scenario

namespace MarketTicker

inductive Aim where
  | connect (caller : Nat)
  | close
  deriving DecidableEq

def Command.aim? : Command → Option Aim
  | .connect id => some (.connect id)
  | .close => some .close
  | _ => none

theorem Command.aim?_eq_some {c : Command} {aim : Aim} (h : c.aim? = some aim) :
    (∃ id, c = .connect id ∧ aim = .connect id) ∨ c = .close ∧ aim = .close := by
  cases c with
  | connect id => exact .inl ⟨id, rfl, (Option.some.inj h).symm⟩
  | close => exact .inr ⟨rfl, (Option.some.inj h).symm⟩
  | send => cases h
  | resubscribe => cases h
  | enableRetry => cases h
  | disableRetry => cases h

namespace Session

def aims (s : Session) : List Aim :=
  s.queue.filterMap Command.aim?

def submitConnect (s : Session) (id : Nat) : Session :=
  if s.driverStopped then s.setCaller id (.answered (.error .notRunning))
  else (s.setCaller id .waiting).enqueue (.connect id)

/-- What comes into the queue asks for no connection, and where it asks to close, the flag is up. -/
def Heeds (s t : Session) : Prop :=
  ∃ cs, t.queue = s.queue ++ cs ∧ (∀ id, .connect id ∉ cs) ∧ t.closing = (s.closing || decide (.close ∈ cs))

namespace Heeds

variable {s t u : Session}

theorem of_eq (hq : t.queue = s.queue) (hc : t.closing = s.closing) : Heeds s t :=
  ⟨[], by rw [hq, List.append_nil], by simp, by simp [hc]⟩

theorem trans (h : Heeds s t) (h' : Heeds t u) : Heeds s u := by
  obtain ⟨cs, hq, hcs, hc⟩ := h
  obtain ⟨ds, hq', hds, hc'⟩ := h'
  refine ⟨cs ++ ds, by rw [hq', hq, List.append_assoc], ?_, ?_⟩
  · intro id hid
    rcases List.mem_append.1 hid with hid | hid
    · exact hcs id hid
    · exact hds id hid
  · rw [hc', hc, Bool.or_assoc, ← Bool.decide_or]
    simp only [List.mem_append]

theorem enqueue (s : Session) {c : Command} (hc : c.aim? = none) : Heeds s (s.enqueue c) := by
  unfold Session.enqueue
  split
  · exact of_eq rfl rfl
  · refine ⟨[c], rfl, ?_, ?_⟩
    · intro id hid
      rw [← List.mem_singleton.1 hid] at hc
      cases hc
    · have hne : Command.close ∉ [c] := by
        intro hmem
        rw [← List.mem_singleton.1 hmem] at hc
        cases hc
      simp [hne]

theorem enqueueOnWire (s : Session) {c : Command} (hc : c.aim? = none) : Heeds s (s.enqueueOnWire c) := by
  unfold Session.enqueueOnWire
  split
  · exact of_eq rfl rfl
  · exact enqueue s hc

theorem close (hs : s.activity ≠ .stopped) : Heeds s s.close :=
  ⟨[.close], queue_close hs, by simp, by simp [(close_flags s).1]⟩

theorem call (hs : s.activity ≠ .stopped) (c : Call) : Heeds s (s.call c) := by
  cases c with
  | connect => exact of_eq rfl rfl
  | close => exact close hs
  | subscribe ts =>
    simp only [Session.call, Session.subscribe]
    split
    · exact of_eq rfl rfl
    · have hn : Heeds s (s.noteSubscribe ts) := of_eq rfl rfl
      exact hn.trans (enqueueOnWire _ rfl)
  | unsubscribe ts =>
    simp only [Session.call, Session.unsubscribe]
    split
    · exact of_eq rfl rfl
    · have hn : Heeds s (s.noteUnsubscribe ts) := of_eq rfl rfl
      exact hn.trans (enqueueOnWire _ rfl)
  | setMode ts mode =>
    have hn : Heeds s (s.noteSetMode ts mode).1 := by
      simp only [noteSetMode]
      split
      · exact of_eq rfl rfl
      · exact of_eq rfl rfl
    simp only [Session.call, Session.setMode]
    split
    · exact of_eq rfl rfl
    · split
      · rename_i h
        rw [h] at hn
        exact hn
      · rename_i h
        rw [h] at hn
        exact hn.trans (enqueueOnWire _ rfl)
  | resubscribe => exact enqueueOnWire s rfl
  | enableRetry interval maxRetries => exact enqueue s rfl
  | disableRetry => exact enqueue s rfl

end Heeds

theorem Course.heeds {P : Happening → Prop} {C : Call → Prop} {s t : Session} (h : Course P C s t)
    (hs : s.activity.underWay = true) : Heeds s t := by
  induction h with
  | refl => exact .of_eq rfl rfl
  | note _ _ ih => exact ih.trans (.of_eq rfl rfl)
  | @call t c h _ ih =>
    have hrun : t.activity ≠ .stopped := by
      intro hx
      have hu := h.underWay.trans hs
      rw [hx] at hu
      cases hu
    exact ih.trans (.call hrun c)
  | answer _ _ ih => exact ih.trans (.of_eq rfl rfl)
  | steer _ hu _ ih =>
    simp only [commons, Prod.mk.injEq] at hu
    exact ih.trans (.of_eq hu.2.2.2.1 hu.2.1)

theorem Step.heeds {m : Move} {s t : Session} (hs : Step m s t) (hm : ∀ id, m ≠ .connect id)
    (ht : t.activity ≠ .stopped) : Heeds { s with queue := m.left s.queue } t := by
  cases hs with
  | @driver task _ _ hw =>
    by_cases hstop : task = .stop
    · subst hstop
      cases hw with
      | collapse => exact absurd rfl ht
      | stop => exact absurd (congrArg Session.activity (helm_stop s) :) ht
    · have h := hw.course_any hstop
      cases task <;> exact h.heeds hw.underWay
  | call c =>
    have hrun : s.activity ≠ .stopped := by
      intro hx
      exact ht ((activity_of_helm (Called.call s c).helm).trans hx)
    exact Heeds.call hrun c
  | @connect _ id => exact absurd rfl (hm id)
  | returned => exact .of_eq rfl rfl
  | wait => exact .of_eq rfl rfl
  | push wire d =>
    obtain ⟨net, hp, _⟩ := push_eq s wire d
    rw [hp]
    exact .of_eq rfl rfl
  | listen => exact .of_eq rfl rfl
  | drop => exact .of_eq rfl rfl

def arrivals (m : Move) (s t : Session) : List Command :=
  t.queue.drop (m.left s.queue).length

theorem Step.arrives {m : Move} {s t : Session} (hs : Step m s t) (hm : ∀ id, m ≠ .connect id)
    (ht : t.activity ≠ .stopped) :
    t.queue = m.left s.queue ++ arrivals m s t ∧ (∀ id, .connect id ∉ arrivals m s t) ∧
      t.closing = (s.closing || decide (.close ∈ arrivals m s t)) := by
  obtain ⟨cs, hq, hcs, hc⟩ := hs.heeds hm ht
  have ha : arrivals m s t = cs := by rw [arrivals, hq]; exact List.drop_left
  rw [ha]
  exact ⟨hq, hcs, hc⟩

/-- A tick that counts: silence has lasted one more, and where it has lasted too long, the connection is gone. -/
def Minded (s t : Session) : Prop :=
  s.link.tick.1 = .nothing ∧ t.link = s.link.tick.2 ∧ t.connection = s.connection ∨
    s.link.tick.1 ≠ .nothing ∧ t.connection = none

theorem connection_attempt (s : Session) (cause : Cause) (limit : Span) :
    (s.attempt cause limit).connection = s.connection := by
  cases hb : s.link.beginConnect? with
  | none => exact (congrArg Session.connection (helm_attempt_of_none hb) :)
  | some l =>
    rw [attempt_of_some hb]
    rcases dial_cases ({ s with link := l }.publish) cause limit with ⟨fault, hd⟩ | ⟨_, _, hd⟩
    · rw [helm_attemptFailed] at hd
      exact (congrArg Session.connection hd :)
    · exact (congrArg Session.connection hd :)

theorem minded_onTick {s : Session} (hopen : s.closing = false) : Minded s s.onTick := by
  cases hd : s.link.tick.1 with
  | nothing => exact .inl ⟨hd, by rw [onTick_of_nothing hopen hd], by rw [onTick_of_nothing hopen hd]⟩
  | redial attempt backoff =>
    have hnone : (s.retrying attempt backoff).connection = none :=
      (congrArg Session.connection (helm_retrying s attempt backoff) :)
    refine .inr ⟨by simp [hd], ?_⟩
    rw [onTick_of_redial hopen hd]
    split
    · exact hnone
    · exact (connection_attempt _ _ _).trans hnone
  | giveUp => exact .inr ⟨by simp [hd], (congrArg Session.connection (helm_onTick_of_end hopen (.inl hd)) :)⟩
  | timeOut => exact .inr ⟨by simp [hd], (congrArg Session.connection (helm_onTick_of_end hopen (.inr hd)) :)⟩

theorem Works.minded {s t : Session} (hw : Works .tick s t) (hopen : s.closing = false) : Minded s t := by
  cases hw with
  | tick =>
    rcases minded_onTick (s := { s with due := s.nextDue }) hopen with ⟨hd, hl, hc⟩ | ⟨hd, hc⟩
    · exact .inl ⟨hd, hl, hc⟩
    · exact .inr ⟨hd, hc⟩

theorem Works.eq_of_closing {s t : Session} (hw : Works .tick s t) (hc : s.closing = true) :
    t = { s with due := s.nextDue } := by
  cases hw with
  | tick => exact if_pos hc

end Session

namespace Aim

open Session

/-- The four things that a call does, one after the other; others may come in between. -/
def writeFlag : Aim → Session → Session
  | .connect _, s => s.clearClosing
  | .close, s => s.raiseClosing

def handleToken : Aim → Session → Session
  | .connect _, s => s.renewGeneration
  | .close, s => s.cancel

def rouseDriver : Aim → Session → Session
  | .connect _, s => s.launch
  | .close, s => s

def submit : Aim → Session → Session
  | .connect caller, s => s.submitConnect caller
  | .close, s => s.enqueue .close

theorem writeFlag_eq (aim : Aim) (s : Session) : aim.writeFlag s = { s with closing := decide (aim = .close) } := by
  cases aim with
  | connect caller => rfl
  | close => rfl

theorem handleToken_eq (aim : Aim) (s : Session) :
    ∃ generation cancelled, aim.handleToken s = { s with generation, cancelled } := by
  cases aim with
  | connect caller =>
    simp only [handleToken, renewGeneration]
    split
    · exact ⟨_, _, rfl⟩
    · exact ⟨_, _, rfl⟩
  | close => exact ⟨_, _, rfl⟩

theorem rouseDriver_eq (aim : Aim) (s : Session) :
    aim.rouseDriver s = s ∨
      s.activity = .unstarted ∧ ∃ due, aim.rouseDriver s = { s with activity := .idle, due } := by
  cases aim with
  | connect caller =>
    simp only [rouseDriver, launch]
    split
    · rename_i hu
      exact .inr ⟨hu, _, rfl⟩
    · exact .inl rfl
  | close => exact .inl rfl

theorem activity_submit (aim : Aim) (s : Session) : (aim.submit s).activity = s.activity := by
  cases aim with
  | connect caller =>
    simp only [submit, submitConnect, enqueue]
    split
    · rfl
    · split <;> rfl
  | close =>
    simp only [submit, enqueue]
    split <;> rfl

theorem submit_eq (aim : Aim) {s : Session} (hs : s.activity ≠ .stopped) :
    ∃ callers c, aim.submit s = { s with callers, queue := s.queue ++ [c] } ∧ c.aim? = some aim := by
  have hrun (t : Session) (ht : t.activity = s.activity) : ¬t.driverStopped = true := by
    rw [driverStopped, ht]
    simpa using hs
  cases aim with
  | connect caller =>
    refine ⟨(s.setCaller caller .waiting).callers, .connect caller, ?_, rfl⟩
    rw [submit, submitConnect, if_neg (hrun s rfl), enqueue, if_neg (hrun (s.setCaller caller .waiting) rfl)]
    rfl
  | close =>
    refine ⟨s.callers, .close, ?_, rfl⟩
    rw [submit, enqueue, if_neg (hrun s rfl)]

end Aim

/-- A call to connect or to close; calls are numbered as they begin. -/
structure Bid where
  turn : Nat
  aim : Aim
  deriving DecidableEq

inductive Stage where
  | flagged
  | tokened
  | roused
  deriving DecidableEq

/-- A session with calls that are under way, all calls in the order in which they began, and in the order in
which their commands came to the queue. -/
structure Contest where
  session : Session
  pending : List (Bid × Stage)
  begun : List Bid
  enqueued : List Bid

namespace Contest

def start (s : Session) : Contest :=
  ⟨s, [], [], []⟩

/-- Calls that handlers make, whole, while the driver works. -/
def closings (r : Contest) (n : Nat) : List Bid :=
  (List.range n).map fun i => ⟨r.begun.length + i, .close⟩

def Free (r : Contest) : Aim → Prop
  | .connect caller => (caller, .ready) ∈ r.session.callers ∧ ∀ p ∈ r.pending, p.1.aim ≠ .connect caller
  | .close => True

inductive Step : Contest → Contest → Prop
  | flag {r : Contest} (aim : Aim) :
      r.Free aim →
      Step r ⟨aim.writeFlag r.session, r.pending ++ [(⟨r.begun.length, aim⟩, .flagged)],
        r.begun ++ [⟨r.begun.length, aim⟩], r.enqueued⟩
  | token {r : Contest} (before : List (Bid × Stage)) {after : List (Bid × Stage)} (b : Bid) :
      r.pending = before ++ (b, .flagged) :: after →
      Step r ⟨b.aim.handleToken r.session, before ++ (b, .tokened) :: after, r.begun, r.enqueued⟩
  | rouse {r : Contest} (before : List (Bid × Stage)) {after : List (Bid × Stage)} (b : Bid) :
      r.pending = before ++ (b, .tokened) :: after →
      Step r ⟨b.aim.rouseDriver r.session, before ++ (b, .roused) :: after, r.begun, r.enqueued⟩
  | submit {r : Contest} (before : List (Bid × Stage)) {after : List (Bid × Stage)} (b : Bid) :
      r.pending = before ++ (b, .roused) :: after →
      Step r ⟨b.aim.submit r.session, before ++ after, r.begun, r.enqueued ++ [b]⟩
  | move {r : Contest} {m : Move} {t : Session} :
      (∀ id, m ≠ .connect id) → m ≠ .call .close → Session.Step m r.session t →
      Step r ⟨t, r.pending, r.begun ++ r.closings ((Session.arrivals m r.session t).count .close),
        r.enqueued ++ r.closings ((Session.arrivals m r.session t).count .close)⟩

open Relation (ReflTransGen)

def Reachable (r : Contest) : Prop :=
  ∃ setup credentials handlers net gate, ReflTransGen Step (.start (.start setup credentials handlers net gate)) r

/-- The call to close that was the last of all to begin has sent its command ahead of that of a call to
connect. -/
def Overtakes (r : Contest) : Prop :=
  ∃ x y before between after, r.begun.getLast? = some x ∧ x.aim = .close ∧ (∃ id, y.aim = .connect id) ∧
    r.enqueued = before ++ x :: between ++ y :: after

theorem aims_closings (r : Contest) (n : Nat) : (r.closings n).map Bid.aim = List.replicate n .close := by
  rw [closings, List.map_map, List.eq_replicate_iff]
  refine ⟨by simp, ?_⟩
  intro a ha
  obtain ⟨i, _, rfl⟩ := List.mem_map.1 ha
  rfl

theorem aims_of_arrivals {cs : List Command} (h : ∀ id, .connect id ∉ cs) :
    cs.filterMap Command.aim? = List.replicate (cs.count .close) .close := by
  induction cs with
  | nil => rfl
  | cons c cs ih =>
    have ih := ih fun id hid => h id (List.mem_cons_of_mem _ hid)
    cases hc : c.aim? with
    | none =>
      have hne : c ≠ .close := by
        rintro rfl
        cases hc
      rw [List.filterMap_cons_none hc, ih, List.count_cons_of_ne hne]
    | some aim =>
      rcases Command.aim?_eq_some hc with ⟨id, rfl, _⟩ | ⟨rfl, rfl⟩
      · exact absurd List.mem_cons_self (h id)
      · rw [List.filterMap_cons_some hc, ih, List.count_cons_self, List.replicate_succ]

/-- While the driver has not stopped, the flag is what the call that began last has made it, and the driver
comes to the commands in the order of the queue. -/
structure Tracks (r : Contest) : Prop where
  coherent : r.session.Coherent
  flag : r.session.closing = true ↔ ∃ b, r.begun.getLast? = some b ∧ b.aim = .close
  known : ∀ b ∈ r.begun, b ∈ r.enqueued ∨ ∃ stage, (b, stage) ∈ r.pending
  served : ∃ done rest, r.enqueued = done ++ rest ∧ rest.map Bid.aim = r.session.aims ∧
    ∀ b, done.getLast? = some b → b.aim = .close → r.session.Shut

variable {r q : Contest} {before after : List (Bid × Stage)} {b : Bid}

theorem Step.stopped (hs : Step r q) (hr : r.session.activity = .stopped) : q.session.activity = .stopped := by
  cases hs with
  | flag aim =>
    rw [aim.writeFlag_eq]
    exact hr
  | token _ b =>
    obtain ⟨_, _, hs⟩ := b.aim.handleToken_eq r.session
    rw [hs]
    exact hr
  | rouse _ b =>
    rcases b.aim.rouseDriver_eq r.session with hs | ⟨hu, _⟩
    · rw [hs]
      exact hr
    · rw [hr] at hu
      cases hu
  | submit _ b => exact (b.aim.activity_submit r.session).trans hr
  | move _ _ hs => exact hs.stopped hr

namespace Tracks

theorem start (setup : Setup) (credentials : Credentials) (handlers : Handlers Handler) (net : Net)
    (gate : ConnectRequest → Option TransportFault) :
    (start (.start setup credentials handlers net gate)).Tracks where
  coherent := Session.coherent_start ..
  flag := by simp [Contest.start, Session.start]
  known := by simp [Contest.start]
  served := ⟨[], [], rfl, rfl, by simp⟩

theorem prepared (h : r.Tracks) {s : Session} (hq : s.queue = r.session.queue) (hc : s.Coherent)
    (hs : r.session.Shut → s.Shut) {pending : List (Bid × Stage)} {begun : List Bid}
    (hf : s.closing = true ↔ ∃ b, begun.getLast? = some b ∧ b.aim = .close)
    (hk : ∀ b ∈ begun, b ∈ r.enqueued ∨ ∃ stage, (b, stage) ∈ pending) :
    Tracks ⟨s, pending, begun, r.enqueued⟩ where
  coherent := hc
  flag := hf
  known := hk
  served := by
    obtain ⟨done, rest, he, ha, hd⟩ := h.served
    refine ⟨done, rest, he, ?_, ?_⟩
    · rw [ha, Session.aims, Session.aims, hq]
    · intro b hb hclose
      exact hs (hd b hb hclose)

theorem flagged (h : r.Tracks) (aim : Aim) :
    Tracks ⟨aim.writeFlag r.session, r.pending ++ [(⟨r.begun.length, aim⟩, .flagged)],
      r.begun ++ [⟨r.begun.length, aim⟩], r.enqueued⟩ := by
  rw [aim.writeFlag_eq]
  apply h.prepared
  · rfl
  · exact h.coherent.of_helm rfl
  · intro hs
    exact hs.of_helm rfl
  · simp
  · intro b hb
    rcases List.mem_append.1 hb with hb | hb
    · exact (h.known b hb).imp_right fun ⟨stage, hp⟩ => ⟨stage, List.mem_append_left _ hp⟩
    · exact .inr ⟨.flagged, by simp [List.mem_singleton.1 hb]⟩

theorem known_of_stage (h : r.Tracks) {stage next : Stage} (hp : r.pending = before ++ (b, stage) :: after) :
    ∀ c ∈ r.begun, c ∈ r.enqueued ∨ ∃ stage, (c, stage) ∈ before ++ (b, next) :: after := by
  intro c hc
  refine (h.known c hc).imp_right ?_
  rintro ⟨old, hold⟩
  rw [hp] at hold
  simp only [List.mem_append, List.mem_cons, Prod.mk.injEq] at hold ⊢
  rcases hold with hold | ⟨rfl, _⟩ | hold
  · exact ⟨old, .inl hold⟩
  · exact ⟨next, .inr (.inl ⟨rfl, rfl⟩)⟩
  · exact ⟨old, .inr (.inr hold)⟩

theorem tokened (h : r.Tracks) (hp : r.pending = before ++ (b, .flagged) :: after) :
    Tracks ⟨b.aim.handleToken r.session, before ++ (b, .tokened) :: after, r.begun, r.enqueued⟩ := by
  obtain ⟨generation, cancelled, hs⟩ := b.aim.handleToken_eq r.session
  rw [hs]
  have hc := h.coherent
  apply h.prepared
  · rfl
  · exact ⟨hc.published, hc.held, hc.dialing, hc.unstarted, hc.wire⟩
  · intro hs
    exact ⟨hs.phase, hs.published, hs.connection, hs.countdown⟩
  · exact h.flag
  · exact h.known_of_stage hp

theorem roused (h : r.Tracks) (hp : r.pending = before ++ (b, .tokened) :: after) :
    Tracks ⟨b.aim.rouseDriver r.session, before ++ (b, .roused) :: after, r.begun, r.enqueued⟩ := by
  have hc := h.coherent
  rcases b.aim.rouseDriver_eq r.session with hs | ⟨hu, due, hs⟩
  · rw [hs]
    exact h.prepared rfl hc id h.flag (h.known_of_stage hp)
  · rw [hs]
    have hi : Session.Coherent { r.session with activity := .idle } := hc.turn (by simp [hc.unstarted hu]) rfl (by simp)
    apply h.prepared
    · rfl
    · exact ⟨hi.published, hi.held, hi.dialing, hi.unstarted, hi.wire⟩
    · intro hs
      exact ⟨hs.phase, hs.published, hs.connection, hs.countdown⟩
    · exact h.flag
    · exact h.known_of_stage hp

theorem submitted (h : r.Tracks) (hr : r.session.activity ≠ .stopped)
    (hp : r.pending = before ++ (b, .roused) :: after) :
    Tracks ⟨b.aim.submit r.session, before ++ after, r.begun, r.enqueued ++ [b]⟩ := by
  obtain ⟨callers, c, hs, ha⟩ := b.aim.submit_eq hr
  obtain ⟨done, rest, he, hrest, hd⟩ := h.served
  rw [hs]
  constructor
  case coherent => exact h.coherent.of_helm rfl
  case flag => exact h.flag
  case known =>
    intro c hin
    rcases h.known c hin with hin | ⟨stage, hin⟩
    · exact .inl (List.mem_append_left _ hin)
    · rw [hp] at hin
      simp only [List.mem_append, List.mem_cons, Prod.mk.injEq] at hin ⊢
      rcases hin with hin | ⟨rfl, _⟩ | hin
      · exact .inr ⟨stage, .inl hin⟩
      · exact .inl (.inr (.inl rfl))
      · exact .inr ⟨stage, .inr hin⟩
  case served =>
    refine ⟨done, rest ++ [b], ?_, ?_, ?_⟩
    · rw [he, List.append_assoc]
    · rw [List.map_append, hrest, Session.aims, Session.aims, List.filterMap_append, List.filterMap_cons_some ha]
      rfl
    · intro c hlast hclose
      exact (hd c hlast hclose).of_helm rfl

theorem moved (h : r.Tracks) {m : Move} {t : Session} (hm : ∀ id, m ≠ .connect id)
    (hs : Session.Step m r.session t) (ht : t.activity ≠ .stopped) :
    Tracks ⟨t, r.pending, r.begun ++ r.closings ((Session.arrivals m r.session t).count .close),
      r.enqueued ++ r.closings ((Session.arrivals m r.session t).count .close)⟩ := by
  obtain ⟨hq, hcs, hcl⟩ := hs.arrives hm ht
  generalize hn : (Session.arrivals m r.session t).count .close = n
  obtain ⟨done, rest, he, hrest, hd⟩ := h.served
  have haims : t.aims = (m.left r.session.queue).filterMap Command.aim? ++ (r.closings n).map Bid.aim := by
    rw [Session.aims, hq, List.filterMap_append, aims_of_arrivals hcs, hn, aims_closings]
  constructor
  case coherent => exact hs.coherent h.coherent ht
  case flag =>
    cases n with
    | zero =>
      have hnone : Command.close ∉ Session.arrivals m r.session t := List.count_eq_zero.1 hn
      rw [hcl, decide_eq_false hnone, Bool.or_false]
      simpa [closings] using h.flag
    | succ n =>
      have hsome : Command.close ∈ Session.arrivals m r.session t := List.count_pos_iff.1 (by omega)
      rw [hcl, decide_eq_true hsome, Bool.or_true]
      simp [closings, List.range_succ]
  case known =>
    intro b hb
    rcases List.mem_append.1 hb with hb | hb
    · exact (h.known b hb).imp_left (List.mem_append_left _)
    · exact .inl (List.mem_append_right _ hb)
  case served =>
    by_cases hmove : m = .driver .command
    · subst hmove
      cases hs with
      | driver hw =>
        cases hw with
        | @command _ c queue hi hf hqueue =>
          have hw := Session.Step.driver (Session.Works.command hi hf hqueue)
          rw [Session.aims, hqueue] at hrest
          rw [Move.left, if_pos rfl, hqueue, List.tail_cons] at haims
          cases hc : c.aim? with
          | none =>
            rw [List.filterMap_cons_none hc] at hrest
            refine ⟨done, rest ++ r.closings n, by rw [he, List.append_assoc], ?_, ?_⟩
            · rw [List.map_append, hrest, haims]
            · intro b hb hclose
              refine (hd b hb hclose).step (fun _ => h.coherent) hw (by simp) ?_
              intro _ id hid
              rw [hqueue] at hid
              rw [Option.some.inj hid] at hc
              cases hc
          | some aim =>
            rw [List.filterMap_cons_some hc] at hrest
            obtain ⟨b, later, rfl, hb, hlater⟩ := List.map_eq_cons_iff.1 hrest
            refine ⟨done ++ [b], later ++ r.closings n, ?_, ?_, ?_⟩
            · rw [he, List.append_assoc, List.append_assoc]
              rfl
            · rw [List.map_append, hlater, haims]
            · intro last hlast hclose
              rw [List.getLast?_concat, Option.some.injEq] at hlast
              subst hlast
              rcases Command.aim?_eq_some hc with ⟨id, _, rfl⟩ | ⟨rfl, _⟩
              · rw [hb] at hclose
                cases hclose
              · exact Session.shut_shut _
    · rw [Move.left, if_neg hmove] at haims
      refine ⟨done, rest ++ r.closings n, by rw [he, List.append_assoc], ?_, ?_⟩
      · rw [List.map_append, hrest, haims]
        rfl
      · intro b hb hclose
        exact (hd b hb hclose).step (fun _ => h.coherent) hs hm fun hx => absurd hx hmove

theorem step (h : r.session.activity ≠ .stopped → r.Tracks) (hs : Step r q) (hq : q.session.activity ≠ .stopped) :
    q.Tracks := by
  have h := h fun hr => hq (hs.stopped hr)
  cases hs with
  | flag aim => exact h.flagged aim
  | token _ _ hp => exact h.tokened hp
  | rouse _ _ hp => exact h.roused hp
  | submit _ _ hp =>
    rw [Aim.activity_submit] at hq
    exact h.submitted hq hp
  | move hm _ hs => exact h.moved hm hs hq

/-- What the flag says comes from the call that began last, what the driver has done from the command that came
last; where the two calls are not the same, one has overtaken the other. -/
theorem closing_iff (h : r.Tracks) (hp : r.pending = []) (hq : r.session.queue = [])
    (hl : r.session.link.connected = true) : r.session.closing = true ↔ r.Overtakes := by
  rw [h.flag]
  constructor
  case mpr =>
    rintro ⟨x, _, _, _, _, hx, hclose, _⟩
    exact ⟨x, hx, hclose⟩
  case mp =>
    rintro ⟨x, hx, hclose⟩
    obtain ⟨done, rest, he, hrest, hdone⟩ := h.served
    obtain rfl : rest = [] := by
      rw [Session.aims, hq] at hrest
      exact List.map_eq_nil_iff.1 hrest
    rw [List.append_nil] at he
    have hin : x ∈ done := by
      rcases h.known x (List.mem_of_getLast? hx) with hin | ⟨_, hin⟩
      · exact he ▸ hin
      · rw [hp] at hin
        cases hin
    obtain ⟨earlier, y, rfl⟩ : ∃ earlier y, done = earlier ++ [y] :=
      ⟨_, _, (List.dropLast_concat_getLast (List.ne_nil_of_mem hin)).symm⟩
    -- the driver would not be connected if the last command had been to close
    have hy : y.aim ≠ .close := by
      intro hy
      have hshut := hdone y List.getLast?_concat hy
      rw [Link.connected, hshut.phase] at hl
      cases hl
    rcases List.mem_append.1 hin with hin | hin
    · obtain ⟨before, between, rfl⟩ := List.append_of_mem hin
      refine ⟨x, y, before, between, [], hx, hclose, ?_, he⟩
      cases haim : y.aim with
      | connect id => exact ⟨id, rfl⟩
      | close => exact absurd haim hy
    · rw [List.mem_singleton.1 hin] at hclose
      exact absurd hclose hy

end Tracks

theorem Reachable.tracks (h : r.Reachable) (hs : r.session.activity ≠ .stopped) : r.Tracks := by
  obtain ⟨setup, credentials, handlers, net, gate, hr⟩ := h
  induction hr with
  | refl => exact .start setup credentials handlers net gate
  | tail _ hstep ih => exact Tracks.step ih hstep hs

/-- A connected driver minds its watchdog, but for one case: closing raised the flag last and asked the driver
first. -/
theorem watchdog_effective_iff (h : r.Reachable) (hs : r.session.activity ≠ .stopped) (hp : r.pending = [])
    (hq : r.session.queue = []) (hl : r.session.link.connected = true) :
    (r.session.closing = true ↔ r.Overtakes) ∧
      ∀ t, Session.Works .tick r.session t →
        (r.Overtakes → t = { r.session with due := r.session.nextDue }) ∧ (¬r.Overtakes → Session.Minded r.session t) := by
  have hiff := (h.tracks hs).closing_iff hp hq hl
  refine ⟨hiff, fun t ht => ⟨fun hover => ?_, fun hover => ?_⟩⟩
  · exact ht.eq_of_closing (hiff.2 hover)
  · exact ht.minded (Bool.eq_false_iff.2 fun hc => hover (hiff.1 hc))

def asked : Contest :=
  .start (Session.start .standard ⟨"key", "token"⟩ .none
    (.start [] ⟨.accept .smooth, 0⟩) fun _ => none).requestConnect

theorem reachable_asked : asked.Reachable := by
  refine ⟨.standard, ⟨"key", "token"⟩, .none, .start [] ⟨.accept .smooth, 0⟩, fun _ => none, .single ?_⟩
  exact .move (m := .call .connect) (by simp) (by simp) (.call .connect _)

theorem Reachable.tail (h : r.Reachable) (hs : Step r q) : q.Reachable := by
  obtain ⟨setup, credentials, handlers, net, gate, hr⟩ := h
  exact ⟨setup, credentials, handlers, net, gate, hr.tail hs⟩

/-- Closing begins before the call to connect and comes to the queue before it, too. -/
theorem watchdog_effective_iff_of_overlap :
    ∃ r : Contest, r.begun = [⟨0, .close⟩, ⟨1, .connect 1⟩] ∧ r.session.link.connected = true ∧
      r.session.closing = false ∧ ¬r.Overtakes := by
  have h1 := reachable_asked.tail (.flag .close trivial)
  have h2 := h1.tail (.flag (.connect 1) ⟨List.mem_cons_self, by simp [asked, start]⟩)
  have h3 := h2.tail (.token [] ⟨0, .close⟩ rfl)
  have h4 := h3.tail (.token [_] ⟨1, .connect 1⟩ rfl)
  have h5 := h4.tail (.rouse [] ⟨0, .close⟩ rfl)
  have h6 := h5.tail (.rouse [_] ⟨1, .connect 1⟩ rfl)
  have h7 := h6.tail (.submit [] ⟨0, .close⟩ rfl)
  have h8 := h7.tail (.submit [] ⟨1, .connect 1⟩ rfl)
  have h9 := h8.tail (.move (m := .driver .command) (by simp) (by simp) (.driver (.command rfl rfl rfl)))
  have h10 := h9.tail (.move (m := .driver .command) (by simp) (by simp) (.driver (.command rfl rfl rfl)))
  have h11 := h10.tail (.move (m := .driver .handshake) (by simp) (by simp) (.driver (.handshake rfl rfl)))
  have h12 := h11.tail (.move (m := .driver .restore) (by simp) (by simp) (.driver (.conclude rfl)))
  have hw := watchdog_effective_iff h12 (by decide) rfl rfl rfl
  exact ⟨_, rfl, rfl, rfl, mt hw.1.2 (by decide)⟩

/-- Closing begins after the call to connect and comes to the queue before it: the driver connects with the
flag up, and no tick finds it dead. -/
theorem overtaking_close_blinds_watchdog :
    ∃ r : Contest, r.Reachable ∧ r.begun = [⟨0, .connect 1⟩, ⟨1, .close⟩] ∧
      r.enqueued = [⟨1, .close⟩, ⟨0, .connect 1⟩] ∧ r.pending = [] ∧ r.session.queue = [] ∧
      r.session.activity = .idle ∧ r.session.link.connected = true ∧ r.session.closing = true ∧
      ∀ t, Session.Works .tick r.session t → t = { r.session with due := r.session.nextDue } := by
  have h1 := reachable_asked.tail (.flag (.connect 1) ⟨List.mem_cons_self, by simp [asked, start]⟩)
  have h2 := h1.tail (.flag .close trivial)
  have h3 := h2.tail (.token [_] ⟨1, .close⟩ rfl)
  have h4 := h3.tail (.rouse [_] ⟨1, .close⟩ rfl)
  have h5 := h4.tail (.submit [_] ⟨1, .close⟩ rfl)
  have h6 := h5.tail (.token [] ⟨0, .connect 1⟩ rfl)
  have h7 := h6.tail (.rouse [] ⟨0, .connect 1⟩ rfl)
  have h8 := h7.tail (.submit [] ⟨0, .connect 1⟩ rfl)
  have h9 := h8.tail (.move (m := .driver .command) (by simp) (by simp) (.driver (.command rfl rfl rfl)))
  have h10 := h9.tail (.move (m := .driver .command) (by simp) (by simp) (.driver (.command rfl rfl rfl)))
  have h11 := h10.tail (.move (m := .driver .handshake) (by simp) (by simp) (.driver (.handshake rfl rfl)))
  have h12 := h11.tail (.move (m := .driver .restore) (by simp) (by simp) (.driver (.conclude rfl)))
  exact ⟨_, h12, rfl, rfl, rfl, rfl, rfl, rfl, rfl, fun t ht => ht.eq_of_closing rfl⟩

end Contest

end MarketTicker
