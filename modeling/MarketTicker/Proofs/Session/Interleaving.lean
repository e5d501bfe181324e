import Mathlib.Logic.Relation
import MarketTicker.Proofs.Session.Convergence
import MarketTicker.Proofs.Session.Scenario

namespace MarketTicker

namespace Control

theorem actOn_of_notMem {t : Token} {c : Control} (h : t ∉ c.tokens) (m : Option Mode) : c.actOn t m = m := by
  cases c with
  | subscribe ts => exact if_neg h
  | unsubscribe ts => exact if_neg h
  | mode k ts => exact if_neg h

theorem serve_filter (t : Token) (m : Option Mode) (cs : List Control) :
    serve t m (cs.filter (t ∈ ·.tokens)) = serve t m cs := by
  induction cs generalizing m with
  | nil => rfl
  | cons c cs ih =>
    by_cases hc : t ∈ c.tokens
    · rw [List.filter_cons_of_pos (by simpa using hc), serve_cons, serve_cons, ih]
    · rw [List.filter_cons_of_neg (by simpa using hc), serve_cons, actOn_of_notMem hc, ih]

end Control

structure Letter where
  caller : Nat
  control : Control
  deriving DecidableEq

namespace Letter

def names (t : Token) (l : Letter) : Bool :=
  decide (t ∈ l.control.tokens)

def naming (t : Token) (ls : List Letter) : List Control :=
  (ls.filter (names t)).map control

theorem serve_naming (t : Token) (m : Option Mode) (ls : List Letter) :
    Control.serve t m (naming t ls) = Control.serve t m (ls.map control) := by
  rw [← Control.serve_filter t m (ls.map control), List.filter_map]
  rfl

end Letter

namespace Session

def sendFault? (s : Session) : Option TransportFault :=
  s.connection.bind fun wire => (s.net.wire? wire).bind Wire.sendFault?

theorem Works.sends {s t : Session} {wire : Nat} {control : Control} {rest : List Command}
    (hw : Works .command s t) (hq : s.queue = .send control :: rest) (hl : s.link.connected = true)
    (hc : s.connection = some wire) (hf : s.sendFault? = none) :
    t.activity = s.activity ∧ t.link = s.link ∧ t.connection = s.connection ∧ t.watchlist = s.watchlist ∧
      t.queue = rest ∧ t.sentOn wire = s.sentOn wire ++ [control] := by
  cases hw with
  | @command _ c rest' _ _ hq' =>
    obtain ⟨rfl, rfl⟩ := List.cons.inj (hq'.symm.trans hq)
    have hsend : handleCommand { s with queue := rest' } (.send control) =
        transmit { s with queue := rest' } wire control := by
      simp [handleCommand, Session.send, hl, hc]
    have hf : (s.net.wire? wire).bind Wire.sendFault? = none := by simpa [sendFault?, hc] using hf
    have hsound : (({ s with queue := rest' } : Session).net.wire? wire).bind Wire.sendFault? = none := hf
    obtain ⟨hwatch, hqueue, hsent⟩ := transmit_of_sound hsound control
    have hh := helm_transmit { s with queue := rest' } wire control
    rw [hsend]
    refine ⟨(congrArg Session.activity hh :), (congrArg Session.link hh :), (congrArg Session.connection hh :),
      hwatch, hqueue, ?_⟩
    rw [hsent, if_pos rfl]
    rfl

/-- Connected and idle, and the server streams what the watchlist holds. -/
structure Level (s : Session) (wire : Nat) : Prop where
  idle : s.activity = .idle
  connected : s.link.connected = true
  connection : s.connection = some wire
  queue : s.queue = []
  served : s.served wire = s.watchlist.mode?

/-- A session and its callers, each of whom changes the watchlist first and enqueues its message later.
The letters are those still to be enqueued, then all of them in the order in which the watchlist took
note of them, and in the order in which they were enqueued. -/
structure Interleaving where
  session : Session
  pending : List Letter
  noted : List Letter
  enqueued : List Letter

namespace Interleaving

def start (s : Session) : Interleaving :=
  ⟨s, [], [], []⟩

inductive Step : Interleaving → Interleaving → Prop
  | note {r : Interleaving} {t : Session} {c : Call} {control : Control} (caller : Nat) :
      (∀ l ∈ r.pending, l.caller ≠ caller) → r.session.beginCall c = some (t, control) →
      Step r ⟨t, r.pending ++ [⟨caller, control⟩], r.noted ++ [⟨caller, control⟩], r.enqueued⟩
  | ineffective {r : Interleaving} {c : Call} :
      c.bystanding = false → r.session.beginCall c = none → Step r { r with session := r.session.call c }
  | enqueue {r : Interleaving} (before : List Letter) {after : List Letter} {l : Letter} :
      r.pending = before ++ l :: after →
      Step r ⟨r.session.finishCall l.control, before ++ after, r.noted, r.enqueued ++ [l]⟩
  | send {r : Interleaving} {t : Session} {control : Control} {rest : List Command} :
      r.session.queue = .send control :: rest → r.session.sendFault? = none → Works .command r.session t →
      Step r { r with session := t }

/-- The messages that name an instrument came to the queue in the order of the watchlist. -/
def InOrder (r : Interleaving) (t : Token) : Prop :=
  Letter.naming t r.noted = Letter.naming t r.enqueued

/-- The watchlist follows one order of the messages, and the wire the other. -/
structure Tracks (wire : Nat) (origin : Token → Option Mode) (r : Interleaving) : Prop where
  idle : r.session.activity = .idle
  connected : r.session.link.connected = true
  connection : r.session.connection = some wire
  watchlist : ∀ t, r.session.watchlist.mode? t = Control.serve t (origin t) (r.noted.map Letter.control)
  served : ∀ t, Control.serve t (r.session.served wire t) r.session.messages =
    Control.serve t (origin t) (r.enqueued.map Letter.control)

namespace Tracks

variable {wire : Nat} {origin : Token → Option Mode} {r q : Interleaving}

theorem start {s : Session} (h : s.Level wire) : (start s).Tracks wire s.watchlist.mode? where
  idle := h.idle
  connected := h.connected
  connection := h.connection
  watchlist _ := rfl
  served t := by
    simp only [Interleaving.start, messages, h.served, h.queue]
    rfl

theorem of_helm (h : r.Tracks wire origin) (hh : q.session.helm = r.session.helm)
    (hw : ∀ t, q.session.watchlist.mode? t = Control.serve t (origin t) (q.noted.map Letter.control))
    (hs : ∀ t, Control.serve t (q.session.served wire t) q.session.messages =
      Control.serve t (origin t) (q.enqueued.map Letter.control)) : q.Tracks wire origin where
  idle := (activity_of_helm hh).trans h.idle
  connected := (congrArg (fun s => s.link.connected) hh :).trans h.connected
  connection := (congrArg Session.connection hh :).trans h.connection
  watchlist := hw
  served := hs

theorem step (h : r.Tracks wire origin) (hs : Step r q) : q.Tracks wire origin := by
  cases hs with
  | @note t c control caller _ hb =>
    have hc := called_of_begun hb
    obtain ⟨hm, hx⟩ := begun hb
    refine h.of_helm hc.helm ?_ ?_
    · intro x
      obtain ⟨_, hx⟩ := hx x
      rw [hx, h.watchlist, List.map_append, Control.serve_append]
      rfl
    · intro x
      rw [hm, served_congr hc.sentOn]
      exact h.served x
  | @ineffective c _ hb =>
    have hc := Called.call r.session c
    obtain ⟨hw, hm⟩ := call_of_unbegun hb
    refine h.of_helm hc.helm ?_ ?_
    · intro x
      rw [hw]
      exact h.watchlist x
    · intro x
      rw [hm, served_congr hc.sentOn]
      exact h.served x
  | @enqueue before after l hp =>
    have hc := called_finishCall r.session l.control
    have hu : r.session.activity.underWay = true := by rw [h.idle]; rfl
    refine h.of_helm hc.helm ?_ ?_
    · intro x
      rw [finishCall, watchlist_enqueueOnWire]
      exact h.watchlist x
    · intro x
      rw [messages_finishCall hu, served_congr hc.sentOn, Control.serve_append, h.served, List.map_append,
        Control.serve_append]
      rfl
  | @send t control rest hq hf hw =>
    obtain ⟨ha, hl, hc, hwatch, hqueue, hsent⟩ := hw.sends hq h.connected h.connection hf
    have hm : r.session.messages = control :: t.messages := by rw [messages, messages, hq, hqueue]; rfl
    refine ⟨ha.trans h.idle, (congrArg Link.connected hl).trans h.connected, hc.trans h.connection, ?_, ?_⟩
    · intro x
      rw [hwatch]
      exact h.watchlist x
    · intro x
      rw [← h.served, hm, Session.served, hsent, Control.serve_append]
      rfl

theorem run (h : r.Tracks wire origin) (hr : Relation.ReflTransGen Step r q) : q.Tracks wire origin := by
  induction hr with
  | refl => exact h
  | tail _ hs ih => exact ih.step hs

theorem served_eq (h : r.Tracks wire origin) (hq : r.session.queue = []) {t : Token} (ht : r.InOrder t) :
    r.session.served wire t = r.session.watchlist.mode? t := by
  have hempty : r.session.messages = [] := by rw [messages, hq]; rfl
  calc r.session.served wire t
      = Control.serve t (r.session.served wire t) r.session.messages := by rw [hempty]; rfl
    _ = Control.serve t (origin t) (Letter.naming t r.enqueued) := by rw [h.served, Letter.serve_naming]
    _ = Control.serve t (origin t) (Letter.naming t r.noted) := by rw [ht]
    _ = r.session.watchlist.mode? t := by rw [h.watchlist, Letter.serve_naming]

end Tracks

end Interleaving

section

variable {s : Session} {r : Interleaving} {wire : Nat} {t : Token}

open Relation (ReflTransGen)

theorem served_of_order_kept (hs : s.Level wire) (hr : ReflTransGen Interleaving.Step (.start s) r)
    (hq : r.session.queue = []) (ht : r.InOrder t) : r.session.served wire t = r.session.watchlist.mode? t := by
  have htracks := (Interleaving.Tracks.start hs).run hr
  exact htracks.served_eq hq ht

def justConnected : Session :=
  ((start .standard ⟨"key", "token"⟩ .none (.start [] ⟨.accept .smooth, 0⟩) fun _ => none).perform (.call .connect)).2

theorem reachable_justConnected : justConnected.Reachable := by
  obtain ⟨ms, hms⟩ := run_perform
    (start .standard ⟨"key", "token"⟩ .none (.start [] ⟨.accept .smooth, 0⟩) fun _ => none) (.call .connect)
  exact ⟨_, _, _, _, _, ms, hms⟩

theorem level_justConnected : justConnected.Level 0 :=
  ⟨rfl, rfl, rfl, rfl, rfl⟩

/-- The second caller's message overtakes the first one's, but they name different instruments. -/
theorem served_of_order_kept_of_overtaken :
    ∃ r : Interleaving, r.session.sentOn 0 = [.subscribe [9], .subscribe [7], .mode .full [9]] ∧
      r.noted = [⟨1, .subscribe [7]⟩, ⟨2, .subscribe [9]⟩, ⟨1, .mode .full [9]⟩] ∧ r.InOrder 9 ∧
      r.session.served 0 9 = r.session.watchlist.mode? 9 ∧ r.session.watchlist.mode? 9 = some .full := by
  have h1 := ReflTransGen.refl.tail
    (Interleaving.Step.note (r := .start justConnected) (c := .subscribe [7]) 1 (by simp [Interleaving.start]) rfl)
  have h2 := h1.tail (.note (c := .subscribe [9]) 2 (by simp [Interleaving.start]) rfl)
  have h3 := h2.tail (.enqueue [_] rfl)
  have h4 := h3.tail (.send rfl rfl (.command rfl rfl rfl))
  have h5 := h4.tail (.enqueue [] rfl)
  have h6 := h5.tail (.note (c := .setMode [9] .full) 1 (by simp) rfl)
  have h7 := h6.tail (.send rfl rfl (.command rfl rfl rfl))
  have h8 := h7.tail (.enqueue [] rfl)
  have h9 := h8.tail (.send rfl rfl (.command rfl rfl rfl))
  have hserved := served_of_order_kept (t := 9) level_justConnected h9 rfl rfl
  refine ⟨_, ?_, ?_, ?_, hserved, ?_⟩
  · rfl
  · rfl
  · rfl
  · rfl

/-- Two callers name one instrument, and their messages come to the queue the other way round. -/
theorem crossed_calls_diverge :
    ∃ (s : Session) (r : Interleaving), s.Reachable ∧ s.Level 0 ∧ ReflTransGen Interleaving.Step (.start s) r ∧
      r.noted = [⟨1, .subscribe [7]⟩, ⟨2, .unsubscribe [7]⟩] ∧ r.pending = [] ∧ r.session.queue = [] ∧
      r.session.watchlist.mode? 7 = none ∧ r.session.served 0 7 = some .quote := by
  have h1 := ReflTransGen.refl.tail
    (Interleaving.Step.note (r := .start justConnected) (c := .subscribe [7]) 1 (by simp [Interleaving.start]) rfl)
  have h2 := h1.tail (.note (c := .unsubscribe [7]) 2 (by simp [Interleaving.start]) rfl)
  have h3 := h2.tail (.enqueue [_] rfl)
  have h4 := h3.tail (.enqueue [] rfl)
  have h5 := h4.tail (.send rfl rfl (.command rfl rfl rfl))
  have h6 := h5.tail (.send rfl rfl (.command rfl rfl rfl))
  exact ⟨justConnected, _, reachable_justConnected, level_justConnected, h6, rfl, rfl, rfl, rfl, rfl⟩

end

end Session

end MarketTicker
