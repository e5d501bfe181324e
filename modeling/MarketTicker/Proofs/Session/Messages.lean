import MarketTicker.Proofs.Session.Course
import MarketTicker.Proofs.Subscription.Server

namespace MarketTicker

def Command.message? : Command → Option Control
  | .send c => some c
  | _ => none

def Call.bystanding : Call → Bool
  | .subscribe _ => false
  | .unsubscribe _ => false
  | .setMode _ _ => false
  | _ => true

namespace Session

def messages (s : Session) : List Control :=
  s.queue.filterMap Command.message?

/-- A subscription call up to its message, which is still to be enqueued. -/
def beginCall (s : Session) : Call → Option (Session × Control)
  | .subscribe tokens => if tokens = [] then none else some (s.noteSubscribe tokens, .subscribe tokens)
  | .unsubscribe tokens => if tokens = [] then none else some (s.noteUnsubscribe tokens, .unsubscribe tokens)
  | .setMode tokens mode =>
    if tokens = [] then none
    else match s.noteSetMode tokens mode with
      | (_, none) => none
      | (t, some control) => some (t, control)
  | _ => none

def finishCall (s : Session) (control : Control) : Session :=
  s.enqueueOnWire (.send control)

theorem call_of_begun {s t : Session} {c : Call} {control : Control} (h : s.beginCall c = some (t, control)) :
    s.call c = t.finishCall control := by
  unfold beginCall at h
  split at h
  · split at h
    · cases h
    · rename_i hne
      cases h
      exact if_neg hne
  · split at h
    · cases h
    · rename_i hne
      cases h
      exact if_neg hne
  · split at h
    · cases h
    · rename_i hne
      split at h
      · cases h
      · rename_i hnote
        cases h
        simp only [call, setMode, if_neg hne, hnote]
        rfl
  · cases h

theorem beginCall_of_bystanding (s : Session) {c : Call} (h : c.bystanding = true) :
    s.beginCall c = none := by
  cases c <;> first | rfl | cases h

theorem called_of_begun {s t : Session} {c : Call} {control : Control}
    (h : s.beginCall c = some (t, control)) : Called s t := by
  unfold beginCall at h
  split at h
  · split at h
    · cases h
    · cases h
      exact Called.noteSubscribe s _
  · split at h
    · cases h
    · cases h
      exact Called.noteUnsubscribe s _
  · rename_i tokens mode
    split at h
    · cases h
    · have hnote := Called.noteSetMode s tokens mode
      split at h
      · cases h
      · rename_i hset
        cases h
        rwa [hset] at hnote
  · cases h

theorem called_finishCall (s : Session) (control : Control) : Called s (s.finishCall control) :=
  Called.enqueueOnWire s (by simp)

theorem begun {s t : Session} {c : Call} {control : Control} (h : s.beginCall c = some (t, control)) :
    t.messages = s.messages ∧
      ∀ x, control.Apt x (s.watchlist.mode? x) ∧
        t.watchlist.mode? x = control.actOn x (s.watchlist.mode? x) := by
  unfold beginCall at h
  split at h
  · split at h
    · cases h
    · cases h
      exact ⟨rfl, fun x => ⟨trivial, Watchlist.actOn_subscribe _ _ x⟩⟩
  · split at h
    · cases h
    · cases h
      exact ⟨rfl, fun x => ⟨trivial, Watchlist.actOn_unsubscribe _ _ x⟩⟩
  · split at h
    · cases h
    · split at h
      · cases h
      · rename_i hnote
        cases h
        unfold noteSetMode at hnote
        dsimp only at hnote
        split at hnote
        · cases hnote
        · cases hnote
          exact ⟨rfl, fun x => ⟨Watchlist.apt_setMode _ _ _ x, Watchlist.actOn_setMode _ _ _ x⟩⟩
  · cases h

theorem messages_enqueue (s : Session) {c : Command} (hc : c.message? = none) :
    (s.enqueue c).messages = s.messages := by
  unfold enqueue
  split
  · rfl
  · simp [messages, List.filterMap_append, hc]

theorem messages_enqueueOnWire (s : Session) {c : Command} (hc : c.message? = none) :
    (s.enqueueOnWire c).messages = s.messages := by
  unfold enqueueOnWire
  split
  · rfl
  · exact messages_enqueue s hc

theorem watchlist_enqueue (s : Session) (c : Command) : (s.enqueue c).watchlist = s.watchlist := by
  unfold enqueue
  split
  · rfl
  · rfl

theorem watchlist_enqueueOnWire (s : Session) (c : Command) :
    (s.enqueueOnWire c).watchlist = s.watchlist := by
  unfold enqueueOnWire
  split
  · rfl
  · exact watchlist_enqueue s c

theorem call_of_unbegun {s : Session} {c : Call} (h : s.beginCall c = none) :
    (s.call c).watchlist = s.watchlist ∧ (s.call c).messages = s.messages := by
  cases c with
  | connect => exact ⟨rfl, rfl⟩
  | close => exact ⟨watchlist_enqueue _ _, messages_enqueue _ rfl⟩
  | subscribe tokens =>
    have ht : tokens = [] := by simpa [beginCall] using h
    simp [call, subscribe, ht]
  | unsubscribe tokens =>
    have ht : tokens = [] := by simpa [beginCall] using h
    simp [call, unsubscribe, ht]
  | setMode tokens mode =>
    simp only [beginCall] at h
    simp only [call, setMode]
    split
    · exact ⟨rfl, rfl⟩
    · rename_i hne
      rw [if_neg hne] at h
      by_cases hu : (s.watchlist.setMode mode tokens).1 = []
      · simp only [noteSetMode, if_pos hu]
        exact ⟨rfl, rfl⟩
      · simp only [noteSetMode, if_neg hu] at h
        cases h
  | resubscribe => exact ⟨watchlist_enqueueOnWire _ _, messages_enqueueOnWire _ rfl⟩
  | enableRetry interval maxRetries => exact ⟨watchlist_enqueue _ _, messages_enqueue _ rfl⟩
  | disableRetry => exact ⟨watchlist_enqueue _ _, messages_enqueue _ rfl⟩

theorem messages_finishCall {s : Session} (hu : s.activity.underWay = true) (control : Control) :
    (s.finishCall control).messages = s.messages ++ [control] := by
  unfold finishCall enqueueOnWire enqueue driverStopped
  cases ha : s.activity with
  | unstarted => simp [ha, Activity.underWay] at hu
  | stopped => simp [ha, Activity.underWay] at hu
  | idle => simp [messages, Command.message?]
  | dialing => simp [messages, Command.message?]
  | restoring => simp [messages, Command.message?]
  | hangingUp => simp [messages, Command.message?]

theorem messages_finishCall_of_resting {s : Session} (hu : s.activity.underWay = false) (control : Control) :
    (s.finishCall control).messages = s.messages := by
  unfold finishCall enqueueOnWire enqueue driverStopped
  cases ha : s.activity with
  | unstarted => simp
  | stopped => simp [messages, log, note]
  | idle => simp [ha, Activity.underWay] at hu
  | dialing => simp [ha, Activity.underWay] at hu
  | restoring => simp [ha, Activity.underWay] at hu
  | hangingUp => simp [ha, Activity.underWay] at hu

/-- Of each instrument, its mode on the watchlist agrees with the messages that are not yet sent. -/
def Agrees (I : Token → List Control → Option Mode → Prop) (p : Option Control) (s : Session) : Prop :=
  ∀ t, I t (s.messages ++ p.toList) (s.watchlist.mode? t)

/-- An agreement that one more message keeps, when it has its effect at once. -/
def Lasting (I : Token → List Control → Option Mode → Prop) : Prop :=
  ∀ t cs m c, I t cs m → c.Apt t m → I t (cs ++ [c]) (c.actOn t m)

theorem lasting_echo : Lasting Echo :=
  fun _ _ _ _ h hc => .snoc h hc

theorem lasting_serve (base : Token → Option Mode) (before : List Control) :
    Lasting fun t cs m => Control.serve t (base t) (before ++ cs) = m := by
  intro t cs m c h _
  rw [← List.append_assoc, Control.serve_append, h]
  rfl

section

variable {I : Token → List Control → Option Mode → Prop} {p : Option Control} {s t : Session}

theorem Agrees.begun (h : Agrees I none s) (hI : Lasting I) {c : Call} {control : Control}
    (hb : s.beginCall c = some (t, control)) : Agrees I (some control) t := by
  obtain ⟨hm, hw⟩ := Session.begun hb
  intro x
  obtain ⟨hapt, hx⟩ := hw x
  rw [hm, hx]
  refine hI _ _ _ _ ?_ hapt
  simpa using h x

theorem Agrees.finished (hu : s.activity.underWay = true) {control : Control} (h : Agrees I (some control) s) :
    Agrees I none (s.finishCall control) := by
  intro x
  rw [messages_finishCall hu, finishCall, watchlist_enqueueOnWire]
  simpa using h x

theorem Agrees.call (h : Agrees I p s) (hI : Lasting I) (hu : s.activity.underWay = true) {c : Call}
    (hc : p = none ∨ c.bystanding = true) : Agrees I p (s.call c) := by
  cases hb : s.beginCall c with
  | none =>
    obtain ⟨hw, hm⟩ := call_of_unbegun hb
    intro x
    rw [hw, hm]
    exact h x
  | some begun =>
    obtain ⟨u, control⟩ := begun
    rcases hc with rfl | hc
    · rw [call_of_begun hb]
      refine Agrees.finished ?_ (h.begun hI hb)
      rw [activity_of_helm (called_of_begun hb).helm]
      exact hu
    · rw [beginCall_of_bystanding s hc] at hb
      cases hb

theorem Agrees.course {P : Happening → Prop} {C : Call → Prop} (hI : Lasting I) (hu : s.activity.underWay = true)
    (hC : ∀ c, C c → p = none ∨ c.bystanding = true) (hr : Course P C s t) (h : Agrees I p s) : Agrees I p t := by
  induction hr with
  | refl => exact h
  | note _ _ ih => exact ih
  | call hr hc ih => exact ih.call hI (hr.underWay.trans hu) (hC _ hc)
  | answer _ _ ih => exact ih
  | steer _ hcommons _ ih =>
    simp only [commons, Prod.mk.injEq] at hcommons
    intro x
    rw [messages, hcommons.1, hcommons.2.2.2.1]
    exact ih x

end

end Session

end MarketTicker
