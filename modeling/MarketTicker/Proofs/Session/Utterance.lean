import MarketTicker.Proofs.Session.Dispatch
import MarketTicker.Proofs.Session.Messages
import MarketTicker.Proofs.Session.Wires

namespace MarketTicker

/-- What goes out: an event to its handler, or a control message to a connection, which may fail to send it. -/
inductive Utterance where
  | told (e : Event)
  | handed (wire : Nat) (c : Control)
  deriving DecidableEq

def Utterance.handed? : Utterance → Option (Nat × Control)
  | .handed wire c => some (wire, c)
  | .told _ => none

def Happening.utterance? : Happening → Option Utterance
  | .emitted e => some (.told e)
  | .sent wire c => some (.handed wire c)
  | .sendFailed wire c => some (.handed wire c)
  | _ => none

/-- The one event of a failure; a cancellation has none. -/
def ConnectFault.told : ConnectFault → List Utterance
  | .cancelled => []
  | fault => [.told (.error fault.message)]

namespace Watchlist

def amend (w : Watchlist) : Call → Watchlist
  | .subscribe tokens => (w.subscribe tokens).2
  | .unsubscribe tokens => (w.unsubscribe tokens).2
  | .setMode tokens mode => (w.setMode mode tokens).2
  | _ => w

def amended (w : Watchlist) (cs : List Call) : Watchlist :=
  cs.foldl amend w

theorem amended_append (w : Watchlist) (cs ds : List Call) : w.amended (cs ++ ds) = (w.amended cs).amended ds :=
  List.foldl_append

theorem setMode_of_none {w : Watchlist} {mode : Mode} {ts : List Token} (h : (w.setMode mode ts).1 = []) :
    (w.setMode mode ts).2 = w := by
  induction ts with
  | nil => rfl
  | cons t ts ih =>
    unfold setMode at h ⊢
    split
    · rename_i ht
      rw [if_pos ht] at h
      cases h
    · rename_i ht
      rw [if_neg ht] at h
      exact ih h

end Watchlist

def called (ms : List Move) : List Call :=
  ms.filterMap fun
    | .call c => some c
    | _ => none

theorem called_append (ms ns : List Move) : called (ms ++ ns) = called ms ++ called ns :=
  List.filterMap_append

namespace Session

def utterances (s : Session) : List Utterance :=
  s.collect Happening.utterance?

section

variable {s t : Session} {m : Move}

theorem utterances_note (s : Session) (h : Happening) :
    (s.note h).utterances = s.utterances ++ h.utterance?.toList :=
  collect_note _ s h

@[simp] theorem utterances_log (s : Session) (level : LogLevel) (message : String) (fields : List (String × String)) :
    (s.log level message fields).utterances = s.utterances :=
  (utterances_note s _).trans (List.append_nil _)

@[simp] theorem utterances_record (s : Session) (r : Recording) : (s.record r).utterances = s.utterances :=
  (utterances_note s _).trans (List.append_nil _)

@[simp] theorem utterances_publish (s : Session) : s.publish.utterances = s.utterances :=
  utterances_record _ _

theorem utterances_called (h : Called s t) : t.utterances = s.utterances :=
  collect_called (fun _ => rfl) (fun _ => rfl) h

@[simp] theorem utterances_emit (s : Session) (e : Event) : (s.emit e).utterances = s.utterances ++ [.told e] := by
  have h := collect_emit (f := Happening.utterance?) (fun _ => rfl) (fun _ => rfl) s e
  rw [show (Happening.handled e s.visiblePhase).utterance? = none from rfl, Option.toList_none, ite_self,
    List.append_nil] at h
  exact h

@[simp] theorem utterances_report (s : Session) (source : ErrorSource) (message : String) :
    (s.report source message).utterances = s.utterances ++ [.told (.error message)] := by
  rw [report, utterances_emit, utterances_record]

theorem utterances_transmit (s : Session) (wire : Nat) (c : Control) :
    ∃ errors : List String,
      (s.transmit wire c).utterances = s.utterances ++ .handed wire c :: errors.map (.told ∘ .error) := by
  unfold transmit
  dsimp only
  split
  · refine ⟨[], ?_⟩
    rw [utterances_log, utterances_record, utterances_note]
    rfl
  · rename_i fault _
    refine ⟨[fault.message], ?_⟩
    rw [utterances_report, utterances_log, utterances_note, List.append_assoc]
    rfl

@[simp] theorem utterances_concludeAttempt (s : Session) (cause : Cause) (result : Except ConnectFault Unit) :
    (s.concludeAttempt cause result).utterances = s.utterances := by
  unfold concludeAttempt
  dsimp only
  split
  · rfl
  · rfl
  · rfl

theorem utterances_attemptFailed (s : Session) (cause : Cause) (fault : ConnectFault) :
    (s.attemptFailed cause fault).utterances = s.utterances ++ fault.told := by
  have hp : ({ s with link := s.link.connectFailed }.publish).utterances = s.utterances := utterances_publish _
  have hreport (fields : List (String × String)) (message : String) :
      ((({ s with link := s.link.connectFailed }.publish).log .warn "Ticker connection failed" fields).report .connect
        message).utterances = s.utterances ++ [.told (.error message)] := by
    rw [utterances_report, utterances_log, hp]
  rw [attemptFailed_eq, utterances_concludeAttempt]
  cases fault with
  | cancelled => exact (utterances_log ..).trans (hp.trans (List.append_nil _).symm)
  | transport fault => exact hreport ..
  | timeout limit => exact hreport ..
  | notRunning => exact hreport ..

theorem utterances_restore (s : Session) (sequel : Sequel) : (s.restore sequel).utterances = s.utterances := by
  unfold restore
  dsimp only
  split
  · rfl
  · exact utterances_log _ _ _ _

theorem utterances_attemptSucceeded (s : Session) (cause : Cause) (manner : Manner) :
    (s.attemptSucceeded cause manner).utterances = s.utterances := by
  refine (utterances_restore _ _).trans ((utterances_log ..).trans (utterances_publish _))

theorem watchlist_call (s : Session) (c : Call) : (s.call c).watchlist = s.watchlist.amend c := by
  cases c with
  | subscribe tokens =>
    rw [call, subscribe]
    split
    · rename_i ht
      rw [ht]
      rfl
    · exact watchlist_enqueueOnWire _ _
  | unsubscribe tokens =>
    rw [call, unsubscribe]
    split
    · rename_i ht
      rw [ht]
      rfl
    · exact watchlist_enqueueOnWire _ _
  | setMode tokens mode =>
    rw [call, setMode]
    split
    · rename_i ht
      rw [ht]
      rfl
    · by_cases hu : (s.watchlist.setMode mode tokens).1 = []
      · simp only [noteSetMode, if_pos hu]
        exact (Watchlist.setMode_of_none hu).symm
      · simp only [noteSetMode, if_neg hu]
        exact watchlist_enqueueOnWire _ _
  | connect => rfl
  | close => exact watchlist_enqueue _ _
  | resubscribe => exact watchlist_enqueueOnWire _ _
  | enableRetry => exact watchlist_enqueue _ _
  | disableRetry => exact watchlist_enqueue _ _

theorem watchlist_calls_amended (s : Session) (cs : List Call) : (s.calls cs).watchlist = s.watchlist.amended cs := by
  induction cs generalizing s with
  | nil => rfl
  | cons c cs ih => exact (ih (s.call c)).trans (by rw [watchlist_call]; rfl)

def Prompts (s : Session) (e : Event) (cs : List Call) : Prop :=
  cs = [] ∨ ∃ handler past, s.handlers.get? e.slot = some handler ∧ cs = (handler past e).calls

theorem watchlist_emit_prompted (s : Session) (e : Event) :
    ∃ prompted, s.Prompts e prompted ∧ (s.emit e).watchlist = s.watchlist.amended prompted := by
  rw [emit]
  dsimp only
  split
  · exact ⟨[], .inl rfl, rfl⟩
  · rename_i handler hs
    have hreact (t : Session) (ht : t.watchlist = s.watchlist) (past : List TraceEntry) :
        ∃ prompted, s.Prompts e prompted ∧ (t.react (handler past e)).watchlist = s.watchlist.amended prompted := by
      rw [Session.react]
      split
      · exact ⟨_, .inr ⟨handler, past, hs, rfl⟩, by rw [watchlist_calls_amended, ht]⟩
      · exact ⟨[], .inl rfl, ht⟩
    obtain ⟨prompted, hprompts, hw⟩ :=
      hreact ((s.note (.emitted e)).note (.handled e s.visiblePhase)) rfl (s.note (.emitted e)).trace
    split
    · exact ⟨prompted, hprompts, hw⟩
    · exact ⟨prompted, hprompts, hw⟩

theorem watchlist_concludeAttempt (s : Session) (cause : Cause) (result : Except ConnectFault Unit) :
    (s.concludeAttempt cause result).watchlist = s.watchlist := by
  unfold concludeAttempt
  dsimp only
  split
  · rfl
  · rfl
  · rfl

theorem watchlist_attemptFailed (s : Session) (cause : Cause) (fault : ConnectFault) :
    ∃ prompted, (prompted = [] ∨ fault ≠ .cancelled ∧ s.Prompts (.error fault.message) prompted) ∧
      (s.attemptFailed cause fault).watchlist = s.watchlist.amended prompted := by
  have hreport (hf : fault ≠ .cancelled) (fields : List (String × String)) :
      ∃ prompted, (prompted = [] ∨ fault ≠ .cancelled ∧ s.Prompts (.error fault.message) prompted) ∧
        ((({ s with link := s.link.connectFailed }.publish).log .warn "Ticker connection failed" fields).report .connect
          fault.message).watchlist = s.watchlist.amended prompted := by
    obtain ⟨prompted, hprompts, hw⟩ := watchlist_emit_prompted
      ((({ s with link := s.link.connectFailed }.publish).log .warn "Ticker connection failed" fields).record
        (.error .connect)) (.error fault.message)
    exact ⟨prompted, .inr ⟨hf, hprompts⟩, hw⟩
  rw [attemptFailed_eq, watchlist_concludeAttempt]
  cases fault with
  | cancelled => exact ⟨[], .inl rfl, rfl⟩
  | transport fault => exact hreport (by simp) _
  | timeout limit => exact hreport (by simp) _
  | notRunning => exact hreport (by simp) _

/-- What a step that is not the driver's does to what the driver is about. -/
structure Aside (m : Move) (s t : Session) : Prop where
  activity : t.activity = s.activity
  link : t.link = s.link
  published : t.published = s.published
  connection : t.connection = s.connection
  held : ∀ i, t.net.held i = s.net.held i
  watchlist : t.watchlist = s.watchlist.amended (called [m])
  utterances : t.utterances = s.utterances

theorem Step.aside (hs : Step m s t) (hm : ∀ task, m ≠ .driver task) (hu : s.activity ≠ .unstarted) :
    Aside m s t := by
  cases hs with
  | @driver task => exact absurd rfl (hm task)
  | call c =>
    have hc := Called.call s c
    have hh := hc.helm
    exact ⟨activity_of_helm hh, (congrArg Session.link hh :), (congrArg Session.published hh :),
      (congrArg Session.connection hh :), fun i => congrArg (·.held i) (congrArg Session.net hh :),
      watchlist_call s c, utterances_called hc⟩
  | @connect _ k _ =>
    obtain ⟨_, _, _, _, hb, _⟩ := beginConnect_eq s k
    rw [hb, if_neg hu]
    exact ⟨rfl, rfl, rfl, rfl, fun _ => rfl, rfl, rfl⟩
  | returned => exact ⟨rfl, rfl, rfl, rfl, fun _ => rfl, rfl, (utterances_note _ _).trans (List.append_nil _)⟩
  | wait => exact ⟨rfl, rfl, rfl, rfl, fun _ => rfl, rfl, rfl⟩
  | push wire d =>
    rcases push_cases s wire d with h | ⟨id, h⟩
    · rw [h]
      exact ⟨rfl, rfl, rfl, rfl, fun _ => rfl, rfl, rfl⟩
    · rw [h]
      exact ⟨rfl, rfl, rfl, rfl, fun i => Net.held_update (f := fun w => w.deliver d) (fun _ => rfl) s.net id i, rfl, rfl⟩
  | listen => exact ⟨rfl, rfl, rfl, rfl, fun _ => rfl, rfl, rfl⟩
  | drop => exact ⟨rfl, rfl, rfl, rfl, fun _ => rfl, rfl, rfl⟩

end

end Session

end MarketTicker
