import Mathlib.Algebra.BigOperators.Group.List.Basic
import MarketTicker.Proofs.Session.Books
import MarketTicker.Proofs.Session.Course

namespace MarketTicker

def Event.mode? : Event → Option Mode
  | .tick t => some t.mode
  | _ => none

def Happening.action? : Happening → Option Control.Action
  | .sent _ c => some c.action
  | _ => none

namespace Delivery

/-- How a frame is counted; a single byte is a heartbeat. -/
def kind? : Delivery → Option FrameKind
  | .binary data => some (if data.length = 1 then .heartbeat else .binary)
  | .text _ => some .text
  | _ => none

def skipped : Delivery → Nat
  | .binary data =>
    match Feed.Frame.decode data with
    | .ok decoded => decoded.skipped
    | .error _ => 1
  | _ => 0

theorem skipped_intake (d : Delivery) :
    (d.intake.filterMap (Recording.amountIn? (Recording.packetsSkipped 0).series)).sum = d.skipped := by
  cases d with
  | binary data =>
    rw [intake, skipped]
    by_cases hb : data.length = 1
    · have hbeat : Feed.Frame.isHeartbeat data = true := decide_eq_true hb
      rw [if_pos hb, Feed.Frame.decode, if_pos hbeat]
      rfl
    · rw [if_neg hb]
      cases Feed.Frame.decode data with
      | ok decoded =>
        dsimp only
        split
        · rfl
        · rename_i hskipped
          exact (Nat.eq_zero_of_not_pos hskipped).symm
      | error fault => rfl
  | _ => rfl

theorem kind_intake (d : Delivery) (kind : FrameKind) :
    (d.intake.filterMap (Recording.amountIn? (Recording.frame kind).series)).sum =
      if d.kind? = some kind then 1 else 0 := by
  cases d with
  | binary data =>
    rw [intake, kind?]
    by_cases hb : data.length = 1
    · rw [if_pos hb, if_pos hb]
      cases kind with
      | _ => rfl
    · rw [if_neg hb, if_neg hb]
      cases Feed.Frame.decode data with
      | ok decoded =>
        dsimp only
        split
        · cases kind with
          | _ => rfl
        · cases kind with
          | _ => rfl
      | error fault =>
        cases kind with
        | _ => rfl
  | text text =>
    cases kind with
    | _ => rfl
  | _ => rfl

end Delivery

namespace Account

def series : Account → List Series
  | .error => ErrorSource.all.map fun source => (Recording.error source).series
  | .tick mode => [(Recording.tick mode).series]
  | .order => [Recording.orderUpdate.series]
  | .reconnecting => [Recording.reconnect.series]
  | .exhausted => [Recording.reconnectsExhausted.series]
  | .control action => [(Recording.controlMessage action).series]

theorem amount_series (a : Account) (r : Recording) :
    (a.series.map fun σ => (r.amountIn? σ).getD 0).sum = if r.account? = some a then 1 else 0 := by
  cases a with
  | error =>
    cases r with
    | error source => cases source <;> decide
    | _ => rfl
  | tick mode =>
    cases r with
    | tick mode' => cases mode <;> cases mode' <;> decide
    | _ => rfl
  | control action =>
    cases r with
    | controlMessage action' => cases action <;> cases action' <;> decide
    | _ => rfl
  | _ =>
    cases r with
    | _ => rfl

theorem sum_series (a : Account) (rs : List Recording) :
    (a.series.map fun σ => (rs.filterMap (Recording.amountIn? σ)).sum).sum =
      (rs.filterMap Recording.account?).count a := by
  induction rs with
  | nil => simp
  | cons r rs ih =>
    have hsplit (σ : Series) : ((r :: rs).filterMap (Recording.amountIn? σ)).sum =
        (r.amountIn? σ).getD 0 + (rs.filterMap (Recording.amountIn? σ)).sum := by
      rw [List.filterMap_cons]
      cases r.amountIn? σ with
      | none => exact (Nat.zero_add _).symm
      | some n => exact List.sum_cons
    rw [List.map_congr_left fun σ _ => hsplit σ, List.sum_map_add, ih, a.amount_series r, List.filterMap_cons]
    cases r.account? with
    | none => simp
    | some b => simp [List.count_cons, Nat.add_comm]

theorem isGauge_series {a : Account} {σ : Series} (h : σ ∈ a.series) : σ.metric.isGauge = false := by
  cases a with
  | error =>
    obtain ⟨source, _, rfl⟩ := List.mem_map.1 h
    rfl
  | _ =>
    obtain rfl := List.mem_singleton.1 h
    rfl

end Account

namespace Session

variable {ms : List Move} {s t u : Session}

namespace Books

variable {taken : List Recording}

theorem total_account (h : Books taken [] s) (a : Account) :
    (a.series.map s.total).sum = (s.collect Happening.account?).count a := by
  have heach : a.series.map s.total = a.series.map fun σ => (s.readings σ).sum :=
    List.map_congr_left fun σ hσ => s.total_eq (Account.isGauge_series hσ)
  rw [heach, ← List.append_nil (s.collect _), ← h.balance]
  exact a.sum_series s.recordings

theorem total_intake {ds : List Delivery} (h : Books (ds.flatMap Delivery.intake) [] s) {σ : Series}
    (hσ : σ.metric = .frames ∨ σ.metric = .packetsSkipped) :
    s.total σ = (ds.map fun d => (d.intake.filterMap (Recording.amountIn? σ)).sum).sum := by
  have hcounter : σ.metric.isGauge = false := by
    rcases hσ with hσ | hσ
    · rw [hσ]
      rfl
    · rw [hσ]
      rfl
  have hintake (r : Recording) : (if r.isIntake then r.amountIn? σ else none) = r.amountIn? σ := by
    by_cases hr : r.series = σ
    · have hkind : r.isIntake = true := by
        subst hr
        cases r with
        | frame => rfl
        | packetsSkipped => rfl
        | _ => simp [Recording.series] at hσ
      rw [if_pos hkind]
    · simp [Recording.amountIn?, hr]
  have hread : s.readings σ = (ds.flatMap Delivery.intake).filterMap (Recording.amountIn? σ) := by
    rw [← h.intake, List.filterMap_filter, readings]
    exact List.filterMap_congr fun r _ => (hintake r).symm
  rw [total_eq s hcounter, hread, List.filterMap_flatMap, List.flatMap_def, List.sum_flatten, List.map_map]
  rfl

theorem frames {ds : List Delivery} (h : Books (ds.flatMap Delivery.intake) [] s) (kind : FrameKind) :
    s.total (Recording.frame kind).series = ds.countP (·.kind? = some kind) := by
  have count (ds : List Delivery) :
      (ds.map fun d => if d.kind? = some kind then 1 else 0).sum = ds.countP (·.kind? = some kind) := by
    induction ds with
    | nil => rfl
    | cons d ds ih => simp [List.countP_cons, ih, Nat.add_comm]
  rw [h.total_intake (.inl rfl), List.map_congr_left fun d _ => d.kind_intake kind]
  exact count ds

theorem skipped {ds : List Delivery} (h : Books (ds.flatMap Delivery.intake) [] s) :
    s.total (Recording.packetsSkipped 0).series = (ds.map Delivery.skipped).sum := by
  rw [h.total_intake (.inr rfl), List.map_congr_left fun d _ => d.skipped_intake]

end Books

theorem count_account_events (s : Session) {a : Account} {p : Event → Bool} (hp : ∀ e, p e = (e.account? == some a))
    (ha : ∀ action, a ≠ .control action) : (s.collect Happening.account?).count a = s.events.countP p := by
  have hsame (h : Happening) : (h.account?.map (· == a)).getD false = (h.event?.map p).getD false := by
    cases h with
    | emitted e =>
      refine Eq.trans ?_ (hp e).symm
      change (e.account?.map (· == a)).getD false = (e.account? == some a)
      cases e.account? with
      | none => rfl
      | some b => rfl
    | sent wire c => exact beq_false_of_ne (ha c.action).symm
    | _ => rfl
  rw [events, collect, collect, List.count, List.countP_filterMap, List.countP_filterMap]
  exact List.countP_congr fun x _ => by rw [hsame]

theorem count_account_sent (s : Session) (action : Control.Action) :
    (s.collect Happening.account?).count (.control action) = (s.collect Happening.action?).count action := by
  have hsame (h : Happening) :
      (h.account?.map (· == .control action)).getD false = (h.action?.map (· == action)).getD false := by
    cases h with
    | emitted e =>
      cases e with
      | _ => rfl
    | sent wire c => exact Bool.eq_iff_iff.2 (by simp [Happening.account?, Happening.action?])
    | _ => rfl
  rw [collect, collect, List.count, List.count, List.countP_filterMap, List.countP_filterMap]
  exact List.countP_congr fun x _ => by rw [hsame]

theorem Run.grows (h : Run ms s t) : ∃ added, t.trace = added ++ s.trace := by
  refine h.preserves (P := fun t => ∃ added, t.trace = added ++ s.trace) (fun hs ht => ?_) ⟨[], rfl⟩
  obtain ⟨earlier, ht⟩ := ht
  obtain ⟨later, hu⟩ := hs.grows
  exact ⟨later ++ earlier, by rw [hu, ht, List.append_assoc]⟩

theorem readings_of_grown {σ : Series} (h : ∃ added, t.trace = added ++ s.trace) (hs : s.readings σ ≠ []) :
    t.readings σ ≠ [] := by
  obtain ⟨added, ht⟩ := h
  rw [readings, recordings_eq, collect_append ht, List.filterMap_append]
  exact fun hnil => hs (List.append_eq_nil_iff.1 hnil).1

theorem readings_subscription (s : Session) {ts : List Token} (hts : ts ≠ []) {c : Call}
    (hc : c ∈ [Call.subscribe ts, .unsubscribe ts]) :
    (s.call c).readings (Metric.gauge .subscriptions) ≠ [] := by
  have key (w : Watchlist) (level : LogLevel) (message : String) (fields : List (String × String)) (control : Control) :
      (((s.recordWatchlist w).log level message fields).enqueueOnWire (.send control)).readings
        (Metric.gauge .subscriptions) ≠ [] := by
    obtain ⟨added, ht, _⟩ := ((Called.log (s.recordWatchlist w) level message fields).trans
      (.enqueueOnWire _ (c := .send control) (by simp))).trace
    refine readings_of_grown ⟨added, ht⟩ ?_
    rw [readings_recordWatchlist]
    exact List.append_ne_nil_of_right_ne_nil _ (List.cons_ne_nil _ _)
  rcases List.mem_cons.1 hc with rfl | hc
  · rw [call, subscribe, if_neg hts]
    exact key (s.watchlist.subscribe ts).2 .debug _ _ (.subscribe ts)
  · obtain rfl := List.mem_singleton.1 hc
    rw [call, unsubscribe, if_neg hts]
    exact key (s.watchlist.unsubscribe ts).2 .debug _ _ (.unsubscribe ts)

/-- Whatever happens in a session, its counters count it, and its gauge of subscriptions follows the watchlist. -/
theorem counters_agree {setup : Setup} {credentials : Credentials} {handlers : Handlers Handler} {net : Net}
    {gate : ConnectRequest → Option TransportFault} (h : Run ms (start setup credentials handlers net gate) t) :
    (ErrorSource.all.map fun source => t.total (Recording.error source).series).sum =
        t.events.countP (·.slot = .error) ∧
      (∀ mode, t.total (Recording.tick mode).series = t.events.countP (·.mode? = some mode)) ∧
      t.total Recording.orderUpdate.series = t.events.countP (·.slot = .order) ∧
      t.total Recording.reconnect.series = t.events.countP (·.slot = .reconnect) ∧
      t.total Recording.reconnectsExhausted.series = t.events.countP (·.slot = .exhausted) ∧
      (∀ action, t.total (Recording.controlMessage action).series = (t.collect Happening.action?).count action) ∧
      (∃ ds, Reading ms (start setup credentials handlers net gate) ds t) ∧
      (∀ ds, Reading ms (start setup credentials handlers net gate) ds t →
        (∀ kind, t.total (Recording.frame kind).series = ds.countP (·.kind? = some kind)) ∧
          ∀ n, t.total (Recording.packetsSkipped n).series = (ds.map Delivery.skipped).sum) ∧
      (∀ n, t.gauge? .subscriptions = some n → n = t.watchlist.size) ∧
      ∀ ts c, ts ≠ [] → c ∈ [Call.subscribe ts, .unsubscribe ts] →
        ∀ later u, Run later (t.call c) u → u.gauge? .subscriptions = some u.watchlist.size := by
  have hstart : (start setup credentials handlers net gate).Reachable := ⟨_, _, _, _, _, [], .nil _⟩
  have hbooks {ds : List Delivery} (hd : Reading ms (start setup credentials handlers net gate) ds t) :
      Books (ds.flatMap Delivery.intake) [] t := hd.books hstart (.start ..)
  obtain ⟨ds, hds⟩ := h.reading
  have hb := hbooks hds
  have single {a : Account} {σ : Series} (ha : a.series = [σ]) :
      t.total σ = (t.collect Happening.account?).count a := by
    have hsum := hb.total_account a
    rw [ha] at hsum
    exact (List.sum_singleton).symm.trans hsum
  have follows {u : Session} (hu : u.Reachable) {n : Nat} (hn : u.gauge? .subscriptions = some n) :
      n = u.watchlist.size := by
    obtain ⟨taken, hbu⟩ := hu.books
    exact hbu.subscriptions n (by rw [← gauge?_eq u rfl]; exact hn)
  refine ⟨?_, fun mode => ?_, ?_, ?_, ?_, fun action => ?_, ⟨ds, hds⟩, fun ds hd => ⟨?_, ?_⟩, ?_, ?_⟩
  · exact (hb.total_account .error).trans (t.count_account_events (by rintro (_ | _) <;> rfl) (by simp))
  · refine (single (a := .tick mode) rfl).trans (t.count_account_events (fun e => ?_) (by simp))
    cases e with
    | tick tick => exact Bool.eq_iff_iff.2 (by simp [Event.mode?, Event.account?])
    | _ => rfl
  · exact (single (a := .order) rfl).trans (t.count_account_events (by rintro (_ | _) <;> rfl) (by simp))
  · exact (single (a := .reconnecting) rfl).trans (t.count_account_events (by rintro (_ | _) <;> rfl) (by simp))
  · exact (single (a := .exhausted) rfl).trans (t.count_account_events (by rintro (_ | _) <;> rfl) (by simp))
  · exact (single rfl).trans (t.count_account_sent action)
  · exact (hbooks hd).frames
  · exact fun n => (hbooks hd).skipped
  · exact fun n => follows (hstart.run h)
  · intro ts c hts hc later u hu
    have hlast : u.gauge? .subscriptions ≠ none := by
      rw [gauge?_eq u rfl, Ne, List.getLast?_eq_none_iff]
      exact readings_of_grown hu.grows (t.readings_subscription hts hc)
    obtain ⟨n, hn⟩ := Option.ne_none_iff_exists'.1 hlast
    rw [hn, follows ((hstart.run h).run (.cons (.call c t) hu)) hn]

theorem counters_agree_of_feed :
    ∃ ms ds t, Reading ms (start .standard ⟨"key", "token"⟩ .none (.start [] ⟨.accept .smooth, 0⟩) fun _ => none) ds t ∧
      t.total (Recording.tick .ltp).series = 1 ∧ t.total (Recording.controlMessage .subscribe).series = 1 ∧
      t.total (Recording.frame .heartbeat).series = 1 ∧ t.total (Recording.frame .binary).series = 2 ∧
      t.total (Recording.packetsSkipped 0).series = 1 ∧
      (t.call (.subscribe [5, 6])).gauge? .subscriptions = some 2 := by
  -- a tick, a heartbeat and a frame that is too short
  have reading :=
    Reading.cons (.call .connect (start .standard ⟨"key", "token"⟩ .none (.start [] ⟨.accept .smooth, 0⟩) fun _ => none))
      (.cons (@Step.connect _ 1 (by simp [call, requestConnect, start]))
        (.cons (.driver (.command rfl rfl rfl)) (.cons (.driver (.handshake rfl rfl)) (.cons (.driver (.conclude rfl))
          (.cons (.call (.subscribe [5]) _) (.cons (.driver (.command rfl rfl rfl))
            (.cons (.push none (.binary [0, 1, 0, 8, 0, 6, 58, 1, 0, 0, 0, 100]) _)
              (.cons (.push none (.binary [0]) _) (.cons (.push none (.binary []) _)
                (.cons (.driver (.delivery rfl rfl rfl)) (.cons (.driver (.delivery rfl rfl rfl))
                  (.cons (.driver (.delivery rfl rfl rfl)) (.nil _)))))))))))))
  obtain ⟨_, hticks, _, _, _, hsent, _, hread, _, hgauge⟩ := counters_agree reading.run
  obtain ⟨hframes, hskipped⟩ := hread _ reading
  refine ⟨_, _, _, reading, ?_, ?_, ?_, ?_, ?_, ?_⟩
  · exact (hticks .ltp).trans rfl
  · exact (hsent .subscribe).trans rfl
  · exact (hframes .heartbeat).trans rfl
  · exact (hframes .binary).trans rfl
  · exact (hskipped 0).trans rfl
  · exact (hgauge [5, 6] _ (by simp) (by simp) _ _ (.nil _)).trans rfl

end Session

end MarketTicker
