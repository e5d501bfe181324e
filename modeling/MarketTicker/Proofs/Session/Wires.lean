import MarketTicker.Proofs.Session.Attempt

namespace MarketTicker

def Net.held (n : Net) (i : Nat) : Bool :=
  (n.wire? i).any (·.held)

def Activity.parting? : Activity → Option Nat
  | .hangingUp wire _ _ => some wire
  | _ => none

namespace Net

theorem held_of_wires {n m : Net} (h : m.wires = n.wires) (i : Nat) : m.held i = n.held i := by
  rw [held, held, wire?, wire?, h]

theorem wire?_update (n : Net) (wire : Nat) (f : Wire → Wire) (i : Nat) :
    (n.update wire f).wire? i = (n.wire? i).map fun w => if wire = i then f w else w := by
  unfold update wire?
  rw [List.getElem?_modify]
  rfl

theorem held_update {f : Wire → Wire} (hf : ∀ w, (f w).held = w.held) (n : Net) (wire i : Nat) :
    (n.update wire f).held i = n.held i := by
  rw [held, held, wire?_update]
  cases n.wire? i with
  | none => rfl
  | some w =>
    simp only [Option.map_some, Option.any_some]
    split
    · exact hf w
    · rfl

theorem held_letGo (n : Net) (wire i : Nat) : (n.letGo (some wire)).held i = true ↔ n.held i = true ∧ wire ≠ i := by
  rw [letGo, held, held, wire?_update]
  cases n.wire? i with
  | none => simp
  | some w =>
    simp only [Option.map_some, Option.any_some]
    split
    · rename_i he
      simp [he]
    · rename_i he
      simp [he]

theorem held_accept (n : Net) (manner : Manner) (i : Nat) :
    (n.accept manner).2.held i = true ↔ n.held i = true ∨ n.wires.length = i := by
  unfold held wire? accept
  rcases Nat.lt_trichotomy i n.wires.length with hi | rfl | hi
  · rw [List.getElem?_append_left hi]
    constructor
    · exact .inl
    · rintro (h | rfl)
      · exact h
      · exact absurd hi (Nat.lt_irrefl _)
  · simp [Wire.fresh]
  · rw [List.getElem?_eq_none (by simp; omega), List.getElem?_eq_none (Nat.le_of_lt hi)]
    simp only [Option.any_none, Bool.false_eq_true, false_or, false_iff]
    omega

end Net

namespace Session

def Uses (s : Session) (i : Nat) : Prop :=
  s.connection = some i ∨ s.activity.parting? = some i

structure Tidy (s : Session) : Prop where
  held : ∀ i, s.net.held i = true ↔ s.Uses i
  apart : s.connection = none ∨ s.activity.parting? = none

structure Wired (s t : Session) : Prop where
  tidy : Tidy t
  rest : ∀ i w, s.net.wire? i = some w → w.held = false → t.net.wire? i = some w

theorem Tidy.eq {s : Session} (h : Tidy s) {i j : Nat} (hi : s.net.held i = true) (hj : s.net.held j = true) :
    i = j := by
  have hi := (h.held i).1 hi
  have hj := (h.held j).1 hj
  unfold Uses at hi hj
  rcases h.apart with ha | ha
  · rw [ha] at hi hj
    simpa using (hi.resolve_left (by simp)).symm.trans (hj.resolve_left (by simp))
  · rw [ha] at hi hj
    simpa using (hi.resolve_right (by simp)).symm.trans (hj.resolve_right (by simp))

namespace Wired

variable {s t u : Session}

theorem trans (h : Wired s t) (h' : Wired t u) : Wired s u :=
  ⟨h'.tidy, fun i w hw hf => h'.rest i w (h.rest i w hw hf) hf⟩

theorem of_helm_eq (ht : t.helm = u) (h : Wired s u) : Wired s t := by
  subst ht
  exact ⟨⟨h.tidy.held, h.tidy.apart⟩, h.rest⟩

theorem of_uses (h : Tidy s) (hn : t.net.wires = s.net.wires) (hu : ∀ i, t.Uses i ↔ s.Uses i)
    (ha : t.connection = none ∨ t.activity.parting? = none) : Wired s t := by
  refine ⟨⟨fun i => ?_, ha⟩, fun i w hw _ => ?_⟩
  · rw [Net.held_of_wires hn, hu]
    exact h.held i
  · rw [← hw, Net.wire?, Net.wire?, hn]

theorem keep (h : Tidy s) (hn : t.net.wires = s.net.wires) (hc : t.connection = s.connection)
    (ha : t.activity.parting? = s.activity.parting?) : Wired s t := by
  refine of_uses h hn (fun i => ?_) ?_
  · rw [Uses, Uses, hc, ha]
  · rw [hc, ha]
    exact h.apart

theorem of_helm (h : Tidy s) (ht : t.helm = s.helm) : Wired s t :=
  .of_helm_eq ht (.keep h rfl rfl rfl)

theorem touch (h : Tidy s) {wire : Nat} {f : Wire → Wire} (hw : s.connection = some wire)
    (hn : t.net = s.net.update wire f) (hf : ∀ w, (f w).held = w.held) (hc : t.connection = s.connection)
    (ha : t.activity.parting? = s.activity.parting?) : Wired s t := by
  refine ⟨⟨fun i => ?_, by rw [hc, ha]; exact h.apart⟩, fun i w hi hfalse => ?_⟩
  · rw [hn, Net.held_update hf, Uses, hc, ha]
    exact h.held i
  · have hne : wire ≠ i := by
      rintro rfl
      have hheld := (h.held wire).2 (.inl hw)
      rw [Net.held, hi] at hheld
      exact absurd (hheld.symm.trans hfalse) (by simp)
    rw [hn, Net.wire?_update, hi]
    simp [hne]

theorem part (h : Tidy s) {wire : Nat} (hw : s.Uses wire) (hn : t.net = s.net.letGo (some wire))
    (hc : t.connection = none) (ha : t.activity.parting? = none) : Wired s t := by
  refine ⟨⟨fun i => ?_, .inl hc⟩, fun i w hi hfalse => ?_⟩
  · rw [hn, Net.held_letGo, Uses, hc, ha]
    constructor
    · rintro ⟨hi, hne⟩
      exact absurd (h.eq ((h.held wire).2 hw) hi) hne
    · rintro (hx | hx)
      · cases hx
      · cases hx
  · rw [hn, Net.letGo, Net.wire?_update, hi]
    have hheld : { w with held := false } = w := by rw [← hfalse]
    simp [hheld]

theorem drop (h : Tidy s) (hp : s.activity.parting? = none) (hn : t.net = s.net.letGo s.connection)
    (hc : t.connection = none) (ha : t.activity.parting? = none) : Wired s t := by
  cases hconn : s.connection with
  | none =>
    rw [hconn] at hn
    exact .keep h (congrArg Net.wires hn) (hc.trans hconn.symm) (ha.trans hp.symm)
  | some wire => exact .part h (.inl hconn) (hconn ▸ hn) hc ha

theorem accept (h : Tidy s) (hc : s.connection = none) (hp : s.activity.parting? = none) {manner : Manner}
    (hn : t.net = (s.net.accept manner).2) (hw : t.connection = some s.net.wires.length)
    (ha : t.activity.parting? = none) : Wired s t := by
  refine ⟨⟨fun i => ?_, .inr ha⟩, fun i w hi hfalse => ?_⟩
  · have hnone : ¬s.net.held i = true := by
      rw [h.held, Uses, hc, hp]
      simp
    rw [hn, Net.held_accept, Uses, hw, ha]
    simp [hnone]
  · rw [hn, Net.accept, Net.wire?, List.getElem?_append_left (List.getElem?_eq_some_iff.1 hi).1]
    exact hi

end Wired

section

variable {s t : Session} (h : Tidy s) (hp : s.activity.parting? = none)

include h hp

theorem wired_attemptFailed (cause : Cause) (fault : ConnectFault) : Wired s (s.attemptFailed cause fault) :=
  .of_helm_eq (helm_attemptFailed s cause fault) (.keep h rfl rfl hp.symm)

theorem wired_attemptSucceeded (hc : s.connection = none) (cause : Cause) (manner : Manner) :
    Wired s (s.attemptSucceeded cause manner) :=
  .of_helm_eq (helm_attemptSucceeded s cause manner) (.accept h hc hp rfl rfl rfl)

theorem wired_attempt (cause : Cause) (limit : Span) : Wired s (s.attempt cause limit) := by
  cases hb : s.link.beginConnect? with
  | none =>
    have ht : (s.attempt cause limit).helm = _ := helm_attempt_of_none hb
    exact .of_helm_eq ht (.keep h rfl rfl hp.symm)
  | some l =>
    rw [attempt_of_some hb]
    have hl : Wired s ({ s with link := l }.publish) := .keep h rfl rfl rfl
    apply hl.trans
    rcases helm_dial ({ s with link := l }.publish) cause limit with ⟨fault, ht⟩ | ⟨_, _, d, _, _, ht⟩
    · exact .of_helm_eq (ht.trans (helm_attemptFailed _ _ _)) (.keep hl.tidy rfl rfl hp.symm)
    · exact .of_helm_eq ht (.keep hl.tidy (wires_nextOutcome s.net) rfl hp.symm)

theorem wired_connectionLost (fault? : Option TransportFault) : Wired s (s.connectionLost fault?) := by
  have ht := helm_connectionLost s fault?
  rw [helm_dropConnection] at ht
  split at ht
  · exact .of_helm_eq ht (.drop h hp rfl rfl hp)
  · exact .of_helm_eq ht (.drop h hp rfl rfl hp)

theorem wired_shut : Wired s s.shut := by
  cases hc : s.connection with
  | none => exact .of_helm_eq (helm_shut_of_none hc) (.keep h rfl rfl rfl)
  | some wire =>
    rcases helm_shut_of_some hc with ht | ht
    · refine .of_helm_eq ht (.of_uses h rfl (fun i => ?_) (.inl rfl))
      change none = some i ∨ some wire = some i ↔ s.connection = some i ∨ s.activity.parting? = some i
      rw [hc, hp]
      exact or_comm
    · exact .of_helm_eq ht (.part h (.inl hc) rfl rfl rfl)

theorem wired_restore (sequel : Sequel) : Wired s (s.restore sequel) :=
  .of_helm_eq (helm_restore s sequel) (.keep h rfl rfl hp.symm)

theorem wired_stop : Wired s s.stop :=
  .of_helm_eq (helm_stop s) (.drop h hp rfl rfl rfl)

theorem wired_onTick : Wired s s.onTick := by
  have hx : Wired s s.afterExpiry := .drop h hp rfl rfl hp
  rcases helm_onTick s with ht | ⟨_, ht⟩ | ⟨_, ht | ⟨u, since, limit, hu, _, ht⟩⟩
  · exact .of_helm h ht
  · exact .of_helm_eq ht (.keep h rfl rfl rfl)
  · exact .of_helm_eq ht hx
  · rw [ht]
    have hw : Wired s u := .of_helm_eq hu hx
    exact hw.trans (wired_attempt hw.tidy ((congrArg (fun u => u.activity.parting?) hu :).trans hp) (.retry since) limit)

end

theorem wired_send {s : Session} (h : Tidy s) (c : Control) : Wired s (s.send c) := by
  rcases helm_send s c with ht | ⟨wire, hc, ht⟩
  · exact .of_helm h ht
  · exact .of_helm_eq ht (.touch h hc rfl (fun _ => rfl) rfl rfl)

theorem wired_handleCommand {s : Session} (h : Tidy s) (hp : s.activity.parting? = none) (c : Command) :
    Wired s (s.handleCommand c) := by
  cases c with
  | connect caller => exact wired_attempt h hp _ _
  | send control => exact wired_send h control
  | resubscribe => exact wired_restore h hp _
  | enableRetry interval maxRetries => exact .keep h rfl rfl rfl
  | disableRetry => exact .keep h rfl rfl rfl
  | close => exact wired_shut h hp

theorem wired_receive {s : Session} (h : Tidy s) (hp : s.activity.parting? = none) (d : Delivery) :
    Wired s (s.receive d) := by
  rcases helm_receive s d with ht | ⟨fault?, ht⟩
  · exact .of_helm_eq ht (.keep h rfl rfl rfl)
  · rw [ht]
    exact wired_connectionLost h hp fault?

theorem wired_hungUp {s : Session} {wire : Nat} (h : Tidy s) (hp : s.activity.parting? = some wire)
    (previous : Link.Phase) : Wired s (s.hungUp wire previous) := by
  have hc : s.connection = none := h.apart.resolve_right (by simp [hp])
  exact .of_helm_eq (helm_hungUp s wire previous) (.part h (.inr hp) rfl hc rfl)

theorem Works.wired {task : Task} {s t : Session} (hw : Works task s t) (h : Tidy s) (hc : s.Coherent) :
    Wired s t := by
  cases hw with
  | @command _ c rest hi _ _ =>
    have hq : Wired s { s with queue := rest } := .keep h rfl rfl rfl
    refine hq.trans (wired_handleCommand hq.tidy ?_ c)
    rw [hi]
    rfl
  | tick hi _ =>
    have hd : Wired s { s with due := s.nextDue } := .keep h rfl rfl rfl
    refine hd.trans (wired_onTick hd.tidy ?_)
    rw [hi]
    rfl
  | delivery hi _ hd =>
    obtain ⟨wire, rest, hconn, _, rfl⟩ := takeDelivery?_eq_some hd
    have hn : Wired s { s with net := s.net.update wire fun w => { w with inbox := rest } } :=
      .touch h hconn rfl (fun _ => rfl) rfl rfl
    refine hn.trans (wired_receive hn.tidy ?_ _)
    rw [hi]
    rfl
  | @handshake _ _ d hd hs =>
    have hp : s.activity.parting? = none := by rw [hd]; rfl
    rcases settleDial_eq_some hs with ⟨fault, rfl⟩ | ⟨_, manner, rfl⟩
    · exact wired_attemptFailed h hp _ _
    · have hphase : s.link.phase = .connecting := hc.dialing.2 (by rw [hd]; rfl)
      exact wired_attemptSucceeded h hp (hc.connection_of_ne (by simp [hphase])) _ _
  | @restore _ c rest sequel hr =>
    have ha : Wired s { s with activity := .restoring rest sequel } :=
      .keep h rfl rfl (by rw [hr]; rfl)
    exact ha.trans (wired_send ha.tidy c)
  | @conclude _ sequel hr =>
    exact .of_helm_eq (helm_conclude s sequel) (.keep h rfl rfl (by rw [hr]; rfl))
  | hungUp hh => exact wired_hungUp h (by rw [hh]; rfl) _
  | hangUpLate hh _ =>
    have hl : Wired s (s.log .debug "Ticker close handshake timed out" []) := .keep h rfl rfl rfl
    exact hl.trans (wired_hungUp hl.tidy (congrArg Activity.parting? hh) _)
  | collapse hi _ => exact .keep h rfl rfl (by rw [hi]; rfl)
  | stop hi _ _ _ => exact wired_stop h (by rw [hi]; rfl)

/-- Connections that were let go stay so, and what came in on them is not taken any more. -/
def Parted (s t : Session) : Prop :=
  ∀ i w, s.net.wire? i = some w → w.held = false →
    ∃ w', t.net.wire? i = some w' ∧ w'.held = false ∧ w.inbox <+: w'.inbox

namespace Parted

variable {s t u : Session}

theorem of_net (h : t.net = s.net) : Parted s t := by
  intro i w hw hf
  exact ⟨w, h ▸ hw, hf, List.prefix_rfl⟩

theorem trans (h : Parted s t) (h' : Parted t u) : Parted s u := by
  intro i w hw hf
  obtain ⟨w', hw', hf', hpre⟩ := h i w hw hf
  obtain ⟨w'', hw'', hf'', hpre'⟩ := h' i w' hw' hf'
  exact ⟨w'', hw'', hf'', hpre.trans hpre'⟩

theorem push (s : Session) (wire : Option Nat) (d : Delivery) : Parted s (s.push wire d).2 := by
  rcases push_cases s wire d with h | ⟨id, h⟩
  · rw [h]
    exact .of_net rfl
  · rw [h]
    intro j w hw hf
    refine ⟨if id = j then w.deliver d else w, ?_, ?_, ?_⟩
    · rw [Net.wire?_update, hw]
      rfl
    · split
      · exact hf
      · exact hf
    · split
      · exact List.prefix_append _ _
      · exact List.prefix_rfl

end Parted

theorem tidy_push {s : Session} (h : Tidy s) (wire : Option Nat) (d : Delivery) : Tidy (s.push wire d).2 := by
  rcases push_cases s wire d with hp | ⟨id, hp⟩
  · rw [hp]
    exact h
  · rw [hp]
    refine ⟨fun i => ?_, h.apart⟩
    have hheld : (s.net.update id fun w => w.deliver d).held i = s.net.held i := by
      apply Net.held_update
      intro w
      rfl
    dsimp only
    rw [hheld]
    exact h.held i

theorem Tidy.keep {s t : Session} (h : Tidy s) (hn : t.net = s.net) (hc : t.connection = s.connection)
    (ha : t.activity.parting? = s.activity.parting?) : Tidy t ∧ Parted s t :=
  ⟨(Wired.keep h (congrArg Net.wires hn) hc ha).tidy, .of_net hn⟩

theorem Tidy.held_letGo {s : Session} (h : Tidy s) (hp : s.activity.parting? = none) (i : Nat) :
    (s.net.letGo s.connection).held i = false := by
  have hdropped : Wired s { s with connection := none, net := s.net.letGo s.connection } :=
    .drop h hp rfl rfl hp
  have hi := hdropped.tidy.held i
  unfold Uses at hi
  rw [hp] at hi
  simpa using hi

theorem Step.tidy {m : Move} {s t : Session} (hs : Step m s t) (h : Tidy s)
    (hc : s.activity ≠ .stopped → s.Coherent) : Tidy t ∧ Parted s t := by
  have quiet {t : Session} (ht : t.helm = s.helm) : Tidy t ∧ Parted s t :=
    ⟨(Wired.of_helm h ht).tidy, .of_net (congrArg Session.net ht :)⟩
  cases hs with
  | driver hw =>
    have hrun := hw.running
    have hwired := hw.wired h (hc hrun)
    exact ⟨hwired.tidy, fun i w hi hf => ⟨w, hwired.rest i w hi hf, hf, List.prefix_rfl⟩⟩
  | call c => exact quiet (Called.call s c).helm
  | @connect _ id =>
    obtain ⟨generation, due, callers, cs, hb, _⟩ := beginConnect_eq s id
    rw [hb]
    refine h.keep rfl rfl ?_
    dsimp only
    split
    · rename_i hu
      rw [hu]
      rfl
    · rfl
  | returned => exact quiet rfl
  | wait => exact h.keep rfl rfl rfl
  | push wire d => exact ⟨tidy_push h wire d, .push s wire d⟩
  | listen => exact h.keep rfl rfl rfl
  | drop => exact h.keep rfl rfl rfl

theorem Step.dials {m : Move} {s t : Session} {r : ConnectRequest} (hs : Step m s t) (h : Tidy s)
    (hc : s.activity ≠ .stopped → s.Coherent) (hn : Notes (.dialled r) s t) :
    ∃ (u : Session) (cause : Cause) (limit : Span),
      t = u.dial cause limit ∧ u.connection = none ∧ ∀ i, u.net.held i = false := by
  have others (hm : ∀ task, m ≠ .driver task) : False :=
    hs.not_notes (tolerant_ne_dialled r) (fun task ht => absurd ht (hm task)) (by simp) hn
  cases hs with
  | driver hw =>
    have hrun := hw.running
    obtain ⟨hi, u, cause, limit, ht, hnone, hnet⟩ := hw.dials (hc hrun) hn
    refine ⟨u, cause, limit, ht, hnone, fun i => ?_⟩
    rw [hnet]
    apply h.held_letGo
    rw [hi]
    rfl
  | call => exact (others (by simp)).elim
  | connect => exact (others (by simp)).elim
  | returned => exact (others (by simp)).elim
  | wait => exact (others (by simp)).elim
  | push => exact (others (by simp)).elim
  | listen => exact (others (by simp)).elim
  | drop => exact (others (by simp)).elim

theorem Run.tidy {ms : List Move} {s t : Session} (hr : Run ms s t) (h : Tidy s)
    (hc : s.activity ≠ .stopped → s.Coherent) : Tidy t ∧ Parted s t := by
  have key := hr.preserves (P := fun t => (t.activity ≠ .stopped → t.Coherent) ∧ Tidy t ∧ Parted s t)
    (fun hs ⟨hc, ht, hp⟩ =>
      have hnext := hs.tidy ht hc
      ⟨fun hx => hs.coherent (hc fun hy => hx (hs.stopped hy)) hx, hnext.1, hp.trans hnext.2⟩)
    ⟨hc, h, .of_net rfl⟩
  exact key.2

theorem tidy_start (setup : Setup) (credentials : Credentials) (handlers : Handlers Handler)
    (script : List Outcome) (fallback : Outcome) (gate : ConnectRequest → Option TransportFault) :
    Tidy (start setup credentials handlers (.start script fallback) gate) := by
  refine ⟨fun _ => ?_, .inl rfl⟩
  simp [start, Net.start, Net.held, Net.wire?, Uses, Activity.parting?]

theorem inbox_of_takeDelivery? {s t : Session} {d : Delivery} (h : s.takeDelivery? = some (d, t)) :
    ∃ i w rest, s.connection = some i ∧ s.net.wire? i = some w ∧ w.inbox = d :: rest := by
  obtain ⟨i, rest, hc, hrest, _⟩ := takeDelivery?_eq_some h
  obtain ⟨w, hw, hi⟩ := Option.map_eq_some_iff.1 hrest
  exact ⟨i, w, rest, hc, hw, hi⟩

/-- The driver holds a connection just where it is connected, and never two of them; what comes in on a
connection that was let go stays where it is. -/
theorem connection_held_iff (setup : Setup) (credentials : Credentials) (handlers : Handlers Handler)
    (script : List Outcome) (fallback : Outcome) (gate : ConnectRequest → Option TransportFault) {ms : List Move}
    {s : Session} (hr : Run ms (start setup credentials handlers (.start script fallback) gate) s) :
    (s.activity = .idle ∨ s.activity = .unstarted →
        (s.connection.isSome = true ↔ s.link.phase = .connected) ∧ s.published = s.link.phase ∧
          s.link.phase ≠ .connecting) ∧
      (∀ i j, s.net.held i = true → s.net.held j = true → i = j) ∧
      (∀ m t r, Step m s t → Notes (.dialled r) s t →
        ∃ (u : Session) (cause : Cause) (limit : Span),
          t = u.dial cause limit ∧ u.connection = none ∧ ∀ i, u.net.held i = false) ∧
      (∀ d t, s.takeDelivery? = some (d, t) → ∃ i w rest, s.connection = some i ∧
        s.net.wire? i = some w ∧ w.held = true ∧ w.inbox = d :: rest) ∧
      ∀ ns t, Run ns s t → Parted s t := by
  have hreach : s.Reachable := ⟨_, _, _, _, _, _, hr⟩
  have ht : Tidy s := (hr.tidy (tidy_start ..) fun _ => coherent_start ..).1
  refine ⟨fun ha => ?_, fun _ _ => ht.eq, fun m t r hs hn => ?_, fun d t hd => ?_, fun ns t hrun => ?_⟩
  · have hc : s.Coherent := by
      apply hreach.coherent
      rcases ha with ha | ha
      · simp [ha]
      · simp [ha]
    refine ⟨?_, hc.published, hc.ne_connecting ?_⟩
    · rw [hc.held, Link.connected, decide_eq_true_iff]
    · rcases ha with ha | ha
      · rw [ha]
        rfl
      · rw [ha]
        rfl
  · exact hs.dials ht hreach.coherent hn
  · obtain ⟨i, w, rest, hconn, hw, hi⟩ := inbox_of_takeDelivery? hd
    have hheld := (ht.held i).2 (.inl hconn)
    rw [Net.held, hw] at hheld
    exact ⟨i, w, rest, hconn, hw, hheld, hi⟩
  · exact (hrun.tidy ht hreach.coherent).2

theorem connection_held_iff_of_loss :
    ∃ (s t : Session) (ns : List Move), s.Reachable ∧ Run ns s t ∧
      s.net.wire? 0 = some ⟨.smooth, 0, [.text "late"], false, false⟩ ∧ s.published = s.link.phase ∧
      s.link.phase ≠ .connected ∧ t.connection = some 1 ∧ t.link.phase = .connected ∧
      ∃ w, t.net.wire? 0 = some w ∧ w.held = false ∧ [.text "late"] <+: w.inbox := by
  -- what stands behind the loss is still there when the next connection is made
  have first := Run.nil (start .standard ⟨"key", "token"⟩ .none (.start [] ⟨.accept .smooth, 0⟩) fun _ => none)
  have asked := (first.append (.single (.call .connect _))).append
    (.single (@Step.connect _ 1 (by simp [call, requestConnect, start])))
  have connected := ((asked.append (.single (.driver (.command rfl rfl rfl)))).append
    (.single (.driver (.handshake rfl rfl)))).append (.single (.driver (.conclude rfl)))
  have pushed := (connected.append (.single (.push none .close _))).append (.single (.push none (.text "late") _))
  have lost := pushed.append (.single (.driver (.delivery rfl rfl rfl)))
  have here {ms : List Move} {s t : Session} (_ : Run ms s t) : Run [] t t := .nil t
  have askedAgain := ((here lost).append (.single (.call .connect _))).append
    (.single (@Step.connect _ 2 (List.mem_append_right _ List.mem_cons_self)))
  have again := ((askedAgain.append (.single (.driver (.command rfl rfl rfl)))).append
    (.single (.driver (.handshake rfl rfl)))).append (.single (.driver (.conclude rfl)))
  obtain ⟨hidle, _, _, _, hparted⟩ := connection_held_iff _ _ _ _ _ _ lost
  obtain ⟨hidle', _⟩ := connection_held_iff _ _ _ _ _ _ (lost.append again)
  obtain ⟨hheld, hpublished, _⟩ := hidle (.inl rfl)
  refine ⟨_, _, _, ⟨_, _, _, _, _, _, lost⟩, again, rfl, hpublished, fun hp => ?_, rfl, (hidle' (.inl rfl)).1.1 rfl,
    hparted _ _ again 0 _ rfl rfl⟩
  exact absurd (hheld.2 hp) (by decide)

end Session

end MarketTicker
