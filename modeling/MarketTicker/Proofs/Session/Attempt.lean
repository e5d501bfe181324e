import MarketTicker.Proofs.Session.Coherence
import MarketTicker.Proofs.Session.Course

namespace MarketTicker.Session

def Notes (h : Happening) (s t : Session) : Prop :=
  ∃ added, t.trace = added ++ s.trace ∧ ∃ e ∈ added, e.happening = h

variable {s t u : Session} {h : Happening}

theorem not_notes {added : List TraceEntry} (ht : t.trace = added ++ s.trace)
    (ha : ∀ e ∈ added, e.happening ≠ h) : ¬Notes h s t := by
  rintro ⟨later, hl, e, he, hh⟩
  obtain rfl : later = added := List.append_cancel_right (hl.symm.trans ht)
  exact ha e he hh

theorem Notes.of_trace_eq (hn : Notes h s t) (hu : u.trace = s.trace) : Notes h u t := by
  obtain ⟨added, ht, he⟩ := hn
  exact ⟨added, by rw [ht, hu], he⟩

theorem Step.not_notes {m : Move} (hs : Step m s t) (hP : Tolerant (· ≠ h))
    (hg : ∀ task, m = .driver task → Grants (· ≠ h) task s) (hr : ∀ id result, .returned id result ≠ h) :
    ¬Notes h s t := by
  obtain ⟨added, ht, ha⟩ := hs.trace_of_grants hP hg hr
  exact Session.not_notes ht ha

theorem tolerant_ne_reconnecting (n : Nat) : Tolerant (· ≠ .emitted (.reconnecting n)) := by
  constructor <;> simp

theorem tolerant_ne_dialled (r : ConnectRequest) : Tolerant (· ≠ .dialled r) := by
  constructor <;> simp

def Announces (n : Nat) (s t : Session) : Prop :=
  Notes (.emitted (.reconnecting n)) s t

theorem notes_of_course {C : Call → Prop} {time : Nat} (hu : Course (fun _ => True) C s u)
    (ht : Course (fun _ => True) C { u with trace := ⟨time, h⟩ :: u.trace } t) : Notes h s t := by
  obtain ⟨before, hb, _⟩ := hu.trace tolerant_true
  obtain ⟨added, ha, _⟩ := ht.trace tolerant_true
  refine ⟨added ++ ⟨time, h⟩ :: before, ?_, ⟨time, h⟩, by simp, rfl⟩
  rw [ha, hb]
  simp

theorem announces_of_redial {n : Nat} {backoff : Span} (hu : s.activity.underWay = true)
    (hopen : s.closing = false) (hd : s.link.tick.1 = .redial n backoff) : Announces n s s.onTick := by
  have o : Terms (fun _ => True) (fun _ => True) s := ⟨tolerant_true, fun _ _ _ _ _ => trivial, hu⟩
  have hl := (Course.refl s).setLink (P := fun _ => True) (C := fun _ => True) s.link.tick.2
  have hbefore := (((hl.log o .warn "Ticker watchdog expired, reconnecting"
    [("attempt", countText n), ("backoff_secs", countText backoff.seconds)]).record o .reconnect).abort o).publish o
  have hnoted := hbefore.note (h := .emitted (.reconnecting n)) trivial
  have o' : Terms (fun _ => True) (fun _ => True) _ := ⟨tolerant_true, fun _ _ _ _ _ => trivial, hnoted.busy o⟩
  have hafter : Course (fun _ => True) (fun _ => True) _ (s.retrying n backoff) := (Course.refl _).emit_of_note o'
  rw [onTick_of_redial hopen hd]
  apply notes_of_course hbefore
  split
  · exact hafter
  · exact hafter.attempt o' (fun _ _ _ => trivial) fun _ _ => trivial

theorem Step.announces_iff {m : Move} {n : Nat} (hs : Step m s t) :
    Announces n s t ↔
      m = .driver .tick ∧ s.closing = false ∧ ∃ backoff, s.link.tick.1 = .redial n backoff := by
  constructor
  · intro hn
    apply Classical.byContradiction
    intro hx
    refine hs.not_notes (tolerant_ne_reconnecting n) ?_ (by simp) hn
    rintro task rfl
    refine ⟨by simp, fun htask hopen k backoff hd => ⟨?_, by simp⟩, by simp, by simp, by simp⟩
    rintro hk
    obtain rfl : k = n := by simpa using hk
    exact hx ⟨by rw [htask], hopen, backoff, hd⟩
  · rintro ⟨rfl, hopen, backoff, hd⟩
    cases hs with
    | driver hw =>
      cases hw with
      | tick hi _ =>
        have hu : Announces n { s with due := s.nextDue } { s with due := s.nextDue }.onTick :=
          announces_of_redial (by rw [hi]; rfl) hopen hd
        exact hu.of_trace_eq rfl

theorem attempt_dials {r : ConnectRequest} {cause : Cause} {limit : Span} (hu : u.activity.underWay = true)
    (hn : Notes (.dialled r) u (u.attempt cause limit)) :
    ∃ l, u.link.beginConnect? = some l ∧ u.attempt cause limit = ({ u with link := l }.publish).dial cause limit := by
  cases hb : u.link.beginConnect? with
  | some l => exact ⟨l, rfl, attempt_of_some hb⟩
  | none =>
    have o : Terms (· ≠ .dialled r) (fun _ => True) u :=
      ⟨tolerant_ne_dialled r, fun _ _ _ _ _ => trivial, hu⟩
    have ht : Course (· ≠ .dialled r) (fun _ => True) u (u.attempt cause limit) := by
      unfold attempt
      rw [hb]
      exact ((Course.refl u).log o ..).concludeAttempt o (by simp)
    obtain ⟨added, htrace, ha⟩ := ht.trace o.tolerant
    exact absurd hn (not_notes htrace ha)

theorem onTick_dials {r : ConnectRequest} {n : Nat} {backoff : Span} (hu : s.activity.underWay = true)
    (hopen : s.closing = false) (hd : s.link.tick.1 = .redial n backoff) (hn : Notes (.dialled r) s s.onTick) :
    ∃ (v : Session) (cause : Cause) (limit : Span),
      s.onTick = v.dial cause limit ∧ v.connection = none ∧ v.net = s.net.letGo s.connection := by
  have o : Terms (· ≠ .dialled r) (fun _ => True) s :=
    ⟨tolerant_ne_dialled r, fun _ _ _ _ _ => trivial, hu⟩
  have hl : Course (· ≠ .dialled r) (fun _ => True) s { s with link := s.link.tick.2 } := (Course.refl s).setLink _
  have ht : Course (· ≠ .dialled r) (fun _ => True) s (s.retrying n backoff) :=
    ((((hl.log o ..).record o _).abort o).publish o).emit o (by simp)
  obtain ⟨added, htrace, ha⟩ := ht.trace o.tolerant
  have hphase : s.link.tick.2.phase = .disconnected := by simpa [hd] using s.link.phase_tick
  have hh := helm_retrying s n backoff
  rw [onTick_of_redial hopen hd] at hn ⊢
  generalize s.retrying n backoff = u at htrace hh hn ⊢
  have hlink : u.link = s.link.tick.2 := (congrArg Session.link hh :)
  split at hn
  · exact absurd hn (not_notes htrace ha)
  · rename_i hclosing
    rw [if_neg hclosing, attempt_of_some (Link.beginConnect?_of_disconnected (hlink ▸ hphase))]
    exact ⟨_, _, _, rfl, (congrArg Session.connection hh :), (congrArg Session.net hh :)⟩

theorem Works.dials {task : Task} {r : ConnectRequest} (hw : Works task s t) (hc : s.Coherent)
    (hn : Notes (.dialled r) s t) :
    s.activity = .idle ∧ ∃ (v : Session) (cause : Cause) (limit : Span),
      t = v.dial cause limit ∧ v.connection = none ∧ v.net = s.net.letGo s.connection := by
  have hs := Step.driver hw
  have others (hconnect : task = .command → ¬∃ id, s.queue.head? = some (.connect id))
      (hredial : task = .tick → s.closing = false → ¬∃ n backoff, s.link.tick.1 = .redial n backoff) : False := by
    refine hs.not_notes (tolerant_ne_dialled r) (fun _ ht => Move.driver.inj ht ▸ ?_) (by simp) hn
    exact ⟨fun ht hq => absurd hq (hconnect ht),
      fun ht hopen n backoff hd => absurd ⟨n, backoff, hd⟩ (hredial ht hopen), by simp, by simp, by simp⟩
  cases hw with
  | @command _ c rest hi _ hq =>
    cases c with
    | connect id =>
      have hu : ({ s with queue := rest } : Session).activity.underWay = true := by
        change s.activity.underWay = true
        rw [hi]
        rfl
      obtain ⟨l, hl, ht⟩ := attempt_dials hu (hn.of_trace_eq rfl)
      have hnone : s.connection = none := by
        have hl : s.link.beginConnect? = some l := hl
        apply hc.connection_of_ne
        rcases (Link.beginConnect?_eq_some hl).1 with hp | hp
        · simp [hp]
        · simp [hp]
      refine ⟨hi, _, _, _, ht, hnone, ?_⟩
      rw [hnone]
      rfl
    | _ => exact (others (by simp [hq]) (by simp)).elim
  | tick hi _ =>
    by_cases hd : s.closing = false ∧ ∃ n backoff, s.link.tick.1 = .redial n backoff
    · obtain ⟨hopen, n, backoff, hd⟩ := hd
      have hu : ({ s with due := s.nextDue } : Session).activity.underWay = true := by
        change s.activity.underWay = true
        rw [hi]
        rfl
      exact ⟨hi, onTick_dials hu hopen hd (hn.of_trace_eq rfl)⟩
    · exact (others (by simp) fun _ hopen hx => hd ⟨hopen, hx⟩).elim
  | delivery => exact (others (by simp) (by simp)).elim
  | handshake => exact (others (by simp) (by simp)).elim
  | restore => exact (others (by simp) (by simp)).elim
  | conclude => exact (others (by simp) (by simp)).elim
  | hungUp => exact (others (by simp) (by simp)).elim
  | hangUpLate => exact (others (by simp) (by simp)).elim
  | collapse => exact (others (by simp) (by simp)).elim
  | stop => exact (others (by simp) (by simp)).elim

end MarketTicker.Session
