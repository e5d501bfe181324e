import MarketTicker.Session.Scenario

namespace MarketTicker

/-- What the driver may do next; which of them it does is left open. -/
inductive Task where
  | command
  | tick
  | delivery
  | handshake
  | restore
  | hangUp
  | stop
  deriving DecidableEq

inductive Move where
  | driver (task : Task)
  | call (c : Call)
  | connect (caller : Nat)
  | returned (caller : Nat)
  | wait
  | push
  | listen
  | drop
  deriving DecidableEq

namespace Session

inductive Works : Task → Session → Session → Prop
  | command {s : Session} {c : Command} {rest : List Command} :
      s.activity = .idle → s.timerFails = false → s.queue = c :: rest →
      Works .command s ({ s with queue := rest }.handleCommand c)
  | tick {s : Session} :
      s.activity = .idle → s.timerFails = false → Works .tick s ({ s with due := s.nextDue }.onTick)
  | delivery {s t : Session} {d : Delivery} :
      s.activity = .idle → s.timerFails = false → s.takeDelivery? = some (d, t) →
      Works .delivery s (t.receive d)
  | handshake {s t : Session} {d : Dial} :
      s.activity = .dialing d → s.settleDial d = some t → Works .handshake s t
  | restore {s : Session} {c : Control} {rest : List Control} {sequel : Sequel} :
      s.activity = .restoring (c :: rest) sequel →
      Works .restore s ({ s with activity := .restoring rest sequel }.send c)
  | conclude {s : Session} {sequel : Sequel} :
      s.activity = .restoring [] sequel → Works .restore s (s.conclude sequel)
  | hungUp {s : Session} {wire : Nat} {previous : Link.Phase} {deadline : Nat} :
      s.activity = .hangingUp wire previous deadline → Works .hangUp s (s.hungUp wire previous)
  | hangUpLate {s : Session} {wire : Nat} {previous : Link.Phase} {deadline : Nat} :
      s.activity = .hangingUp wire previous deadline → deadline ≤ s.now →
      Works .hangUp s ((s.log .debug "Ticker close handshake timed out" []).hungUp wire previous)
  | collapse {s : Session} :
      s.activity = .idle → s.timerFails = true → Works .stop s s.collapse
  | stop {s : Session} :
      s.activity = .idle → s.timerFails = false → s.queue = [] → s.alive = false → Works .stop s s.stop

theorem Works.settles {task : Task} {s t : Session} {d : Dial} (hw : Works task s t) (hd : s.activity = .dialing d) :
    task = .handshake ∧ s.settleDial d = some t := by
  cases hw with
  | handshake hd' h =>
    obtain rfl := Activity.dialing.inj (hd.symm.trans hd')
    exact ⟨rfl, h⟩
  | command hi => cases hd.symm.trans hi
  | tick hi => cases hd.symm.trans hi
  | delivery hi => cases hd.symm.trans hi
  | restore hr => cases hd.symm.trans hr
  | conclude hr => cases hd.symm.trans hr
  | hungUp hh => cases hd.symm.trans hh
  | hangUpLate hh => cases hd.symm.trans hh
  | collapse hi => cases hd.symm.trans hi
  | stop hi => cases hd.symm.trans hi

theorem Works.restores {task : Task} {s t : Session} {rest : List Control} {sequel : Sequel} (hw : Works task s t)
    (hr : s.activity = .restoring rest sequel) :
    task = .restore ∧
      (rest = [] ∧ t = s.conclude sequel ∨
        ∃ c later, rest = c :: later ∧ t = { s with activity := .restoring later sequel }.send c) := by
  cases hw with
  | restore hr' =>
    obtain ⟨rfl, rfl⟩ := Activity.restoring.inj (hr.symm.trans hr')
    exact ⟨rfl, .inr ⟨_, _, rfl, rfl⟩⟩
  | conclude hr' =>
    obtain ⟨rfl, rfl⟩ := Activity.restoring.inj (hr.symm.trans hr')
    exact ⟨rfl, .inl ⟨rfl, rfl⟩⟩
  | command hi => cases hr.symm.trans hi
  | tick hi => cases hr.symm.trans hi
  | delivery hi => cases hr.symm.trans hi
  | handshake hd => cases hr.symm.trans hd
  | hungUp hh => cases hr.symm.trans hh
  | hangUpLate hh => cases hr.symm.trans hh
  | collapse hi => cases hr.symm.trans hi
  | stop hi => cases hr.symm.trans hi

/-- A step of the driver, of a caller or of the surroundings; calls are whole. -/
inductive Step : Move → Session → Session → Prop
  | driver {task : Task} {s t : Session} : Works task s t → Step (.driver task) s t
  | call (c : Call) (s : Session) : Step (.call c) s (s.call c)
  | connect {s : Session} {id : Nat} :
      (id, .ready) ∈ s.callers → Step (.connect id) s (s.beginConnect id)
  | returned {s : Session} {id : Nat} {result : Except ConnectFault Unit} :
      (id, .answered result) ∈ s.callers →
      Step (.returned id) s
        ({ s with callers := s.callers.filter (·.1 ≠ id) }.note (.returned id result))
  | wait {s : Session} {now : Nat} : s.now ≤ now → Step .wait s { s with now }
  | push (wire : Option Nat) (d : Delivery) (s : Session) : Step .push s (s.push wire d).2
  | listen (handlers : Handlers Handler) (s : Session) : Step .listen s { s with handlers }
  | drop (s : Session) : Step .drop s { s with dropped := true }

inductive Run : List Move → Session → Session → Prop
  | nil (s : Session) : Run [] s s
  | cons {m : Move} {ms : List Move} {s t u : Session} : Step m s t → Run ms t u → Run (m :: ms) s u

namespace Run

variable {ms ns : List Move} {m : Move} {s t u : Session}

theorem single (h : Step m s t) : Run [m] s t :=
  .cons h (.nil t)

theorem append (h : Run ms s t) (h' : Run ns t u) : Run (ms ++ ns) s u := by
  induction h with
  | nil => exact h'
  | cons hs _ ih => exact .cons hs (ih h')

theorem keeps {P : Session → Prop} {M : Move → Prop} (hP : ∀ {m s t}, M m → Step m s t → P s → P t)
    (h : Run ms s t) (hM : ∀ m ∈ ms, M m) (hs : P s) : P t := by
  induction h with
  | nil => exact hs
  | cons hst _ ih =>
    exact ih (fun m hm => hM m (List.mem_cons_of_mem _ hm)) (hP (hM _ List.mem_cons_self) hst hs)

theorem preserves {P : Session → Prop} (hP : ∀ {m s t}, Step m s t → P s → P t) (h : Run ms s t) (hs : P s) :
    P t :=
  h.keeps (M := fun _ => True) (fun _ => hP) (fun _ _ => trivial) hs

end Run

def Reachable (s : Session) : Prop :=
  ∃ setup credentials handlers net gate ms, Run ms (start setup credentials handlers net gate) s

namespace Reachable

variable {ms : List Move} {s t : Session}

theorem run (h : s.Reachable) (hr : Run ms s t) : t.Reachable := by
  obtain ⟨setup, credentials, handlers, net, gate, earlier, hs⟩ := h
  exact ⟨setup, credentials, handlers, net, gate, earlier ++ ms, hs.append hr⟩

theorem invariant {P : Session → Prop} (h : s.Reachable)
    (hstart : ∀ setup credentials handlers net gate, P (start setup credentials handlers net gate))
    (hP : ∀ {m s t}, Step m s t → P s → P t) : P s := by
  obtain ⟨setup, credentials, handlers, net, gate, ms, hr⟩ := h
  exact hr.preserves hP (hstart setup credentials handlers net gate)

end Reachable

theorem works_of_driverStep? {s t : Session} (h : s.driverStep? = some t) : ∃ task, Works task s t := by
  unfold driverStep? at h
  split at h
  · cases h
  · cases h
  · rename_i hidle
    unfold idleStep? at h
    split at h
    · rename_i hfails
      cases h
      exact ⟨_, .collapse hidle hfails⟩
    · rename_i hfails
      rw [Bool.not_eq_true] at hfails
      split at h
      · rename_i hq
        cases h
        exact ⟨_, .command hidle hfails hq⟩
      · rename_i hq
        split at h
        · rename_i hdead
          cases h
          exact ⟨_, .stop hidle hfails hq (by simpa using hdead)⟩
        · split at h
          · cases h
            exact ⟨_, .tick hidle hfails⟩
          · obtain ⟨⟨d, u⟩, hd, rfl⟩ := Option.map_eq_some_iff.1 h
            exact ⟨_, .delivery hidle hfails hd⟩
  · rename_i hdial
    exact ⟨_, .handshake hdial h⟩
  · rename_i hr
    cases h
    exact ⟨_, .conclude hr⟩
  · rename_i hr
    cases h
    exact ⟨_, .restore hr⟩
  · rename_i hh
    split at h
    · rename_i hlate
      cases h
      exact ⟨_, .hangUpLate hh hlate⟩
    · cases h

end Session

end MarketTicker
