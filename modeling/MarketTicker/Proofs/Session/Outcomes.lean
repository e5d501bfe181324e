import MarketTicker.Proofs.Session.Acts
import MarketTicker.Proofs.Session.Verdict

namespace MarketTicker.Session

section

variable {s t u v x y : Session} {m : Move} {ms : List Move} {cause : Cause} {limit : Span} {id : Nat}

/-- The attempts, each with its time: one for a command that is taken up at `s`, and one for a countdown that runs
out at `s` and has been told of at `v`. Then the driver is at `t`, and may be done already. -/
inductive Begins : Cause → Span → Session → Session → Session → Prop
  | command {s : Session} {id : Nat} {rest : List Command} :
      s.activity = .idle → s.timerFails = false → s.queue = .connect id :: rest →
      Begins (.caller id) s.setup.connectTimeout s { s with queue := rest }
        ({ s with queue := rest }.attempt (.caller id) s.setup.connectTimeout)
  | redial {s v : Session} {n : Nat} {backoff : Span} :
      s.activity = .idle → s.timerFails = false → s.closing = false → s.link.tick.1 = .redial n backoff →
      v = { s with due := s.nextDue }.retrying n backoff → v.closing = false →
      Begins (.retry s.now) (s.setup.connectTimeout.shorter backoff) s v
        (v.attempt (.retry s.now) (s.setup.connectTimeout.shorter backoff))

theorem Begins.works (h : Begins cause limit s v t) : ∃ task, Works task s t := by
  cases h with
  | command hi hf hq => exact ⟨_, .command hi hf hq⟩
  | @redial _ _ n backoff hi hf hopen hd hv hstill =>
    have hw := Works.tick hi hf
    rw [onTick_of_redial (s := { s with due := s.nextDue }) hopen hd, ← hv, if_neg (by simp [hstill])] at hw
    exact ⟨_, hw⟩

section

variable (hi : v.activity = .idle) (hc : v.Coherent)

include hi hc

theorem progress_of_up (hup : v.link.phase = .connected) (hw : (id, .waiting) ∈ v.callers) (he : Enrolled v) :
    Progress (.caller id) limit v (v.attempt (.caller id) limit) [] (v.attempt (.caller id) limit) := by
  have hb : v.link.beginConnect? = none := by simp only [Link.beginConnect?, hup]
  have hanswer (r : LogRecord) :
      (v.note (.logged r)).concludeAttempt (.caller id) (.ok ()) = (v.note (.logged r)).answer id (.ok ()) := by
    have hsame : { v.note (.logged r) with activity := .idle } = v.note (.logged r) := by rw [← hi]; rfl
    rw [concludeAttempt, hsame]
  have hheld : v.connection.isSome = true := by
    rw [hc.held, Link.connected, hup]
    rfl
  rw [attempt_of_none hb]
  refine .ended rfl (.standing rfl hup (hc.published.trans hup) hheld (hanswer _)) fun k hk => ?_
  obtain rfl := Cause.caller.inj hk
  exact Answers.settled (s := v) (.concludeAttempt (.of_eq rfl rfl) id (.ok ())) he hw

theorem progress_of_down (hdown : v.link.phase ≠ .connected)
    (hwaits : ∀ id, cause = .caller id → Enrolled v ∧ (id, .waiting) ∈ v.callers) :
    Progress cause limit v (v.attempt cause limit) [] (v.attempt cause limit) := by
  have hu : v.activity.underWay = true := by rw [hi]; rfl
  cases hb : v.link.beginConnect? with
  | none => exact absurd ((Link.beginConnect?_eq_none hb).resolve_left (hc.ne_connecting (by rw [hi]; rfl))) hdown
  | some l =>
    obtain ⟨_, rfl⟩ := Link.beginConnect?_eq_some hb
    let published := ({ v with link := { v.link with phase := .connecting } } : Session).publish
    have hpending (r : LogRecord) : Pending v [] (published.note (.logged r)) :=
      ⟨hdown, rfl, hc.connection_of_ne hdown, rfl,
        (utterances_note _ _).trans ((List.append_nil _).trans (utterances_publish _))⟩
    rw [attempt_of_some hb]
    obtain ⟨r, ⟨fault, hf, hd⟩ | ⟨hopen, net, request, hd⟩⟩ := dial_eq published cause limit
    · have hbarred : v.Barred fault := by
        cases hf with
        | cancelled hc => exact .cancelled hc
        | gate hc hgate => exact .gate hc hgate
      rw [hd]
      refine .ended (congrArg Session.activity (helm_attemptFailed (published.note (.logged r)) cause fault) :)
        (.barred rfl hbarred ((hpending r).failed cause fault)) fun id hid => ?_
      obtain ⟨he, hw⟩ := hwaits id hid
      have hanswers := answers_attemptFailed (s := published.note (.logged r)) hu id fault
      rw [hid]
      exact Answers.settled (s := v) (.after (u := published.note (.logged r)) (.of_eq rfl rfl) hanswers) he hw
    · rw [hd]
      have hp := hpending r
      refine .pending hopen (.nil _) rfl ⟨hdown, hp.link, hp.connection, hp.watchlist, ?_⟩
      exact (utterances_note _ _).trans ((List.append_nil _).trans hp.utterances)

end

theorem Begins.progress (h : Begins cause limit s v t) (hs : s.Reachable) : Progress cause limit v t [] t := by
  cases h with
  | @command _ id rest hi hf hq =>
    have hl := hs.ledger
    have hc : Coherent { s with queue := rest } := (hs.coherent (by simp [hi])).of_helm rfl
    have he : Enrolled { s with queue := rest } := ⟨hl.enrolled.nodup, hl.enrolled.known⟩
    have hw := hl.waits_of_queued (by rw [hq]; exact List.mem_cons_self)
    by_cases hup : s.link.phase = .connected
    · exact progress_of_up hi hc hup hw he
    · exact progress_of_down hi hc hup fun k hk => Cause.caller.inj hk ▸ ⟨he, hw⟩
  | @redial _ _ n backoff hi hf hopen hd hv hstill =>
    have hx := helm_retrying { s with due := s.nextDue } n backoff
    rw [← hv] at hx
    have hphase : s.link.tick.2.phase = .disconnected := by simpa [hd] using s.link.phase_tick
    have hl : v.link = s.link.tick.2 := (congrArg Session.link hx :)
    refine progress_of_down ((congrArg Session.activity hx :).trans hi) ?_ ?_ fun id hid => by cases hid
    · rw [← coherent_helm, hx]
      exact coherent_afterExpiry hi (by simp [hd])
    · rw [hl, hphase]
      simp

inductive Pursuit (id : Nat) (s : Session) : Session → Prop
  | queued {before : List Move} {t : Session} : Run before s t → .connect id ∈ t.queue → Pursuit id s t
  | begun {before during : List Move} {limit : Span} {x v y t : Session} :
      Run before s x → Begins (.caller id) limit x v y → Engaged during y t → Progress (.caller id) limit v y during t →
      t.activity ≠ .idle → Pursuit id s t
  | ended {before during after : List Move} {limit : Span} {x v y e t : Session} {result : Except ConnectFault Unit} :
      Run before s x → Begins (.caller id) limit x v y → Engaged during y e → e.activity = .idle →
      Verdict (.caller id) limit v y during e result → Run after e t → Settled id result t → Pursuit id s t
  | broken {t : Session} : s.timerFails = true → Settled id (.error .notRunning) t → Pursuit id s t

namespace Pursuit

theorem of_progress {before during : List Move} (hr : Run before s x) (hb : Begins (.caller id) limit x v y)
    (he : Engaged during y t) (hp : Progress (.caller id) limit v y during t) : Pursuit id s t := by
  by_cases hi : t.activity = .idle
  · obtain ⟨result, hv, hset⟩ := hp.verdict hi
    exact .ended hr hb he hi hv (.nil t) (hset id rfl)
  · exact .begun hr hb he hp hi

theorem works {before : List Move} {task : Task} (hr : Run before s t) (hq : .connect id ∈ t.queue)
    (ht : t.Reachable) (hw : Works task t u) : Pursuit id s u := by
  have hnext : Run (before ++ [.driver task]) s u := hr.append (.single (.driver hw))
  by_cases hstop : task = .stop
  · subst hstop
    cases hw with
    | collapse _ hf =>
      have hset := settled_collapse ht.ledger.enrolled (ht.ledger.waits_of_queued hq)
      exact .broken (hr.timerFails.symm.trans hf) hset
    | stop _ _ hempty =>
      rw [hempty] at hq
      cases hq
  · have hadds := (hw.course_any hstop).adds
    by_cases hcommand : task = .command
    · subst hcommand
      cases hw with
      | @command _ c rest hi hf hqueue =>
        rw [hqueue] at hq
        rw [taken, hqueue] at hadds
        rcases List.mem_cons.1 hq with rfl | hlater
        · have hb := Begins.command hi hf hqueue
          exact of_progress hr hb (.nil _) (hb.progress ht)
        · exact .queued hnext (hadds.mem hlater)
    · refine .queued hnext (hadds.mem ?_)
      cases task with
      | command => exact absurd rfl hcommand
      | _ => exact hq

theorem step (h : Pursuit id s t) (ht : t.Reachable) (hs : Step m t u) : Pursuit id s u := by
  cases h with
  | queued hr hq =>
    have hnext := hr.append (.single hs)
    have keeps (ha : Adds t u) : Pursuit id s u := .queued hnext (ha.mem hq)
    cases hs with
    | driver hw => exact works hr hq ht hw
    | call c => exact keeps (Called.call t c).adds
    | @connect _ k _ =>
      obtain ⟨_, _, _, cs, hb, _⟩ := beginConnect_eq t k
      refine .queued hnext ?_
      rw [hb]
      exact List.mem_append_left cs hq
    | returned => exact keeps (.of_eq rfl rfl rfl)
    | wait => exact keeps (.of_eq rfl rfl rfl)
    | push wire d =>
      obtain ⟨net, hp, _⟩ := push_eq t wire d
      exact keeps (hp ▸ .of_eq rfl rfl rfl)
    | listen => exact keeps (.of_eq rfl rfl rfl)
    | drop => exact keeps (.of_eq rfl rfl rfl)
  | begun hr hb he hp hbusy => exact of_progress hr hb (he.snoc hbusy hs) (hp.step ht.ledger hbusy hs)
  | ended hr hb he hi hv ha hset => exact .ended hr hb he hi hv (ha.append (.single hs)) (hset.step ht.ledger hs)
  | broken hf hset => exact .broken hf (hset.step ht.ledger hs)

theorem run (hs : s.Reachable) (hq : .connect id ∈ s.queue) (hr : Run ms s t) : Pursuit id s t := by
  have key := hr.preserves (P := fun t => t.Reachable ∧ Pursuit id s t)
    (fun hs ⟨ht, h⟩ => ⟨ht.run (.single hs), h.step ht hs⟩) ⟨hs, .queued (.nil s) hq⟩
  exact key.2

end Pursuit

end

end MarketTicker.Session
