import MarketTicker.Proofs.Session.Acts
import MarketTicker.Proofs.Session.Finality
import MarketTicker.Proofs.Session.Ledger

namespace MarketTicker.Session

section

variable {s t u : Session} {m : Move} {ms : List Move} {id : Nat} {result : Except ConnectFault Unit}

structure Abandoned (id : Nat) (d : Dial) (s : Session) : Prop where
  dialing : s.activity = .dialing d
  cause : d.cause = .caller id
  begun : d.generation ≤ s.generation
  cancelled : s.isCancelled d.generation = true

theorem isCancelled_iff {generation : Nat} :
    s.isCancelled generation = true ↔ generation < s.generation ∨ s.cancelled = true := by
  rw [isCancelled, Bool.or_eq_true, decide_eq_true_iff]

theorem generation_beginConnect (s : Session) (id : Nat) :
    (s.beginConnect id).generation = if s.cancelled = true then s.generation + 1 else s.generation := by
  have hr : s.clearClosing.renewGeneration.launch.generation =
      if s.cancelled = true then s.generation + 1 else s.generation := by
    have hl (u : Session) : u.launch.generation = u.generation := by
      rw [launch]
      split
      · rfl
      · rfl
    have hc : s.clearClosing.cancelled = s.cancelled := rfl
    rw [hl, renewGeneration, hc]
    split
    · rfl
    · rfl
  rw [beginConnect]
  split
  · exact hr
  · rw [enqueue]
    split
    · exact hr
    · exact hr

theorem isCancelled_beginConnect {generation k : Nat} (hle : generation ≤ s.generation)
    (h : s.isCancelled generation = true) : (s.beginConnect k).isCancelled generation = true := by
  have hg := generation_beginConnect s k
  rw [isCancelled_iff] at h ⊢
  left
  split at hg
  · omega
  · rename_i hc
    have hlt : generation < s.generation := h.resolve_right hc
    omega

theorem generation_of_dialing {cause : Cause} {limit : Span} {d : Dial}
    (hd : (s.attempt cause limit).activity = .dialing d) : d.generation = s.generation := by
  cases hb : s.link.beginConnect? with
  | none =>
    have hh : (s.attempt cause limit).helm = { s.helm with activity := .idle } := helm_attempt_of_none hb
    have hi : (s.attempt cause limit).activity = .idle := (congrArg Session.activity hh :)
    rw [hi] at hd
    cases hd
  | some l =>
    rw [attempt_of_some hb] at hd
    rcases helm_dial ({ s with link := l }.publish) cause limit with ⟨fault, hh⟩ | ⟨_, _, d', _, hg, hh⟩
    · rw [helm_attemptFailed] at hh
      cases hd.symm.trans (congrArg Session.activity hh :)
    · obtain rfl : d = d' := Activity.dialing.inj (hd.symm.trans (congrArg Session.activity hh :))
      exact hg

theorem Works.generation {task : Task} (hw : Works task s t) : t.generation = s.generation := by
  by_cases ht : task = .stop
  · subst ht
    cases hw with
    | collapse => rfl
    | stop => exact (congrArg Session.generation (helm_stop s) :)
  · refine (hw.course_any ht).generation.trans ?_
    cases task <;> rfl

theorem Works.begun {task : Task} {d : Dial} (hw : Works task s t) (hd : t.activity = .dialing d)
    (hid : d.cause = .caller id) : d.generation = t.generation := by
  have hstop : task ≠ .stop := by
    rintro rfl
    cases hw with
    | collapse => cases hd
    | stop => cases hd.symm.trans (congrArg Session.activity (helm_stop s) :)
  have hcaller : t.activity.caller? = some id := by
    rw [hd, Activity.caller?, hid]
    rfl
  have hserved : served? task s = some id := by
    rcases hw.caller? hstop with hnone | hsame
    · cases hnone.symm.trans hcaller
    · exact hsame.symm.trans hcaller
  rw [hw.generation]
  cases hw with
  | @command _ c rest _ _ hq =>
    cases c with
    | connect k => exact generation_of_dialing (s := { s with queue := rest }) hd
    | _ => simp [served?, hq, Command.caller?] at hserved
  | tick hi => simp [served?, hi, Activity.caller?] at hserved
  | delivery hi => simp [served?, hi, Activity.caller?] at hserved
  | @handshake _ _ d' _ h =>
    rcases settleDial_eq_some h with ⟨fault, rfl⟩ | ⟨_, manner, rfl⟩
    · cases hd.symm.trans (congrArg Session.activity (helm_attemptFailed s d'.cause fault) :)
    · cases hd.symm.trans (congrArg Session.activity (helm_attemptSucceeded s d'.cause manner) :)
  | @restore _ c rest sequel _ =>
    rcases helm_send { s with activity := .restoring rest sequel } c with hh | ⟨_, _, hh⟩
    · cases hd.symm.trans (congrArg Session.activity hh :)
    · cases hd.symm.trans (congrArg Session.activity hh :)
  | @conclude _ sequel _ => cases hd.symm.trans (congrArg Session.activity (helm_conclude s sequel) :)
  | hungUp hh => simp [served?, hh, Activity.caller?] at hserved
  | hangUpLate hh => simp [served?, hh, Activity.caller?] at hserved
  | collapse => exact absurd rfl hstop
  | stop => exact absurd rfl hstop

/-- No handshake for a caller watches a generation that is still to come. -/
def Begun (s : Session) : Prop :=
  ∀ id d, s.activity = .dialing d → d.cause = .caller id → d.generation ≤ s.generation

theorem Begun.step (h : Begun s) (hs : Step m s t) : Begun t := by
  have hkeep (ha : t.activity = s.activity) (hg : s.generation ≤ t.generation) : Begun t :=
    fun id d hd hid => Nat.le_trans (h id d (ha.symm.trans hd) hid) hg
  cases hs with
  | driver hw => exact fun id d hd hid => Nat.le_of_eq (hw.begun hd hid)
  | call c =>
    have hh := (Called.call s c).helm
    exact hkeep (activity_of_helm hh) (Nat.le_of_eq (congrArg Session.generation hh :).symm)
  | @connect _ k _ =>
    intro id d hd hid
    obtain ⟨_, _, _, _, hb, _⟩ := beginConnect_eq s k
    have hg := generation_beginConnect s k
    have ha : s.activity = .dialing d := by
      rw [hb] at hd
      dsimp only at hd
      split at hd
      · cases hd
      · exact hd
    have hle := h id d ha hid
    split at hg <;> omega
  | returned => exact hkeep rfl (Nat.le_refl _)
  | wait => exact hkeep rfl (Nat.le_refl _)
  | push wire d =>
    obtain ⟨net, hp, _⟩ := push_eq s wire d
    rw [hp] at hkeep ⊢
    exact hkeep rfl (Nat.le_refl _)
  | listen => exact hkeep rfl (Nat.le_refl _)
  | drop => exact hkeep rfl (Nat.le_refl _)

theorem Reachable.begun (h : s.Reachable) : Begun s := by
  refine h.invariant (fun _ _ _ _ _ => ?_) fun hs h => h.step hs
  intro id d hd
  cases hd

theorem Abandoned.step {d : Dial} (h : Abandoned id d s) (hl : Ledger s) (hs : Step m s t) :
    Abandoned id d t ∨ Settled id (.error .cancelled) t := by
  have hfixed (ha : t.activity = s.activity) (hg : t.generation = s.generation)
      (hc : s.cancelled = true → t.cancelled = true) : Abandoned id d t := by
    refine ⟨ha.trans h.dialing, h.cause, hg ▸ h.begun, ?_⟩
    rw [isCancelled_iff, hg]
    exact (isCancelled_iff.1 h.cancelled).imp_right hc
  cases hs with
  | driver hw =>
    right
    obtain ⟨_, hsettle⟩ := hw.settles h.dialing
    have hwaits : (id, .waiting) ∈ s.callers := by
      apply hl.waits_of_served
      rw [h.dialing, Activity.caller?, h.cause]
      rfl
    rw [settleDial, if_pos h.cancelled, h.cause] at hsettle
    obtain rfl := Option.some.inj hsettle
    exact (answers_attemptFailed (by rw [h.dialing]; rfl) id .cancelled).settled hl.enrolled hwaits
  | call c =>
    have hh := (Called.call s c).helm
    refine .inl (hfixed (activity_of_helm hh) (congrArg Session.generation hh :) fun hc => ?_)
    obtain ⟨_, _, _, ⟨_, hca⟩ | ⟨_, hca, _⟩⟩ := (Called.call s c).adds
    · exact hca.trans hc
    · exact hca
  | @connect _ k _ =>
    obtain ⟨_, _, _, _, hb, _⟩ := beginConnect_eq s k
    have ha : (s.beginConnect k).activity = s.activity := by
      rw [hb, h.dialing]
      rfl
    have hg := generation_beginConnect s k
    refine .inl ⟨ha.trans h.dialing, h.cause, ?_, isCancelled_beginConnect h.begun h.cancelled⟩
    have hle := h.begun
    split at hg <;> omega
  | returned => exact .inl (hfixed rfl rfl fun hc => hc)
  | wait => exact .inl (hfixed rfl rfl fun hc => hc)
  | push wire d =>
    obtain ⟨net, hp, _⟩ := push_eq s wire d
    rw [hp] at hfixed ⊢
    exact .inl (hfixed rfl rfl fun hc => hc)
  | listen => exact .inl (hfixed rfl rfl fun hc => hc)
  | drop => exact .inl (hfixed rfl rfl fun hc => hc)

theorem Abandoned.run {d : Dial} (h : Abandoned id d s) (hl : Ledger s) (hr : Run ms s t) :
    Abandoned id d t ∨ Settled id (.error .cancelled) t := by
  have key := hr.preserves (P := fun s => Ledger s ∧ (Abandoned id d s ∨ Settled id (.error .cancelled) s)) ?_
    ⟨hl, .inl h⟩
  · exact key.2
  · rintro m s t hs ⟨hl, h | h⟩
    · exact ⟨hl.step hs, h.step hl hs⟩
    · exact ⟨hl.step hs, .inr (h.step hl hs)⟩

/-- A command for a caller that closing has found in the queue, at its place there. -/
structure Recalled (id n : Nat) (s : Session) : Prop where
  queued : s.queue[n]? = some (.connect id)
  cancelled : s.cancelled = true

structure Meets (id : Nat) (s : Session) : Prop where
  head : s.queue.head? = some (.connect id)
  connected : s.link.phase = .connected

def Met (id : Nat) (s : Session) (ms : List Move) : Prop :=
  ∃ pre v post, ms = pre ++ .driver .command :: post ∧ Run pre s v ∧ Meets id v

def MovedUp (id : Nat) (s : Session) (ms : List Move) (n : Nat) : Prop :=
  ∀ first : Nat, s.queue[first]? = some (.connect id) → n + ms.count (.driver .command) = first

/-- What becomes of a call to connect that closing came upon. -/
inductive Fate (id : Nat) (place : Nat → Prop) (met : Prop) (s : Session) : Prop
  | queued {n : Nat} : place n → Recalled id n s → Fate id place met s
  | dialing {d : Dial} : Abandoned id d s → Fate id place met s
  | cancelled : Settled id (.error .cancelled) s → Fate id place met s
  | connected : met → Settled id (.ok ()) s → Fate id place met s
  | broken : s.timerFails = true → Settled id (.error .notRunning) s → Fate id place met s

section

variable (hu : s.activity.underWay = true) (hc : s.cancelled = true) (id : Nat) (limit : Span)

include hu hc

theorem answers_dial_of_cancelled : Answers id (.error .cancelled) s (s.dial (.caller id) limit) := by
  rw [dial]
  split
  · exact .after (u := s.log ..) (.of_eq rfl rfl) (answers_attemptFailed (s := s.log ..) hu id .cancelled)
  · rename_i hopen
    exact absurd (isCancelled_iff.2 (.inr hc)) hopen

theorem answers_attempt_of_cancelled (hp : s.link.phase ≠ .connecting) :
    Answers id (.error .cancelled) s (s.attempt (.caller id) limit) ∨
      s.link.phase = .connected ∧ Answers id (.ok ()) s (s.attempt (.caller id) limit) := by
  cases hb : s.link.beginConnect? with
  | none =>
    refine .inr ⟨(Link.beginConnect?_eq_none hb).resolve_left hp, ?_⟩
    rw [attempt_of_none hb]
    exact .concludeAttempt (.of_eq rfl rfl) id _
  | some l =>
    left
    rw [attempt_of_some hb]
    exact .after (u := { s with link := l }.publish) (.of_eq rfl rfl)
      (answers_dial_of_cancelled (s := { s with link := l }.publish) hu hc id limit)

end

namespace Recalled

variable {n : Nat}

theorem adds (h : Recalled id n s) (ha : Adds s t) : Recalled id n t := by
  obtain ⟨cs, hq, _, hflags⟩ := ha
  have hlt : n < s.queue.length := (List.getElem?_eq_some_iff.1 h.queued).1
  refine ⟨by rw [hq, List.getElem?_append_left hlt, h.queued], ?_⟩
  rcases hflags with ⟨_, hc⟩ | ⟨_, hc, _⟩
  · exact hc.trans h.cancelled
  · exact hc

theorem waits (h : Recalled id n s) (hl : Ledger s) : (id, .waiting) ∈ s.callers := by
  exact hl.waits_of_queued (List.mem_of_getElem? h.queued)

theorem command (h : Recalled id n s) (hl : Ledger s) (hc : s.activity ≠ .stopped → s.Coherent)
    (hw : Works .command s t) :
    (∃ k, k + 1 = n ∧ Recalled id k t) ∨ Settled id (.error .cancelled) t ∨
      Meets id s ∧ Settled id (.ok ()) t := by
  have hadds := (hw.course_any (by simp)).adds
  cases n with
  | succ k =>
    have htail : Recalled id k { s with queue := s.queue.tail } :=
      ⟨by rw [List.getElem?_tail, h.queued], h.cancelled⟩
    exact .inl ⟨k, rfl, htail.adds hadds⟩
  | zero =>
    right
    cases hw with
    | @command _ c rest hi _ hq =>
      have hhead : s.queue.head? = some (.connect id) := List.head?_eq_getElem?.trans h.queued
      obtain rfl : c = .connect id := by simpa [hq] using hhead
      have hu : s.activity.underWay = true := by
        rw [hi]
        rfl
      have hphase : s.link.phase ≠ .connecting :=
        (hc (by simp [hi])).ne_connecting (by rw [hi]; rfl)
      have henrolled : Enrolled { s with queue := rest } := ⟨hl.enrolled.nodup, hl.enrolled.known⟩
      rcases answers_attempt_of_cancelled (s := { s with queue := rest }) hu h.cancelled id s.setup.connectTimeout
        hphase with ha | ⟨hconnected, ha⟩
      · exact .inl (ha.settled henrolled (h.waits hl))
      · exact .inr ⟨⟨hhead, hconnected⟩, ha.settled henrolled (h.waits hl)⟩

theorem step (h : Recalled id n s) (hl : Ledger s) (hc : s.activity ≠ .stopped → s.Coherent) (hs : Step m s t)
    (hm : ∀ k, m ≠ .connect k) :
    Fate id (fun k => k + [m].count (.driver .command) = n) (m = .driver .command ∧ Meets id s) t := by
  have hsame (hne : m ≠ .driver .command) (ha : Adds s t) :
      Fate id (fun k => k + [m].count (.driver .command) = n) (m = .driver .command ∧ Meets id s) t :=
    .queued (by rw [List.count_cons_of_ne hne]; rfl) (h.adds ha)
  cases hs with
  | @driver task _ _ hw =>
    by_cases hcommand : task = .command
    · subst hcommand
      rcases h.command hl hc hw with ⟨k, hk, hr⟩ | hr | ⟨hmeets, hr⟩
      · exact .queued (by simpa using hk) hr
      · exact .cancelled hr
      · exact .connected ⟨rfl, hmeets⟩ hr
    · by_cases hstop : task = .stop
      · subst hstop
        cases hw with
        | collapse _ hfails => exact .broken hfails (settled_collapse hl.enrolled (h.waits hl))
        | stop _ _ hq =>
          have hqueued := h.queued
          rw [hq] at hqueued
          cases hqueued
      · refine hsame (by simpa using hcommand) ?_
        have ha := (hw.course_any hstop).adds
        cases task with
        | command => exact absurd rfl hcommand
        | _ => exact ha
  | call c => exact hsame (by simp) (Called.call s c).adds
  | @connect _ k => exact absurd rfl (hm k)
  | returned => exact hsame (by simp) (.of_eq rfl rfl rfl)
  | wait => exact hsame (by simp) (.of_eq rfl rfl rfl)
  | push wire d =>
    obtain ⟨net, hp, _⟩ := push_eq s wire d
    exact hsame (by simp) (hp ▸ .of_eq rfl rfl rfl)
  | listen => exact hsame (by simp) (.of_eq rfl rfl rfl)
  | drop => exact hsame (by simp) (.of_eq rfl rfl rfl)

end Recalled

theorem Fate.imp {place place' : Nat → Prop} {met met' : Prop} (h : Fate id place met s)
    (hp : ∀ n, place n → place' n) (hm : met → met') : Fate id place' met' s := by
  cases h with
  | queued hn hr => exact .queued (hp _ hn) hr
  | dialing hd => exact .dialing hd
  | cancelled hs => exact .cancelled hs
  | connected hmet hs => exact .connected (hm hmet) hs
  | broken hf hs => exact .broken hf hs

theorem Recalled.run {n : Nat} (h : Recalled id n s) (hs : s.Reachable) (hr : Run ms s t)
    (hm : ∀ k, .connect k ∉ ms) :
    Fate id (fun k => k + ms.count (.driver .command) = n) (Met id s ms) t := by
  induction hr generalizing n with
  | nil => exact .queued rfl h
  | @cons m ms s u t hstep hr ih =>
    have hu : u.Reachable := hs.run (.single hstep)
    have hm' (k : Nat) : .connect k ∉ ms := fun hin => hm k (List.mem_cons_of_mem _ hin)
    rcases h.step hs.ledger hs.coherent hstep fun k he => hm k (he ▸ List.mem_cons_self) with
      ⟨hplace, hr'⟩ | hd | hset | ⟨⟨rfl, hmeets⟩, hset⟩ | ⟨hfails, hset⟩
    · refine (ih hr' hu hm').imp (fun k hk => ?_) ?_
      · rw [List.count_cons]
        simp only [List.count_singleton] at hplace
        omega
      · rintro ⟨pre, v, post, rfl, hpre, hv⟩
        exact ⟨m :: pre, v, post, rfl, .cons hstep hpre, hv⟩
    · rcases hd.run hu.ledger hr with hd | hset
      · exact .dialing hd
      · exact .cancelled hset
    · exact .cancelled (hset.run hu.ledger hr)
    · exact .connected ⟨[], s, ms, rfl, .nil s, hmeets⟩ (hset.run hu.ledger hr)
    · exact .broken (hr.timerFails.trans hfails) (hset.run hu.ledger hr)

theorem Closes.reachable (h : Closes s t) (hs : s.Reachable) : t.Reachable := by
  cases h with
  | call => exact hs.run (.single (.call .close s))
  | handler hw => exact hs.run (.single (.driver hw))

/-- The driver can go on, unless it waits for the end of a close handshake. -/
def Ready (s : Session) : Prop :=
  s.driverStep?.isSome = true ∨
    ∃ wire previous deadline, s.activity = .hangingUp wire previous deadline ∧ s.now < deadline

theorem ready_of_cancelled {d : Dial} (ha : s.activity = .dialing d) (hc : s.isCancelled d.generation = true) :
    Ready s := by
  have hsettle : s.driverStep? = some (s.attemptFailed d.cause .cancelled) := by
    simp only [driverStep?, ha]
    exact if_pos hc
  exact .inl (by rw [hsettle]; rfl)

theorem Recalled.ready {n : Nat} (h : Recalled id n s) (hl : Ledger s) : Ready s := by
  have hu := hl.underWay (h.waits hl)
  cases ha : s.activity with
  | unstarted => simp [ha, Activity.underWay] at hu
  | stopped => simp [ha, Activity.underWay] at hu
  | idle =>
    left
    simp only [driverStep?, ha, idleStep?]
    split
    · rfl
    · split
      · rfl
      · rename_i hq
        have hqueued := h.queued
        rw [hq] at hqueued
        cases hqueued
  | dialing d => exact ready_of_cancelled ha (isCancelled_iff.2 (.inr h.cancelled))
  | restoring rest sequel =>
    left
    cases rest with
    | nil => simp [driverStep?, ha]
    | cons c rest => simp [driverStep?, ha]
  | hangingUp wire previous deadline =>
    by_cases hd : deadline ≤ s.now
    · left
      simp [driverStep?, ha, hd]
    · exact .inr ⟨wire, previous, deadline, ha, Nat.lt_of_not_le hd⟩

theorem Settled.not_opening (h : Settled id result s) (hl : Ledger s) (rest : List Control) :
    s.activity ≠ .restoring rest (.announce (.caller id)) := by
  intro ha
  refine h.not_waiting (hl.waits_of_served ?_)
  rw [ha]
  rfl

theorem Recalled.not_opening {n : Nat} (h : Recalled id n s) (hl : Ledger s) (rest : List Control) :
    s.activity ≠ .restoring rest (.announce (.caller id)) := by
  intro ha
  have honce := hl.once
  rw [owed, ha] at honce
  exact (List.nodup_cons.1 honce).1 (Command.mem_callers.2 (List.mem_of_getElem? h.queued))

theorem Fate.not_opening {place : Nat → Prop} {met : Prop} (h : Fate id place met s) (hl : Ledger s)
    (rest : List Control) : s.activity ≠ .restoring rest (.announce (.caller id)) := by
  cases h with
  | queued _ hr => exact hr.not_opening hl rest
  | dialing hd =>
    rw [hd.dialing]
    intro ha
    cases ha
  | cancelled hs => exact hs.not_opening hl rest
  | connected _ hs => exact hs.not_opening hl rest
  | broken _ hs => exact hs.not_opening hl rest

theorem Fate.ready {place : Nat → Prop} {met : Prop} (h : Fate id place met s) (hl : Ledger s)
    (hw : (id, .waiting) ∈ s.callers) : Ready s := by
  cases h with
  | queued _ hr => exact hr.ready hl
  | dialing hd => exact ready_of_cancelled hd.dialing hd.cancelled
  | cancelled hs => exact absurd hw hs.not_waiting
  | connected _ hs => exact absurd hw hs.not_waiting
  | broken _ hs => exact absurd hw hs.not_waiting

/-- Once the driver has come to a call, no later call changes what becomes of it. -/
theorem Fate.run {place : Nat → Prop} {met : Prop} (h : Fate id place met s) (hl : Ledger s) (hr : Run ms s t)
    (hq : .connect id ∉ s.queue) : Fate id place met t := by
  cases h with
  | queued _ h => exact absurd (List.mem_of_getElem? h.queued) hq
  | dialing hd =>
    rcases hd.run hl hr with hd | hs
    · exact .dialing hd
    · exact .cancelled hs
  | cancelled hs => exact .cancelled (hs.run hl hr)
  | connected hm hs => exact .connected hm (hs.run hl hr)
  | broken hf hs => exact .broken (hr.timerFails.trans hf) (hs.run hl hr)

end

/-- A call to connect that still waits when closing is asked for gets no connection: it is cancelled, at the
latest when the driver comes to it, or told that the session is connected all the same. What it takes is that
no other call to connect begins before the driver has come to it. -/
theorem close_cancels_connects {s c u t : Session} {before after : List Move} {id : Nat} (hs : s.Reachable)
    (hc : Closes s c) (hw : (id, .waiting) ∈ c.callers)
    (ho : ∀ rest, c.activity ≠ .restoring rest (.announce (.caller id))) (hb : Run before c u)
    (hn : ∀ k, .connect k ∉ before) (ha : Run after u t) (hq : after = [] ∨ .connect id ∉ u.queue) :
    Fate id (MovedUp id c before) (Met id c before) t ∧
      (∀ rest, t.activity ≠ .restoring rest (.announce (.caller id))) ∧
      ((id, .waiting) ∈ t.callers → Ready t) := by
  have hcr := hc.reachable hs
  have hur := hcr.run hb
  have hcancelled := (hc.closing hs).cancelled
  have hfate : Fate id (MovedUp id c before) (Met id c before) u := by
    rcases hcr.ledger.place hw ho with ⟨d, hd, hid⟩ | ⟨n, hn'⟩
    · have h : Abandoned id d c := ⟨hd, hid, hcr.begun id d hd hid, isCancelled_iff.2 (.inr hcancelled)⟩
      rcases h.run hcr.ledger hb with h | h
      · exact .dialing h
      · exact .cancelled h
    · have h : Recalled id n c := ⟨hn', hcancelled⟩
      refine (h.run hcr hb hn).imp (fun k hk n' hplace => ?_) fun hmet => hmet
      exact hk.trans (hcr.ledger.place_unique hn' hplace)
  have hlast : Fate id (MovedUp id c before) (Met id c before) t := by
    rcases hq with rfl | hq
    · cases ha
      exact hfate
    · exact hfate.run hur.ledger ha hq
  have htl := (hur.run ha).ledger
  exact ⟨hlast, hlast.not_opening htl, hlast.ready htl⟩

theorem close_cancels_connects_of_dialing :
    ∃ (s t : Session) (after : List Move), s.Reachable ∧ s.activity.isDialing = true ∧
      (1, .waiting) ∈ s.close.callers ∧ Run after s.close t ∧ .connect 2 ∈ after ∧
      Fate 1 (MovedUp 1 s.close []) (Met 1 s.close []) t ∧
      t.callers = [(1, .answered (.error .cancelled)), (2, .waiting)] := by
  -- the handshake is under way when closing is asked for, and then another caller comes
  let first := start .standard ⟨"key", "token"⟩ .none (.start [] ⟨.accept .smooth, 5⟩) fun _ => none
  let asked := first.requestConnect.beginConnect 1
  let s := { asked with queue := [] }.handleCommand (.connect 1)
  have hcommand : Step (.driver .command) asked s := .driver (.command rfl (by decide) rfl)
  have hconnect : Step (.connect 1) first.requestConnect asked :=
    .connect (by simp [first, requestConnect, start])
  have hs : s.Reachable :=
    ⟨_, _, _, _, _, _, .cons (.call .connect first) (.cons hconnect (.single hcommand))⟩
  have hwaits : (1, .waiting) ∈ s.close.callers := List.mem_cons_self
  have hready : (2, .ready) ∈ s.close.requestConnect.callers := List.mem_cons_of_mem _ List.mem_cons_self
  have hr := Run.cons (.call .connect s.close) (.cons (.connect hready) (.single (.driver (.handshake rfl rfl))))
  have hq : .connect 1 ∉ s.close.queue := by
    have hqueue : s.close.queue = [.close] := rfl
    rw [hqueue]
    simp
  obtain ⟨hfate, _, _⟩ := close_cancels_connects hs (.call s) hwaits (fun _ ha => by cases ha) (.nil _) (by simp) hr
    (.inr hq)
  exact ⟨s, _, _, hs, rfl, hwaits, hr, by simp, hfate, rfl⟩

/-- A call that is still in the queue when closing is asked for gets its connection after all, if another call
begins before the driver has come to it. -/
theorem queued_connect_revived :
    ∃ (s t : Session) (ms : List Move), s.Reachable ∧ (1, .waiting) ∈ s.close.callers ∧
      s.close.queue = [.connect 1, .close] ∧ s.close.link.phase = .disconnected ∧ Run ms s.close t ∧
      t.callers = [(1, .answered (.ok ())), (2, .waiting)] ∧ s.close.net.wires = [] ∧ t.net.wires.length = 1 := by
  let first := start .standard ⟨"key", "token"⟩ .none (.start [] ⟨.accept .smooth, 0⟩) fun _ => none
  let s := first.requestConnect.beginConnect 1
  have hconnect : Step (.connect 1) first.requestConnect s := .connect (by simp [first, requestConnect, start])
  have hs : s.Reachable := ⟨_, _, _, _, _, _, .cons (.call .connect first) (.single hconnect)⟩
  have hready : (2, .ready) ∈ s.close.requestConnect.callers := List.mem_cons_of_mem _ List.mem_cons_self
  have hr := Run.cons (.call .connect s.close) (.cons (.connect hready)
    (.cons (.driver (.command rfl (by decide) rfl)) (.cons (.driver (.handshake rfl rfl))
      (.single (.driver (.conclude rfl))))))
  exact ⟨s, _, _, hs, List.mem_cons_self, rfl, rfl, hr, rfl, rfl, rfl⟩

end MarketTicker.Session
