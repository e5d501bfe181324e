import MarketTicker.Proofs.Session.Service

namespace MarketTicker

theorem Command.callers_append {q cs : List Command} (hcs : ∀ id, .connect id ∉ cs) :
    (q ++ cs).filterMap caller? = q.filterMap caller? := by
  have hnone : cs.filterMap caller? = [] := by
    rw [List.filterMap_eq_nil_iff]
    intro c hc
    cases c with
    | connect id => exact absurd hc (hcs id)
    | _ => rfl
  rw [List.filterMap_append, hnone, List.append_nil]

theorem Command.mem_callers {q : List Command} {id : Nat} : id ∈ q.filterMap caller? ↔ .connect id ∈ q := by
  rw [List.mem_filterMap]
  constructor
  · rintro ⟨c, hc, hid⟩
    cases c with
    | connect k => exact Option.some.inj hid ▸ hc
    | _ => cases hid
  · exact fun h => ⟨_, h, rfl⟩

theorem Command.place_unique {q : List Command} {id n n' : Nat} (h : (q.filterMap caller?).Nodup)
    (hn : q[n]? = some (.connect id)) (hn' : q[n']? = some (.connect id)) : n = n' := by
  have first {c : Command} {q : List Command} {k : Nat} (h : ((c :: q).filterMap caller?).Nodup)
      (hc : c = .connect id) (hk : q[k]? = some (.connect id)) : False := by
    subst hc
    exact (List.nodup_cons.1 h).1 (mem_callers.2 (List.mem_of_getElem? hk))
  induction q generalizing n n' with
  | nil => cases hn
  | cons c q ih =>
    have htail : (q.filterMap caller?).Nodup := h.sublist ((List.sublist_cons_self c q).filterMap caller?)
    cases n with
    | zero =>
      cases n' with
      | zero => rfl
      | succ k => exact (first h (Option.some.inj hn) hn').elim
    | succ k =>
      cases n' with
      | zero => exact (first h (Option.some.inj hn') hn).elim
      | succ k' => exact congrArg Nat.succ (ih htail hn hn')

namespace Session

def owed (s : Session) : List Nat :=
  s.activity.caller?.toList ++ s.queue.filterMap Command.caller?

section

variable {s t u : Session} {m : Move} {ms : List Move} {id : Nat} {result : Except ConnectFault Unit}

/-- The driver owes an answer to just those callers that wait for one, and owes it once. -/
structure Ledger (s : Session) : Prop where
  enrolled : Enrolled s
  once : s.owed.Nodup
  owed : ∀ id, id ∈ s.owed ↔ (id, .waiting) ∈ s.callers
  resting : s.activity.underWay = false → s.owed = []

theorem Works.owed {task : Task} (hw : Works task s t) :
    s.owed = (served? task s).toList ++ (taken task s).queue.filterMap Command.caller? := by
  cases hw with
  | @command _ c rest hi _ hq =>
    cases hc : c.caller? with
    | none => simp [Session.owed, served?, taken, hi, hq, hc, Activity.caller?]
    | some id => simp [Session.owed, served?, taken, hi, hq, hc, Activity.caller?]
  | _ => rfl

theorem enrolled_collapse (h : Enrolled s) : Enrolled s.collapse := by
  have hkeys : s.collapse.callers.map Prod.fst = s.callers.map Prod.fst := by
    rw [collapse, List.map_map]
    apply List.map_congr_left
    rintro ⟨id, state⟩ _
    cases state <;> rfl
  exact ⟨hkeys ▸ h.nodup, hkeys ▸ h.known⟩

theorem ledger_of_idle (h : Enrolled s) (ho : s.owed = []) (hw : ∀ id, (id, .waiting) ∉ s.callers) : Ledger s := by
  refine ⟨h, ho ▸ .nil, fun id => ?_, fun _ => ho⟩
  rw [ho]
  exact ⟨fun hin => absurd hin List.not_mem_nil, fun hin => absurd hin (hw id)⟩

theorem mem_collapse {state : CallerState} (h : (id, state) ∈ s.collapse.callers) :
    (id, .waiting) ∈ s.callers ∧ state = .answered (.error .notRunning) ∨
      (id, state) ∈ s.callers ∧ state ≠ .waiting := by
  obtain ⟨⟨k, old⟩, hold, he⟩ := List.mem_map.1 h
  cases old with
  | ready =>
    obtain ⟨rfl, rfl⟩ := Prod.mk.inj he
    exact .inr ⟨hold, by simp⟩
  | waiting =>
    obtain ⟨rfl, rfl⟩ := Prod.mk.inj he
    exact .inl ⟨hold, rfl⟩
  | answered result =>
    obtain ⟨rfl, rfl⟩ := Prod.mk.inj he
    exact .inr ⟨hold, by simp⟩

theorem ledger_collapse (h : Ledger s) : Ledger s.collapse := by
  refine ledger_of_idle (enrolled_collapse h.enrolled) rfl fun id hin => ?_
  rcases mem_collapse hin with ⟨_, he⟩ | ⟨_, hne⟩
  · cases he
  · exact hne rfl

theorem ledger_stop (h : Ledger s) (hq : s.queue = []) (hdead : s.alive = false) : Ledger s.stop := by
  have hfields : s.stop.callers = s.callers ∧ s.stop.callerCount = s.callerCount ∧ s.stop.queue = s.queue := by
    rw [Session.stop, abort, dropConnection]
    cases s.connection with
    | none => exact ⟨rfl, rfl, rfl⟩
    | some wire => exact ⟨rfl, rfl, rfl⟩
  obtain ⟨hc, hn, hqueue⟩ := hfields
  have hcallers : s.callers = [] := by
    have hdead : s.dropped = true ∧ s.callers = [] := by simpa [alive] using hdead
    exact hdead.2
  refine ledger_of_idle ((Enrols.of_eq hc hn).enrolled h.enrolled) ?_ ?_
  · rw [Session.owed, caller?_of_helm (helm_stop s), hqueue, hq]
    rfl
  · intro id
    rw [hc, hcallers]
    exact List.not_mem_nil

theorem Ledger.works {task : Task} (h : Ledger s) (hw : Works task s t) : Ledger t := by
  by_cases ht : task = .stop
  · subst ht
    cases hw with
    | collapse => exact ledger_collapse h
    | stop _ _ hq hdead => exact ledger_stop h hq hdead
  · have howed := hw.owed
    obtain ⟨cs, hq, hcs, _⟩ := (hw.course_any ht).adds
    have hqueue : t.queue.filterMap Command.caller? = (taken task s).queue.filterMap Command.caller? := by
      rw [hq, Command.callers_append hcs]
    have hresting : t.activity.underWay = false → t.owed = [] := by
      intro ha
      have hu : (taken task s).activity = s.activity := by cases task <;> rfl
      rw [(hw.course_any ht).underWay, hu, hw.underWay] at ha
      cases ha
    have hafter : t.owed = t.activity.caller?.toList ++ (taken task s).queue.filterMap Command.caller? := by
      rw [Session.owed, hqueue]
    -- whom the driver works for comes first of those it owes, so an answer takes away the head and no other
    cases hid : served? task s with
    | none =>
      have he := hw.unserved ht hid
      have ha : t.activity.caller? = none := by
        rcases hw.caller? ht with ha | ha
        · exact ha
        · exact ha.trans hid
      have hsame : t.owed = s.owed := by rw [hafter, howed, ha, hid]
      exact ⟨he.enrolled h.enrolled, hsame ▸ h.once, fun id => by rw [hsame, h.owed, he.waiting], hresting⟩
    | some id =>
      have hcons : s.owed = id :: (taken task s).queue.filterMap Command.caller? := by rw [howed, hid]; rfl
      rcases hw.serves hid with ⟨ha, he⟩ | ⟨ha, result, he⟩
      · have hsame : t.owed = s.owed := by rw [hafter, howed, ha, hid]
        exact ⟨he.enrolled h.enrolled, hsame ▸ h.once, fun id => by rw [hsame, h.owed, he.waiting], hresting⟩
      · have hrest : t.owed = (taken task s).queue.filterMap Command.caller? := by rw [hafter, ha]; rfl
        obtain ⟨hnot, hnodup⟩ := List.nodup_cons.1 (hcons ▸ h.once)
        refine ⟨he.enrolled h.enrolled, hrest ▸ hnodup, fun k => ?_, hresting⟩
        rw [he.waiting, ← h.owed, hrest, hcons, List.mem_cons]
        constructor
        · intro hk
          exact ⟨fun hid => hnot (hid ▸ hk), .inr hk⟩
        · rintro ⟨hne, rfl | hk⟩
          · exact absurd rfl hne
          · exact hk

theorem Ledger.enrols (h : Ledger s) (he : Enrols s t) (ha : t.activity = s.activity)
    (hq : t.queue.filterMap Command.caller? = s.queue.filterMap Command.caller?) : Ledger t := by
  have ho : t.owed = s.owed := by rw [Session.owed, ha, hq, ← Session.owed]
  exact ⟨he.enrolled h.enrolled, ho ▸ h.once, fun id => by rw [ho, h.owed, he.waiting],
    fun hu => ho.trans (h.resting (ha ▸ hu))⟩

theorem Ledger.call (h : Ledger s) (c : Call) : Ledger (s.call c) := by
  obtain ⟨cs, hq, hcs, _⟩ := (Called.call s c).adds
  refine h.enrols (enrols_call s c) (activity_of_helm (Called.call s c).helm) ?_
  rw [hq, Command.callers_append hcs]

theorem Ledger.connect (h : Ledger s) (hin : (id, .ready) ∈ s.callers) : Ledger (s.beginConnect id) := by
  have hready : (id, .waiting) ∉ s.callers := fun hw => by cases h.enrolled.functional hin hw
  have henrolled {state : CallerState} (hn : (s.beginConnect id).callerCount = s.callerCount)
      (hc : (s.beginConnect id).callers = (s.setCaller id state).callers) : Enrolled (s.beginConnect id) := by
    obtain ⟨hnodup, hknown⟩ := h.enrolled.setCaller id state
    exact ⟨hc ▸ hnodup, fun k hk => hn ▸ hknown k (hc ▸ hk)⟩
  obtain ⟨hn, ha, ⟨hstopped, hq, hc⟩ | ⟨hu, hq, hc⟩⟩ := beginConnect_cases s id
  · have hsame : (s.beginConnect id).owed = s.owed := by rw [Session.owed, ha, hq, ← Session.owed]
    refine ⟨henrolled hn hc, hsame ▸ h.once, fun k => ?_, fun _ => hsame.trans (h.resting (by rw [hstopped]; rfl))⟩
    rw [hsame, hc, h.owed, mem_setCaller]
    constructor
    · exact fun hk => .inl ⟨fun he => hready (he ▸ hk), hk⟩
    · rintro (⟨_, hk⟩ | ⟨_, he, _⟩)
      · exact hk
      · cases he
  · have hsnoc : (s.beginConnect id).owed = s.owed ++ [id] := by
      rw [Session.owed, ha, hq, List.filterMap_append, ← List.append_assoc, ← Session.owed]
      rfl
    refine ⟨henrolled hn hc, ?_, fun k => ?_, fun hr => by rw [hu] at hr; cases hr⟩
    · rw [hsnoc, List.nodup_append]
      refine ⟨h.once, by simp, fun k hk k' hk' => ?_⟩
      obtain rfl := List.mem_singleton.1 hk'
      exact fun he => hready ((h.owed _).1 (he ▸ hk))
    · rw [hsnoc, hc, List.mem_append, h.owed, List.mem_singleton, mem_setCaller]
      constructor
      · rintro (hk | rfl)
        · exact .inl ⟨fun he => hready (he ▸ hk), hk⟩
        · exact .inr ⟨rfl, rfl, _, hin⟩
      · rintro (⟨_, hk⟩ | ⟨rfl, _⟩)
        · exact .inl hk
        · exact .inr rfl

theorem Ledger.returned (h : Ledger s) {result : Except ConnectFault Unit}
    (hin : (id, .answered result) ∈ s.callers) :
    Ledger ({ s with callers := s.callers.filter (·.1 ≠ id) }.note (.returned id result)) := by
  have hsub : ((s.callers.filter (·.1 ≠ id)).map Prod.fst).Sublist (s.callers.map Prod.fst) :=
    List.filter_sublist.map Prod.fst
  refine ⟨⟨h.enrolled.nodup.sublist hsub, fun k hk => h.enrolled.known k (hsub.subset hk)⟩, h.once, fun k => ?_,
    h.resting⟩
  refine (h.owed k).trans ⟨fun hk => List.mem_filter.2 ⟨hk, ?_⟩, fun hk => (List.mem_filter.1 hk).1⟩
  have hne : k ≠ id := by
    rintro rfl
    cases h.enrolled.functional hk hin
  simpa using hne

theorem Ledger.step {m : Move} (h : Ledger s) (hs : Step m s t) : Ledger t := by
  cases hs with
  | driver hw => exact h.works hw
  | call c => exact h.call c
  | connect hin => exact h.connect hin
  | returned hin => exact h.returned hin
  | wait => exact h.enrols (.of_eq rfl rfl) rfl rfl
  | push wire d =>
    obtain ⟨net, hp, _⟩ := push_eq s wire d
    rw [hp]
    exact h.enrols (.of_eq rfl rfl) rfl rfl
  | listen => exact h.enrols (.of_eq rfl rfl) rfl rfl
  | drop => exact h.enrols (.of_eq rfl rfl) rfl rfl

theorem Reachable.ledger (h : s.Reachable) : Ledger s := by
  refine h.invariant (fun _ _ _ _ _ => ?_) fun hs h => h.step hs
  exact ledger_of_idle ⟨.nil, by simp [start]⟩ rfl (by simp [start])

theorem Ledger.run (h : Ledger s) (hr : Run ms s t) : Ledger t :=
  hr.preserves (fun hs h => h.step hs) h

theorem Ledger.waits_of_served (h : Ledger s) (ha : s.activity.caller? = some id) : (id, .waiting) ∈ s.callers :=
  (h.owed id).1 (by rw [Session.owed, ha]; exact List.mem_cons_self)

theorem Ledger.waits_of_queued (h : Ledger s) (hq : .connect id ∈ s.queue) : (id, .waiting) ∈ s.callers :=
  (h.owed id).1 (List.mem_append_right _ (Command.mem_callers.2 hq))

theorem Ledger.underWay (h : Ledger s) (hw : (id, .waiting) ∈ s.callers) : s.activity.underWay = true := by
  rw [← Bool.not_eq_false]
  intro hrest
  have howed := (h.owed id).2 hw
  rw [h.resting hrest] at howed
  cases howed

theorem Ledger.place (h : Ledger s) (hw : (id, .waiting) ∈ s.callers)
    (ho : ∀ rest, s.activity ≠ .restoring rest (.announce (.caller id))) :
    (∃ d, s.activity = .dialing d ∧ d.cause = .caller id) ∨ ∃ n : Nat, s.queue[n]? = some (.connect id) := by
  rcases List.mem_append.1 ((h.owed id).2 hw) with hin | hin
  · left
    have hid : s.activity.caller? = some id := by simpa using hin
    cases ha : s.activity with
    | dialing d => exact ⟨d, rfl, Cause.caller?_eq_some (by simpa [ha, Activity.caller?] using hid)⟩
    | restoring rest sequel =>
      cases sequel with
      | announce cause =>
        have hcause : cause = .caller id := Cause.caller?_eq_some (by simpa [ha, Activity.caller?] using hid)
        exact absurd (hcause ▸ ha) (ho rest)
      | resume => simp [ha, Activity.caller?] at hid
    | _ => simp [ha, Activity.caller?] at hid
  · exact .inr (List.mem_iff_getElem?.1 (Command.mem_callers.1 hin))

theorem Ledger.place_unique (h : Ledger s) {n n' : Nat} (hn : s.queue[n]? = some (.connect id))
    (hn' : s.queue[n']? = some (.connect id)) : n = n' :=
  Command.place_unique (List.nodup_append.1 h.once).2.1 hn hn'

theorem Ledger.served {task : Task} (h : Ledger s) (hw : Works task s t) (hid : served? task s = some id) :
    (id, .waiting) ∈ s.callers := by
  rw [← h.owed, hw.owed, hid]
  exact List.mem_cons_self

structure Settled (id : Nat) (result : Except ConnectFault Unit) (s : Session) : Prop where
  known : id ≤ s.callerCount
  only : ∀ {state}, (id, state) ∈ s.callers → state = .answered result
  told : (id, .answered result) ∈ s.callers ∨ ∃ e ∈ s.trace, e.happening = .returned id result

theorem Answers.settled (h : Answers id result s t) (he : Enrolled s) (hin : (id, .waiting) ∈ s.callers) :
    Settled id result t := by
  refine ⟨?_, h.only, .inl (h.told hin)⟩
  have hkey : id ∈ t.callers.map Prod.fst := List.mem_map.2 ⟨_, h.told hin, rfl⟩
  exact (h.enrolled he).known id hkey

theorem settled_collapse (h : Enrolled s) (hw : (id, .waiting) ∈ s.callers) :
    Settled id (.error .notRunning) s.collapse := by
  refine ⟨h.known id (List.mem_map.2 ⟨_, hw, rfl⟩), fun hin => ?_, .inl (List.mem_map.2 ⟨_, hw, rfl⟩)⟩
  rcases mem_collapse hin with ⟨_, he⟩ | ⟨hin, hne⟩
  · exact he
  · exact absurd (h.functional hin hw) hne

namespace Settled

theorem not_waiting (h : Settled id result s) : (id, .waiting) ∉ s.callers := fun hin => by
  cases h.only hin

theorem spared (h : Settled id result s) (hsp : Spares id s t) (hg : ∃ added, t.trace = added ++ s.trace) :
    Settled id result t := by
  obtain ⟨added, ht⟩ := hg
  refine ⟨Nat.le_trans h.known hsp.count, fun hin => ?_, ?_⟩
  · rcases hsp.old hin with hin | hlt
    · exact h.only hin
    · exact absurd h.known (Nat.not_le_of_lt hlt)
  · rcases h.told with hin | ⟨e, he, hr⟩
    · exact .inl (hsp.keep hin)
    · exact .inr ⟨e, ht ▸ List.mem_append_right _ he, hr⟩

theorem collapse (h : Settled id result s) : Settled id result s.collapse := by
  refine ⟨h.known, fun hin => ?_, h.told.imp_left fun hin => List.mem_map.2 ⟨_, hin, rfl⟩⟩
  rcases mem_collapse hin with ⟨hwaits, _⟩ | ⟨hin, _⟩
  · exact absurd hwaits h.not_waiting
  · exact h.only hin

theorem returned (h : Settled id result s) {k : Nat} {result' : Except ConnectFault Unit}
    (hin : (k, .answered result') ∈ s.callers) :
    Settled id result ({ s with callers := s.callers.filter (·.1 ≠ k) }.note (.returned k result')) := by
  refine ⟨h.known, fun hst => h.only (List.mem_filter.1 hst).1, ?_⟩
  by_cases hk : k = id
  · subst hk
    have hresult : result' = result := by simpa using h.only hin
    exact .inr ⟨_, List.mem_cons_self, by rw [hresult]⟩
  · rcases h.told with hst | ⟨e, he, hr⟩
    · exact .inl (List.mem_filter.2 ⟨hst, by simpa using Ne.symm hk⟩)
    · exact .inr ⟨e, List.mem_cons_of_mem _ he, hr⟩

theorem step (h : Settled id result s) (hl : Ledger s) (hs : Step m s t) : Settled id result t := by
  have hgrows := hs.grows
  cases hs with
  | @driver task _ _ hw =>
    by_cases ht : task = .stop
    · subst ht
      cases hw with
      | collapse => exact h.collapse
      | stop =>
        refine h.spared ?_ hgrows
        rw [Session.stop, abort, dropConnection]
        cases s.connection with
        | none => exact .of_eq rfl rfl
        | some wire => exact .of_eq rfl rfl
    · exact h.spared (hw.spares ht fun hid => h.not_waiting (hl.served hw hid)) hgrows
  | call c => exact h.spared (.enrols (enrols_call s c)) hgrows
  | @connect _ k hin =>
    have hne : id ≠ k := by
      rintro rfl
      cases h.only hin
    exact h.spared (.beginConnect hne) hgrows
  | returned hin => exact h.returned hin
  | wait => exact h.spared (.of_eq rfl rfl) hgrows
  | push wire d =>
    obtain ⟨net, hp, _⟩ := push_eq s wire d
    rw [hp] at hgrows ⊢
    exact h.spared (.of_eq rfl rfl) hgrows
  | listen => exact h.spared (.of_eq rfl rfl) hgrows
  | drop => exact h.spared (.of_eq rfl rfl) hgrows

theorem run (h : Settled id result s) (hl : Ledger s) (hr : Run ms s t) : Settled id result t := by
  have key := hr.preserves (P := fun s => Ledger s ∧ Settled id result s)
    (fun hs ⟨hl, h⟩ => ⟨hl.step hs, h.step hl hs⟩) ⟨hl, h⟩
  exact key.2

end Settled

end

end Session

end MarketTicker
