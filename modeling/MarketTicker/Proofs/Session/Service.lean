import MarketTicker.Proofs.Session.Callers

namespace MarketTicker

theorem Cause.caller?_eq_some {cause : Cause} {id : Nat} (h : cause.caller? = some id) : cause = .caller id := by
  cases cause with
  | caller k => exact congrArg Cause.caller (Option.some.inj h)
  | retry since => cases h

namespace Session

section

variable {s t u : Session} {id : Nat}

def Serves (id : Nat) (s t : Session) : Prop :=
  t.activity.caller? = some id ∧ Enrols s t ∨ t.activity.caller? = none ∧ ∃ result, Answers id result s t

theorem caller?_of_helm (h : t.helm = u) : t.activity.caller? = u.activity.caller? :=
  (congrArg (fun s => s.activity.caller?) h :)

theorem caller?_attemptFailed (s : Session) (cause : Cause) (fault : ConnectFault) :
    (s.attemptFailed cause fault).activity.caller? = none :=
  caller?_of_helm (helm_attemptFailed s cause fault)

namespace Serves

theorem after (h : Enrols s u) (h' : Serves id u t) : Serves id s t := by
  rcases h' with ⟨ha, ht⟩ | ⟨ha, result, hv⟩
  · exact .inl ⟨ha, h.trans ht⟩
  · exact .inr ⟨ha, result, .after h hv⟩

theorem attemptFailed (hu : s.activity.underWay = true) (id : Nat) (fault : ConnectFault) :
    Serves id s (s.attemptFailed (.caller id) fault) :=
  .inr ⟨caller?_attemptFailed s _ fault, _, answers_attemptFailed hu id fault⟩

theorem dial (hu : s.activity.underWay = true) (id : Nat) (limit : Span) :
    Serves id s (s.dial (.caller id) limit) := by
  have hfailed (fault : ConnectFault) (level : LogLevel) (message : String) (fields : List (String × String)) :
      Serves id s ((s.log level message fields).attemptFailed (.caller id) fault) :=
    .after (u := s.log level message fields) (.of_eq rfl rfl)
      (attemptFailed (s := s.log level message fields) hu id fault)
  unfold Session.dial
  dsimp only
  split
  · exact hfailed ..
  · split
    · exact hfailed ..
    · exact .inl ⟨rfl, .of_eq rfl rfl⟩

theorem attempt (hu : s.activity.underWay = true) (id : Nat) (limit : Span) :
    Serves id s (s.attempt (.caller id) limit) := by
  cases hb : s.link.beginConnect? with
  | none =>
    rw [attempt_of_none hb]
    exact .inr ⟨rfl, _, .concludeAttempt (.of_eq rfl rfl) id _⟩
  | some l =>
    rw [attempt_of_some hb]
    exact .after (u := { s with link := l }.publish) (.of_eq rfl rfl)
      (dial (s := { s with link := l }.publish) hu id limit)

end Serves

theorem caller?_dial (s : Session) (cause : Cause) (limit : Span) :
    (s.dial cause limit).activity.caller? = none ∨ (s.dial cause limit).activity.caller? = cause.caller? := by
  rcases helm_dial s cause limit with ⟨fault, h⟩ | ⟨_, _, d, rfl, _, h⟩
  · exact .inl ((caller?_of_helm h).trans (caller?_attemptFailed s cause fault))
  · exact .inr (caller?_of_helm h)

theorem caller?_attempt (s : Session) (cause : Cause) (limit : Span) :
    (s.attempt cause limit).activity.caller? = none ∨ (s.attempt cause limit).activity.caller? = cause.caller? := by
  cases hb : s.link.beginConnect? with
  | none => exact .inl (caller?_of_helm (helm_attempt_of_none hb))
  | some l =>
    rw [attempt_of_some hb]
    exact caller?_dial _ cause limit

theorem caller?_send (s : Session) (c : Control) : (s.send c).activity.caller? = s.activity.caller? := by
  rcases helm_send s c with h | ⟨wire, _, h⟩
  · exact (caller?_of_helm h).trans rfl
  · exact (caller?_of_helm h).trans rfl

section

variable (hi : s.activity = .idle)

include hi

theorem caller?_idle : s.activity.caller? = none := by
  rw [hi]
  rfl

theorem caller?_shut : s.shut.activity.caller? = none := by
  cases hc : s.connection with
  | none => exact (caller?_of_helm (helm_shut_of_none hc)).trans (caller?_idle hi)
  | some wire =>
    rcases helm_shut_of_some hc with h | h
    · exact caller?_of_helm h
    · exact caller?_of_helm h

theorem caller?_onTick : s.onTick.activity.caller? = none := by
  rcases helm_onTick s with h | ⟨_, h⟩ | ⟨_, h | ⟨u, since, limit, _, _, h⟩⟩
  · exact (caller?_of_helm h).trans (caller?_idle hi)
  · exact (caller?_of_helm h).trans (caller?_idle hi)
  · exact (caller?_of_helm h).trans (caller?_idle hi)
  · rw [h]
    rcases caller?_attempt u (.retry since) limit with ha | ha
    · exact ha
    · exact ha

theorem caller?_receive (d : Delivery) : (s.receive d).activity.caller? = none := by
  rcases helm_receive s d with h | ⟨fault?, h⟩
  · exact (caller?_of_helm h).trans (caller?_idle hi)
  · have hl := helm_connectionLost s fault?
    rw [helm_dropConnection] at hl
    rw [h]
    split at hl
    · exact (caller?_of_helm hl).trans (caller?_idle hi)
    · exact (caller?_of_helm hl).trans (caller?_idle hi)

theorem caller?_handleCommand (c : Command) :
    (s.handleCommand c).activity.caller? = none ∨ (s.handleCommand c).activity.caller? = c.caller? := by
  cases c with
  | connect id => exact caller?_attempt s (.caller id) _
  | send control => exact .inl ((caller?_send s control).trans (caller?_idle hi))
  | resubscribe => exact .inl (caller?_of_helm (helm_restore s .resume))
  | enableRetry => exact .inl (caller?_idle hi)
  | disableRetry => exact .inl (caller?_idle hi)
  | close => exact .inl (caller?_shut hi)

end

theorem Works.unserved {task : Task} (hw : Works task s t) (ht : task ≠ .stop) (hn : served? task s = none) :
    Enrols s t := by
  have hc := hw.course_of_grants ht (terms_unreturned hw.underWay)
    ⟨by simp [Unreturned], by simp [Unreturned], by simp [Unreturned], by simp [Unreturned], by simp [hn]⟩
  refine Enrols.trans ?_ hc.enrols
  cases task <;> exact .of_eq rfl rfl

theorem Works.caller? {task : Task} (hw : Works task s t) (ht : task ≠ .stop) :
    t.activity.caller? = none ∨ t.activity.caller? = served? task s := by
  cases hw with
  | @command _ c rest hi _ hq =>
    have hs : served? .command s = c.caller? := by simp [served?, hq]
    rw [hs]
    exact caller?_handleCommand (s := { s with queue := rest }) hi c
  | tick hi => exact .inl (caller?_onTick (s := { s with due := s.nextDue }) hi)
  | delivery hi _ hd =>
    obtain ⟨wire, rest, _, _, rfl⟩ := takeDelivery?_eq_some hd
    refine .inl (caller?_receive ?_ _)
    exact hi
  | @handshake _ _ d hd h =>
    have hs : served? .handshake s = d.cause.caller? := by simp [served?, hd, Activity.caller?]
    rcases settleDial_eq_some h with ⟨fault, rfl⟩ | ⟨_, manner, rfl⟩
    · exact .inl (caller?_attemptFailed s d.cause fault)
    · rw [hs]
      exact .inr (caller?_of_helm (helm_attemptSucceeded s d.cause manner))
  | @restore _ c rest sequel hr =>
    have hs : served? .restore s = (Activity.restoring rest sequel).caller? := by
      cases sequel with
      | resume => simp [served?, hr, Activity.caller?]
      | announce cause => simp [served?, hr, Activity.caller?]
    rw [hs]
    exact .inr (caller?_send { s with activity := .restoring rest sequel } c)
  | @conclude _ sequel _ => exact .inl (caller?_of_helm (helm_conclude s sequel))
  | @hungUp _ wire previous => exact .inl (caller?_of_helm (helm_hungUp s wire previous))
  | @hangUpLate _ wire previous => exact .inl (caller?_of_helm (helm_hungUp _ wire previous))
  | collapse => exact absurd rfl ht
  | stop => exact absurd rfl ht

theorem Works.serves {task : Task} (hw : Works task s t) (hid : served? task s = some id) : Serves id s t := by
  have hu := hw.underWay
  cases hw with
  | @command _ c rest hi _ hq =>
    cases c with
    | connect k =>
      obtain rfl : k = id := by simpa [served?, hq, Command.caller?] using hid
      exact .after (u := { s with queue := rest }) (.of_eq rfl rfl) (.attempt (s := { s with queue := rest }) hu k _)
    | _ => simp [served?, hq, Command.caller?] at hid
  | tick hi => simp [served?, hi, Activity.caller?] at hid
  | delivery hi => simp [served?, hi, Activity.caller?] at hid
  | @handshake _ _ d hd h =>
    have hcause : d.cause = .caller id := Cause.caller?_eq_some (by simpa [served?, hd, Activity.caller?] using hid)
    rcases settleDial_eq_some h with ⟨fault, rfl⟩ | ⟨_, manner, rfl⟩
    · rw [hcause]
      exact .attemptFailed hu id fault
    · refine .inl ⟨(caller?_of_helm (helm_attemptSucceeded s d.cause manner)).trans ?_, ?_⟩
      · rw [Activity.caller?, hcause]
        rfl
      · exact ((Course.refl s).attemptSucceeded (terms_unreturned hu) d.cause manner).enrols
  | @restore _ c rest sequel hr =>
    have hs : ({ s with activity := .restoring rest sequel } : Session).activity.caller? = some id := by
      cases sequel with
      | resume => simp [served?, hr, Activity.caller?] at hid
      | announce cause => simpa [served?, hr, Activity.caller?] using hid
    refine .inl ⟨(caller?_send _ c).trans hs, ?_⟩
    refine Enrols.trans (t := { s with activity := .restoring rest sequel }) (.of_eq rfl rfl) ?_
    exact ((Course.refl _).send (terms_unreturned rfl) (by simp [Unreturned])).enrols
  | @conclude _ sequel hr =>
    cases sequel with
    | resume => simp [served?, hr, Activity.caller?] at hid
    | announce cause =>
      obtain rfl : cause = .caller id := Cause.caller?_eq_some (by simpa [served?, hr, Activity.caller?] using hid)
      have hemit := ((Course.refl s).emit (terms_unreturned hu) tolerant_unreturned.connected).enrols
      exact .inr ⟨rfl, _, .concludeAttempt hemit id (.ok ())⟩
  | hungUp hh => simp [served?, hh, Activity.caller?] at hid
  | hangUpLate hh => simp [served?, hh, Activity.caller?] at hid
  | collapse hi => simp [served?, hi, Activity.caller?] at hid
  | stop hi => simp [served?, hi, Activity.caller?] at hid

theorem Works.spares {task : Task} (hw : Works task s t) (ht : task ≠ .stop) (hne : served? task s ≠ some id) :
    Spares id s t := by
  cases hk : served? task s with
  | none => exact .enrols (hw.unserved ht hk)
  | some k =>
    have hid : id ≠ k := fun he => hne (he ▸ hk)
    rcases hw.serves hk with ⟨_, he⟩ | ⟨_, _, u, hu, hc, hn⟩
    · exact .enrols he
    · exact (Spares.enrols hu).trans (.setCaller hid hc hn)

end

end Session

end MarketTicker
