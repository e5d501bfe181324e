import MarketTicker.Proofs.Session.Contents
import MarketTicker.Proofs.Session.Messages
import MarketTicker.Proofs.Session.Wires

namespace MarketTicker

def Delivery.isFrame : Delivery → Bool
  | .binary _ | .text _ => true
  | _ => false

namespace Session

variable {s t u : Session} {ds : List Delivery}

theorem watchlist_calls {cs : List Call} (s : Session) (h : ∀ c ∈ cs, c.bystanding = true) :
    (s.calls cs).watchlist = s.watchlist := by
  induction cs generalizing s with
  | nil => rfl
  | cons c cs ih =>
    have hc := call_of_unbegun (beginCall_of_bystanding s (h c List.mem_cons_self))
    exact (ih (s.call c) fun x hx => h x (List.mem_cons_of_mem _ hx)).trans hc.1

theorem watchlist_emit (s : Session) (e : Event) (h : s.Obliging (·.bystanding = true)) :
    (s.emit e).watchlist = s.watchlist := by
  have react {t : Session} {r : Reaction} (hr : ∀ c ∈ r.calls, c.bystanding = true) :
      (t.react r).watchlist = t.watchlist := by
    rw [Session.react]
    split
    · exact watchlist_calls t hr
    · rfl
  rw [emit]
  dsimp only
  split
  · rfl
  · rename_i handler hs
    have hr : ∀ c ∈ (handler (s.note (.emitted e)).trace e).calls, c.bystanding = true :=
      fun c hc => h _ handler hs c ⟨_, e, hc⟩
    split
    · exact react hr
    · exact react hr

theorem Dispatch.watchlist {es : List Event} (h : Dispatch s es t) (ho : s.Obliging (·.bystanding = true)) :
    t.watchlist = s.watchlist := by
  induction h with
  | refl => rfl
  | log _ _ ih => exact ih
  | record _ _ ih => exact ih
  | @emit t es e h ih =>
    refine (watchlist_emit t e ?_).trans ih
    rw [Obliging, h.handlers]
    exact ho

def inbox (s : Session) : List Delivery :=
  ((s.connection.bind s.net.wire?).map (·.inbox)).getD []

theorem inbox_congr (hc : t.connection = s.connection) (hn : t.net = s.net) : t.inbox = s.inbox := by
  rw [inbox, inbox, hc, hn]

theorem inbox_of_take {d : Delivery} (h : s.takeDelivery? = some (d, u)) :
    s.inbox = d :: u.inbox ∧ u.helm = { s.helm with net := u.net } ∧ u.trace = s.trace ∧ u.watchlist = s.watchlist := by
  obtain ⟨i, rest, hc, hrest, rfl⟩ := takeDelivery?_eq_some h
  obtain ⟨w, hw, hi⟩ := Option.map_eq_some_iff.1 hrest
  refine ⟨?_, rfl, rfl, rfl⟩
  rw [inbox, inbox, hc, Option.bind_some, Option.bind_some, Net.wire?_update, hw]
  simp [hi]

theorem take_of_inbox {d : Delivery} {rest : List Delivery} (h : s.inbox = d :: rest) :
    ∃ u, s.takeDelivery? = some (d, u) ∧ u.inbox = rest := by
  have key : ∃ u, s.takeDelivery? = some (d, u) := by
    rw [inbox] at h
    rw [takeDelivery?]
    cases hc : s.connection with
    | none => simp [hc] at h
    | some i =>
      cases hw : s.net.wire? i with
      | none => simp [hc, hw] at h
      | some w =>
        have hi : w.inbox = d :: rest := by simpa [hc, hw] using h
        simp [hw, hi]
  obtain ⟨u, hu⟩ := key
  exact ⟨u, hu, List.tail_eq_of_cons_eq ((inbox_of_take hu).1.symm.trans h)⟩

theorem inbox_push (s : Session) (wire : Option Nat) (d : Delivery) :
    ∃ arrived, (s.push wire d).2.inbox = s.inbox ++ arrived := by
  rcases push_cases s wire d with h | ⟨id, h⟩
  · exact ⟨[], by rw [h, List.append_nil]⟩
  · rw [h, inbox, inbox]
    cases hc : s.connection with
    | none => exact ⟨[], rfl⟩
    | some i =>
      simp only [Option.bind_some, Net.wire?_update]
      cases s.net.wire? i with
      | none => exact ⟨[], rfl⟩
      | some w =>
        by_cases hi : id = i
        · exact ⟨[d], by simp [hi, Wire.deliver]⟩
        · exact ⟨[], by simp [hi]⟩

theorem handlers_push (s : Session) (wire : Option Nat) (d : Delivery) : (s.push wire d).2.handlers = s.handlers := by
  obtain ⟨net, h, _⟩ := push_eq s wire d
  rw [h]

/-- The driver reads one frame after the other. Ticks in between find time left, and the surroundings go on. -/
inductive Reads : Session → List Delivery → Session → Prop
  | nil (s : Session) : Reads s [] s
  | frame {s t u : Session} {ds : List Delivery} {d : Delivery} :
      Reads s ds t → t.activity = .idle → t.timerFails = false → t.takeDelivery? = some (d, u) →
        d.isFrame = true → Reads s (ds ++ [d]) (u.receive d)
  | tick {s t u : Session} {ds : List Delivery} :
      Reads s ds t → t.link.countdown.tick.1 ≠ .expired → Works .tick t u → Reads s ds u
  | wait {s t : Session} {ds : List Delivery} {now : Nat} : Reads s ds t → t.now ≤ now → Reads s ds { t with now }
  | push {s t : Session} {ds : List Delivery} (wire : Option Nat) (d : Delivery) :
      Reads s ds t → Reads s ds (t.push wire d).2

def bearings (s : Session) :
    Link.Phase × Link.Phase × Beat × Retry × Option Nat × Activity × Handlers Handler × Setup :=
  (s.published, s.link.phase, s.link.beat, s.link.retry, s.connection, s.activity, s.handlers, s.setup)

theorem dispatch_receive {d : Delivery} (hl : s.link.connected = true) (hd : d.isFrame = true) :
    Dispatch { s with link := s.link.dataReceived } d.events (s.receive d) := by
  cases d with
  | binary data => exact .onBinary (s := { s with link := s.link.dataReceived }) hl data
  | text content => exact .onText { s with link := s.link.dataReceived } content
  | _ => cases hd

theorem inbox_receive {d : Delivery} (hl : s.link.connected = true) (hd : d.isFrame = true) :
    (s.receive d).inbox = s.inbox := by
  have hr := (dispatch_receive hl hd).helm
  exact inbox_congr (congrArg Session.connection hr :) (congrArg Session.net hr :)

theorem onTick_of_time_left (h : s.link.phase = .connected) (hx : s.link.countdown.tick.1 ≠ .expired) :
    ∃ countdown, s.onTick = { s with link := { s.link with countdown } } := by
  rw [onTick]
  split
  · exact ⟨s.link.countdown, rfl⟩
  · have ht : s.link.tick = (.nothing, { s.link with countdown := s.link.countdown.tick.2 }) := by
      rw [Link.tick, if_neg (by simp [h])]
      generalize s.link.countdown.tick = ticked at hx ⊢
      obtain ⟨reading, countdown⟩ := ticked
      cases reading with
      | expired => exact absurd rfl hx
      | _ => rfl
    rw [ht]
    exact ⟨_, rfl⟩

structure Kept (s : Session) (ds : List Delivery) (t : Session) : Prop where
  bearings : t.bearings = s.bearings
  events : t.events = s.events ++ ds.flatMap Delivery.events
  heard : t.heard = s.heard ++ (ds.flatMap Delivery.events).filter fun e => (s.handlers.get? e.slot).isSome
  watchlist : s.Obliging (·.bystanding = true) → t.watchlist = s.watchlist
  inbox : ∃ arrived, s.inbox ++ arrived = ds ++ t.inbox

theorem Kept.of_quiet (h : Kept s ds t) (hb : u.bearings = t.bearings) (ht : u.trace = t.trace)
    (hw : u.watchlist = t.watchlist) (hi : ∃ arrived, u.inbox = t.inbox ++ arrived) : Kept s ds u where
  bearings := hb.trans h.bearings
  events := (collect_congr ht).trans h.events
  heard := (collect_congr ht).trans h.heard
  watchlist ho := hw.trans (h.watchlist ho)
  inbox := by
    obtain ⟨arrived, ha⟩ := h.inbox
    obtain ⟨later, hl⟩ := hi
    exact ⟨arrived ++ later, by rw [hl, ← List.append_assoc, ha, List.append_assoc]⟩

theorem Kept.frame {d : Delivery} (h : Kept s ds t) (hp : s.link.phase = .connected)
    (hd : t.takeDelivery? = some (d, u)) (hf : d.isFrame = true) : Kept s (ds ++ [d]) (u.receive d) := by
  obtain ⟨hinbox, hhelm, htrace, hwatch⟩ := inbox_of_take hd
  have hb : u.bearings = s.bearings := (congrArg Session.bearings hhelm :).trans h.bearings
  have hphase : u.link.phase = s.link.phase := by
    simp only [Session.bearings, Prod.mk.injEq] at hb
    exact hb.2.1
  have hhandlers : u.handlers = s.handlers := by
    simp only [Session.bearings, Prod.mk.injEq] at hb
    exact hb.2.2.2.2.2.2.1
  have hr := dispatch_receive (s := u) (decide_eq_true (hphase.trans hp)) hf
  have hevents : u.events = t.events := collect_congr htrace
  have hheard : u.heard = t.heard := collect_congr htrace
  constructor
  case bearings => exact (congrArg Session.bearings hr.helm :).trans hb
  case events =>
    have he : (u.receive d).events = u.events ++ d.events := hr.events
    rw [he, hevents, h.events, List.flatMap_append, List.append_assoc, List.flatMap_singleton]
  case heard =>
    have he : (u.receive d).heard = u.heard ++ d.events.filter fun e => (u.handlers.get? e.slot).isSome := hr.heard
    rw [he, hheard, hhandlers, h.heard, List.flatMap_append, List.filter_append, List.append_assoc,
      List.flatMap_singleton]
  case watchlist =>
    intro ho
    have hou : u.Obliging (·.bystanding = true) := by
      rw [Obliging, hhandlers]
      exact ho
    exact (hr.watchlist hou).trans (hwatch.trans (h.watchlist ho))
  case inbox =>
    obtain ⟨arrived, ha⟩ := h.inbox
    refine ⟨arrived, ?_⟩
    rw [inbox_receive (decide_eq_true (hphase.trans hp)) hf, ha, hinbox, List.append_assoc, List.singleton_append]

theorem Reads.kept (h : Reads s ds t) (hp : s.link.phase = .connected) : Kept s ds t := by
  have phase {t : Session} {ds : List Delivery} (h : Kept s ds t) : t.link.phase = .connected := by
    have hb := h.bearings
    simp only [Session.bearings, Prod.mk.injEq] at hb
    exact hb.2.1.trans hp
  induction h with
  | nil => exact ⟨rfl, (List.append_nil _).symm, (List.append_nil _).symm, fun _ => rfl, [], List.append_nil _⟩
  | frame _ _ _ hd hf ih => exact ih.frame hp hd hf
  | @tick t u ds _ hx hw ih =>
    cases hw with
    | tick =>
      -- time is left, so the tick only counts down
      have hpt : t.link.phase = .connected := phase ih
      obtain ⟨countdown, ht⟩ := onTick_of_time_left (s := { t with due := t.nextDue }) hpt hx
      rw [ht]
      exact ih.of_quiet rfl rfl rfl ⟨[], (List.append_nil _).symm⟩
  | wait _ _ ih => exact ih.of_quiet rfl rfl rfl ⟨[], (List.append_nil _).symm⟩
  | @push t ds wire d _ ih =>
    obtain ⟨net, hpush, _⟩ := push_eq t wire d
    have hi := inbox_push t wire d
    rw [hpush] at hi ⊢
    exact ih.of_quiet rfl rfl rfl hi

theorem Reads.bearings (h : Reads s ds t) (hp : s.link.phase = .connected) : t.bearings = s.bearings :=
  (h.kept hp).bearings

theorem Reads.more {es : List Delivery} {rest : List Delivery} (h : Reads s ds t) (hp : s.link.phase = .connected)
    (hi : s.activity = .idle) (ht : s.timerFails = false) (hin : t.inbox = es ++ rest)
    (hf : ∀ d ∈ es, d.isFrame = true) : ∃ u, Reads s (ds ++ es) u ∧ u.inbox = rest := by
  induction es generalizing ds t with
  | nil => exact ⟨t, (List.append_nil ds).symm ▸ h, hin⟩
  | cons d es ih =>
    have hb := h.bearings hp
    simp only [Session.bearings, Prod.mk.injEq] at hb
    obtain ⟨_, hphase, _, _, _, hact, _, hsetup⟩ := hb
    have hfree : t.timerFails = false := by
      rw [timerFails, hsetup]
      exact ht
    obtain ⟨u, hd, hu⟩ := take_of_inbox hin
    have hframe : d.isFrame = true := hf d List.mem_cons_self
    have hr : Reads s (ds ++ [d]) (u.receive d) := .frame h (hact.trans hi) hfree hd hframe
    have hl : u.link = t.link := (congrArg Session.link (inbox_of_take hd).2.1 :)
    have hinbox := inbox_receive (s := u) (by rw [hl]; exact decide_eq_true (hphase.trans hp)) hframe
    obtain ⟨v, hv, hrest⟩ := ih hr (hinbox.trans hu) fun x hx => hf x (List.mem_cons_of_mem _ hx)
    rw [List.append_cons]
    exact ⟨v, hv, hrest⟩

theorem Reads.run (h : Reads s ds t) : ∃ ms, Run ms s t := by
  have snoc {m : Move} {s t u : Session} (h : ∃ ms, Run ms s t) (hs : Step m t u) : ∃ ms, Run ms s u := by
    obtain ⟨ms, hms⟩ := h
    exact ⟨_, hms.append (.single hs)⟩
  induction h with
  | nil => exact ⟨[], .nil s⟩
  | frame _ hi ht hd _ ih => exact snoc ih (.driver (.delivery hi ht hd))
  | tick _ _ hw ih => exact snoc ih (.driver hw)
  | wait _ hnow ih => exact snoc ih (.wait hnow)
  | push wire d _ ih => exact snoc ih (.push wire d _)

/-- Frames from a live connection are told of in the order of their arrival, each with all it has to tell, and
whatever handlers do, the session stands as before and has its whole window ahead of it. -/
theorem inbound_told_in_order (hp : s.link.phase = .connected) (h : Reads s ds t) :
    (∃ ms, Run ms s t) ∧ t.events = s.events ++ ds.flatMap Delivery.events ∧
      (∀ ess, List.Forall₂ Delivery.Tells ds ess → ds.flatMap Delivery.events = ess.flatten) ∧
      (t.heard = s.heard ++ (ds.flatMap Delivery.events).filter fun e => (s.handlers.get? e.slot).isSome) ∧
      (t.published = s.published ∧ t.link.phase = .connected ∧ t.connection = s.connection ∧
        t.link.retry = s.link.retry ∧ t.activity = s.activity) ∧
      (s.Obliging (·.bystanding = true) → t.watchlist = s.watchlist) ∧
      (∃ arrived, s.inbox ++ arrived = ds ++ t.inbox) ∧
      (∀ d u, t.takeDelivery? = some (d, u) → d.isFrame = true →
        (u.receive d).link.countdown =
          ⟨s.link.beat.ticksFor s.link.retry.rule.interval, t.link.countdown.running⟩) ∧
      ∀ es rest, s.activity = .idle → s.timerFails = false → t.inbox = es ++ rest → (∀ d ∈ es, d.isFrame = true) →
        ∃ u, Reads s (ds ++ es) u ∧ u.inbox = rest := by
  have hk := h.kept hp
  have hb := hk.bearings
  simp only [bearings, Prod.mk.injEq] at hb
  obtain ⟨hpublished, hphase, hbeat, hretry, hconn, hact, hhandlers, hsetup⟩ := hb
  refine ⟨h.run, hk.events, fun _ htells => Delivery.flatMap_events htells, hk.heard,
    ⟨hpublished, hphase.trans hp, hconn, hretry, hact⟩, hk.watchlist, hk.inbox, ?_, ?_⟩
  · intro d u hd hf
    obtain ⟨_, hhelm, _, _⟩ := inbox_of_take hd
    have hl : u.link = t.link := (congrArg Session.link hhelm :)
    have hu : u.link.connected = true := by
      rw [hl]
      exact decide_eq_true (hphase.trans hp)
    have hr : (u.receive d).link = u.link.dataReceived := (congrArg Session.link (dispatch_receive hu hf).helm :)
    rw [hr, hl, ← hbeat, ← hretry]
    rfl
  · intro es rest hi ht hin hf
    exact h.more hp hi ht hin hf

theorem inbound_told_in_order_of_panic :
    ∃ (s t : Session) (packet : List UInt8) (tick : Tick) (order : Order), s.Reachable ∧ s.link.phase = .connected ∧
      Reads s [.binary packet, .text "\x7b\"type\":\"error\",\"data\":\"no\"\x7d", .binary [0],
        .text "\x7b\"type\":\"order\",\"data\":\x7b\"order_id\":\"1\"\x7d\x7d", .binary packet] t ∧
      t.events = [.connected, .tick tick, .error "no", .order order, .tick tick] ∧ order.orderId = "1" ∧
      t.heard = [.tick tick, .tick tick] ∧ t.published = .connected ∧ t.watchlist = s.watchlist := by
  -- the first tick breaks its handler off, and the second one reaches it all the same
  let breaks : Handler := fun past _ => ⟨[], past.all fun x => x.happening.heard?.isNone⟩
  let body : List UInt8 := [0, 6, 58, 1, 0, 0, 0, 100]
  let packet := Feed.Frame.encode [body]
  let refusal : String := "\x7b\"type\":\"error\",\"data\":\"no\"\x7d"
  let update : String := "\x7b\"type\":\"order\",\"data\":\x7b\"order_id\":\"1\"\x7d\x7d"
  let frames : List Delivery := [.binary packet, .text refusal, .binary [0], .text update, .binary packet]
  let order : Order := { (default : Order) with orderId := "1" }
  obtain ⟨s, hs, hup, hpublic, hidle, hfree, hinbox, hstart, hquiet, hhandlers⟩ :
      ∃ s : Session, s.Reachable ∧ s.link.phase = .connected ∧ s.published = .connected ∧ s.activity = .idle ∧
        s.timerFails = false ∧ s.inbox = frames ++ [] ∧ s.events = [.connected] ∧ s.heard = [] ∧
        s.handlers = Handlers.none.set .tick breaks := by
    have first := Run.nil (start .standard ⟨"key", "token"⟩ (Handlers.none.set .tick breaks)
      (.start [] ⟨.accept .smooth, 0⟩) fun _ => none)
    have asked := (first.append (.single (.call .connect _))).append
      (.single (@Step.connect _ 1 (by simp [call, requestConnect, start])))
    have connected := ((asked.append (.single (.driver (.command rfl (by decide) rfl)))).append
      (.single (.driver (.handshake rfl rfl)))).append (.single (.driver (.conclude rfl)))
    have pushed := ((((connected.append (.single (.push none (.binary packet) _))).append
      (.single (.push none (.text refusal) _))).append (.single (.push none (.binary [0]) _))).append
      (.single (.push none (.text update) _))).append (.single (.push none (.binary packet) _))
    refine ⟨_, ⟨_, _, _, _, _, _, pushed⟩, by decide +kernel, by decide +kernel, by decide +kernel, by decide +kernel,
      by decide +kernel, by decide +kernel, by decide +kernel, ?_⟩
    rw [handlers_push, handlers_push, handlers_push, handlers_push, handlers_push]
    rfl
  obtain ⟨tick, htick⟩ : ∃ tick, Feed.Packet.valid? body = some tick := ⟨_, rfl⟩
  have hpacket : Delivery.Tells (.binary packet) [.tick tick] := by
    have h : Delivery.Tells (.binary (Feed.Frame.encode [body] ++ [])) _ := .packets [] (by decide) (by decide)
    rwa [List.filterMap_cons_some htick, List.append_nil] at h
  have hrefusal : Delivery.Tells (.text refusal) [.error "no"] := by
    have h := Delivery.Tells.complaint (ServerMessage.says_bare "error" (.text (Json.spellsText_writeText "no")))
    rwa [show (ServerMessage.bare "error" (Json.writeText "no")).text = refusal by decide] at h
  have hupdate : Delivery.Tells (.text update) [.order order] := by
    have hdata : Json.Spells Json.Value.innerRoom "\x7b\"order_id\":\"1\"\x7d".toList
        (.object [("order_id", .text "1")]) := by
      refine .object .none [(Json.compact ("order_id", Json.writeText "1"), "order_id", .text "1")] ?_ ?_ (by simp)
      · exact List.forall_mem_singleton.2 (Json.spellsText_writeText "order_id")
      · exact List.forall_mem_singleton.2 (.text (Json.spellsText_writeText "1"))
    have h : Delivery.Tells _ [.order order] := .order (ServerMessage.says_bare "order" hdata) rfl
    rwa [show (ServerMessage.bare "order" "\x7b\"order_id\":\"1\"\x7d".toList).text = update by decide] at h
  obtain ⟨_, _, _, _, _, _, _, _, more⟩ := inbound_told_in_order hup (.nil s)
  obtain ⟨t, reading, _⟩ := more frames [] hidle hfree hinbox (by simp [frames, Delivery.isFrame])
  obtain ⟨_, hevents, htells, hheard, ⟨hpublished, _⟩, hwatchlist, _⟩ := inbound_told_in_order hup reading
  have hall := htells _ (.cons hpacket (.cons hrefusal (.cons (.heartbeat 0) (.cons hupdate (.cons hpacket .nil)))))
  refine ⟨s, t, packet, tick, order, hs, hup, reading, ?_, rfl, ?_, hpublished.trans hpublic, hwatchlist ?_⟩
  · rw [hevents, hall, hstart]
    rfl
  · rw [hheard, hall, hquiet, hhandlers]
    rfl
  · rintro slot handler hh c ⟨past, e, hc⟩
    rw [hhandlers] at hh
    change (if slot = .tick then some breaks else none) = some handler at hh
    split at hh
    · cases hh
      cases hc
    · cases hh

end Session

end MarketTicker
