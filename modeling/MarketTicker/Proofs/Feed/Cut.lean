import MarketTicker.Proofs.Feed.Frame

namespace MarketTicker.Feed

theorem Outcome.tick?_eq_none {x : Outcome} (h : x.isSkipped = true) : x.tick? = none := by
  cases x with
  | tick => cases h
  | _ => rfl

namespace Frame

/-- No whole packet stands at the front. -/
def Scrap (bs : List UInt8) : Prop :=
  ∀ body rest, body.length < 65536 → bs ≠ framed body ++ rest

theorem length_bytes16 (w : UInt16) : (bytes16 w).length = 2 := rfl

theorem length_framed (body : List UInt8) : (framed body).length = 2 + body.length := by
  rw [framed, List.length_append, length_bytes16]

theorem span_cons (body : List UInt8) (bodies : List (List UInt8)) :
    span (body :: bodies) = 2 + body.length + span bodies := by
  simp [span]

theorem length_flatMap_framed (bodies : List (List UInt8)) : (bodies.flatMap framed).length = span bodies := by
  induction bodies with
  | nil => rfl
  | cons body bodies ih => rw [List.flatMap_cons, List.length_append, length_framed, ih, span_cons]

theorem bytes16_ofNat_length_inj {body body' rest rest' : List UInt8} (hb : body.length < 65536)
    (hb' : body'.length < 65536)
    (h : bytes16 (.ofNat body.length) ++ rest = bytes16 (.ofNat body'.length) ++ rest') :
    body.length = body'.length := by
  have hword := congrArg word16 h
  rw [word16_append, word16_append] at hword
  have hlength := congrArg UInt16.toNat (Prod.mk.inj (Option.some.inj hword)).1
  rwa [toNat_ofNat_length hb, toNat_ofNat_length hb'] at hlength

namespace Scrap

theorem take {bs : List UInt8} (h : Scrap bs) (k : Nat) : Scrap (bs.take k) := by
  intro body rest hb heq
  refine h body (rest ++ bs.drop k) hb ?_
  rw [← List.append_assoc, ← heq, List.take_append_drop]

theorem of_cut {body : List UInt8} (hb : body.length < 65536) (rest : List UInt8) {k : Nat}
    (hk : k < 2 + body.length) : Scrap ((framed body ++ rest).take k) := by
  intro body' rest' hb' heq
  have hall : framed body ++ rest = framed body' ++ (rest' ++ (framed body ++ rest).drop k) := by
    rw [← List.append_assoc, ← heq, List.take_append_drop]
  rw [framed, framed, List.append_assoc, List.append_assoc] at hall
  have hlength := bytes16_ofNat_length_inj hb hb' hall
  have hshort := congrArg List.length heq
  rw [List.length_take, List.length_append, List.length_append, length_framed, length_framed] at hshort
  omega

theorem packets {bs : List UInt8} (h : Scrap bs) (count : Nat) :
    ∃ x : Outcome, x.isSkipped = true ∧ Frame.packets (count + 1) bs = ([x], bs.length) := by
  cases hw : word16 bs with
  | none => exact ⟨.missing, rfl, by simp only [Frame.packets, hw]⟩
  | some taken =>
    obtain ⟨n, rest⟩ := taken
    obtain rfl := eq_of_word16 hw
    by_cases hr : rest.length < n.toNat
    · refine ⟨.cut n.toNat rest.length, rfl, ?_⟩
      simp only [Frame.packets, hw, if_pos hr, List.length_append, length_bytes16]
    · have hlength : (rest.take n.toNat).length = n.toNat := by
        rw [List.length_take]
        omega
      have hn : UInt16.ofNat (rest.take n.toNat).length = n := by rw [hlength, UInt16.ofNat_toNat]
      have hlt := n.toNat_lt
      refine absurd ?_ (h (rest.take n.toNat) (rest.drop n.toNat) (by omega))
      rw [framed, hn, List.append_assoc, List.take_append_drop]

end Scrap

theorem packets_append (bodies : List (List UInt8)) (hb : ∀ body ∈ bodies, body.length < 65536) (n : Nat)
    (rest : List UInt8) :
    packets (bodies.length + n) (bodies.flatMap framed ++ rest) =
      (bodies.map Outcome.ofBody ++ (packets n rest).1, span bodies + (packets n rest).2) := by
  induction bodies with
  | nil => simp [span]
  | cons body bodies ih =>
    have hbody := hb body List.mem_cons_self
    have hbodies := ih fun b h => hb b (List.mem_cons_of_mem _ h)
    have hcount : (body :: bodies).length + n = bodies.length + n + 1 := by
      rw [List.length_cons]
      omega
    rw [hcount, List.flatMap_cons, List.append_assoc, packets_cons _ hbody, hbodies, span_cons]
    dsimp only
    rw [Nat.add_assoc (2 + body.length)]
    rfl

theorem packets_of_less {count : Nat} {bodies : List (List UInt8)} {rest : List UInt8}
    (hb : ∀ body ∈ bodies, body.length < 65536) (hless : bodies.length < count) (hscrap : Scrap rest) :
    ∃ x : Outcome, x.isSkipped = true ∧
      packets count (bodies.flatMap framed ++ rest) =
        (bodies.map Outcome.ofBody ++ [x], (bodies.flatMap framed ++ rest).length) := by
  obtain ⟨n, rfl⟩ := Nat.exists_eq_add_of_lt hless
  obtain ⟨x, hx, hp⟩ := hscrap.packets n
  refine ⟨x, hx, ?_⟩
  rw [Nat.add_assoc, packets_append bodies hb, hp, List.length_append, length_flatMap_framed]

/-- The packets at the front of a row of bytes, up to as many as are announced, and whether more are. -/
structure Packed (count : Nat) (bodies : List (List UInt8)) (rest : List UInt8) : Prop where
  short : ∀ body ∈ bodies, body.length < 65536
  complete : bodies.length = count ∨ bodies.length < count ∧ Scrap rest

theorem packed (count : Nat) (bs : List UInt8) :
    ∃ bodies rest, bs = bodies.flatMap framed ++ rest ∧ Packed count bodies rest := by
  induction count generalizing bs with
  | zero => exact ⟨[], bs, rfl, by simp, .inl rfl⟩
  | succ count ih =>
    by_cases hs : Scrap bs
    · exact ⟨[], bs, rfl, by simp, .inr ⟨Nat.succ_pos _, hs⟩⟩
    · simp only [Scrap, not_forall, ne_eq, not_not] at hs
      obtain ⟨body, tail, hb, rfl⟩ := hs
      obtain ⟨bodies, rest, rfl, hp⟩ := ih tail
      refine ⟨body :: bodies, rest, by rw [List.flatMap_cons, List.append_assoc], ?_, ?_⟩
      · exact List.forall_mem_cons.2 ⟨hb, hp.short⟩
      · refine hp.complete.imp (congrArg Nat.succ) fun ⟨hlt, hscrap⟩ => ⟨Nat.succ_lt_succ hlt, hscrap⟩

def fitting : Nat → List (List UInt8) → List (List UInt8)
  | _, [] => []
  | room, body :: bodies =>
    if 2 + body.length ≤ room then body :: fitting (room - (2 + body.length)) bodies else []

theorem fitting_initial (room : Nat) (bodies : List (List UInt8)) : fitting room bodies <+: bodies := by
  induction bodies generalizing room with
  | nil => exact List.prefix_rfl
  | cons body bodies ih =>
    rw [fitting]
    split
    · exact (List.prefix_cons_inj body).2 (ih _)
    · exact List.nil_prefix

theorem length_fitting_lt {room : Nat} {bodies : List (List UInt8)} (h : room < span bodies) :
    (fitting room bodies).length < bodies.length := by
  induction bodies generalizing room with
  | nil => exact absurd h (Nat.not_lt_zero _)
  | cons body bodies ih =>
    rw [span_cons] at h
    rw [fitting]
    split
    · exact Nat.succ_lt_succ (ih (by omega))
    · exact Nat.succ_pos _

theorem take_framed {bodies : List (List UInt8)} {rest : List UInt8} {room : Nat}
    (hb : ∀ body ∈ bodies, body.length < 65536) (h : room < span bodies ∨ Scrap rest) :
    ∃ scrap, Scrap scrap ∧
      (bodies.flatMap framed ++ rest).take room = (fitting room bodies).flatMap framed ++ scrap := by
  induction bodies generalizing room with
  | nil =>
    have hrest : Scrap rest := h.resolve_left (Nat.not_lt_zero _)
    exact ⟨rest.take room, hrest.take room, rfl⟩
  | cons body bodies ih =>
    obtain ⟨hbody, hbodies⟩ := List.forall_mem_cons.1 hb
    rw [List.flatMap_cons, List.append_assoc, fitting]
    split
    · rename_i hfits
      have hlater : room - (2 + body.length) < span bodies ∨ Scrap rest := by
        rw [span_cons] at h
        exact h.imp_left fun hlt => by omega
      obtain ⟨scrap, hscrap, htake⟩ := ih hbodies hlater
      refine ⟨scrap, hscrap, ?_⟩
      rw [List.flatMap_cons, List.append_assoc, ← htake, List.take_append, length_framed,
        List.take_of_length_le (length_framed body ▸ hfits)]
    · rename_i hover
      exact ⟨_, .of_cut hbody _ (Nat.lt_of_not_le hover), rfl⟩

namespace Packed

variable {count room : Nat} {bodies : List (List UInt8)} {rest : List UInt8}

theorem packets (h : Packed count bodies rest) :
    ∃ xs : List Outcome, (∀ x ∈ xs, x.isSkipped = true) ∧ bodies.length + xs.length ≤ count ∧
      (Frame.packets count (bodies.flatMap framed ++ rest)).1 = bodies.map Outcome.ofBody ++ xs ∧
      (Frame.packets count (bodies.flatMap framed ++ rest)).2 ≤ (bodies.flatMap framed ++ rest).length := by
  rcases h.complete with rfl | ⟨hless, hscrap⟩
  · refine ⟨[], by simp, Nat.le_refl _, ?_⟩
    rw [packets_framed bodies h.short, List.length_append, length_flatMap_framed, List.append_nil]
    exact ⟨rfl, Nat.le_add_right _ _⟩
  · obtain ⟨x, hx, hp⟩ := packets_of_less h.short hless hscrap
    rw [hp]
    exact ⟨[x], by simpa using hx, hless, rfl, Nat.le_refl _⟩

/-- A cut before the end of what is read loses the packets behind it, and one of them is counted. -/
theorem packets_take (h : Packed count bodies rest)
    (hroom : room < (Frame.packets count (bodies.flatMap framed ++ rest)).2) :
    ∃ x : Outcome, x.isSkipped = true ∧
      (Frame.packets count ((bodies.flatMap framed ++ rest).take room)).1 =
        (fitting room bodies).map Outcome.ofBody ++ [x] := by
  have hless : (fitting room bodies).length < count ∧ (room < span bodies ∨ Scrap rest) := by
    rcases h.complete with rfl | ⟨hless, hscrap⟩
    · rw [packets_framed bodies h.short] at hroom
      exact ⟨length_fitting_lt hroom, .inl hroom⟩
    · exact ⟨Nat.lt_of_le_of_lt (fitting_initial room bodies).length_le hless, .inr hscrap⟩
  obtain ⟨scrap, hscrap, htake⟩ := take_framed h.short hless.2
  have hfits : ∀ body ∈ fitting room bodies, body.length < 65536 :=
    fun body hbody => h.short body ((fitting_initial room bodies).subset hbody)
  obtain ⟨x, hx, hp⟩ := packets_of_less hfits hless.1 hscrap
  exact ⟨x, hx, by rw [htake, hp]⟩

theorem packets_take_of_le (h : Packed count bodies rest)
    (hroom : (Frame.packets count (bodies.flatMap framed ++ rest)).2 ≤ room) :
    Frame.packets count ((bodies.flatMap framed ++ rest).take room) =
      Frame.packets count (bodies.flatMap framed ++ rest) := by
  rcases h.complete with rfl | ⟨hless, hscrap⟩
  · rw [packets_framed bodies h.short] at hroom ⊢
    rw [List.take_append, List.take_of_length_le (length_flatMap_framed bodies ▸ hroom), packets_framed bodies h.short]
  · obtain ⟨x, _, hp⟩ := packets_of_less h.short hless hscrap
    rw [hp] at hroom
    rw [List.take_of_length_le hroom]

end Packed

theorem Decoded.counts {d : Decoded} {bodies : List (List UInt8)} {xs : List Outcome}
    (h : d.outcomes = bodies.map Outcome.ofBody ++ xs) (hxs : ∀ x ∈ xs, x.isSkipped = true) :
    d.ticks = bodies.filterMap Packet.valid? ∧
      d.skipped = bodies.countP (fun body => (Packet.valid? body).isNone) + xs.length := by
  have hnone : xs.filterMap Outcome.tick? = [] :=
    List.filterMap_eq_nil_iff.2 fun x hx => Outcome.tick?_eq_none (hxs x hx)
  have hall : xs.countP Outcome.isSkipped = xs.length := List.countP_eq_length.2 hxs
  have htick : Outcome.tick? ∘ Outcome.ofBody = Packet.valid? := funext Outcome.tick?_ofBody
  have hskipped : Outcome.isSkipped ∘ Outcome.ofBody = fun body => (Packet.valid? body).isNone :=
    funext Outcome.isSkipped_ofBody
  rw [ticks, skipped, h, List.filterMap_append, List.countP_append, List.filterMap_map, List.countP_map, hnone, hall,
    htick, hskipped, List.append_nil]
  exact ⟨rfl, rfl⟩

theorem length_filterMap_valid (bodies : List (List UInt8)) :
    (bodies.filterMap Packet.valid?).length + bodies.countP (fun body => (Packet.valid? body).isNone) =
      bodies.length := by
  induction bodies with
  | nil => rfl
  | cons body bodies ih =>
    cases hv : Packet.valid? body with
    | none =>
      simp only [List.filterMap_cons, List.countP_cons, hv, Option.isNone_none, if_pos, List.length_cons]
      omega
    | some t =>
      simp only [List.filterMap_cons, List.countP_cons, hv, Option.isNone_some, List.length_cons]
      rw [if_neg (by simp)]
      omega

theorem decode_append (n : UInt16) (rest : List UInt8) :
    decode (bytes16 n ++ rest) = .ok ⟨(packets n.toNat rest).1, 2 + (packets n.toNat rest).2, false⟩ := by
  have hheart : isHeartbeat (bytes16 n ++ rest) = false := by simp [isHeartbeat, bytes16]
  rw [decode, hheart, word16_append]
  rfl

theorem exists_count {data : List UInt8} (h : 2 ≤ data.length) : ∃ n rest, data = bytes16 n ++ rest := by
  match data, h with
  | a :: b :: rest, _ =>
    have hw : word16 (a :: b :: rest) = some (word16Of a b, rest) := rfl
    exact ⟨_, _, eq_of_word16 hw⟩

/-- The packets that a frame announces and that are there as a whole. -/
def Carries (data : List UInt8) (bodies : List (List UInt8)) : Prop :=
  ∃ n rest, data = bytes16 n ++ (bodies.flatMap framed ++ rest) ∧ Packed n.toNat bodies rest

def ticksOf (data : List UInt8) : List Tick :=
  match decode data with
  | .ok decoded => decoded.ticks
  | .error _ => []

theorem ticksOf_append (n : UInt16) (rest : List UInt8) :
    ticksOf (bytes16 n ++ rest) = (packets n.toNat rest).1.filterMap Outcome.tick? := by
  rw [ticksOf, decode_append]
  rfl

theorem take_count (n : UInt16) (rest : List UInt8) {c : Nat} (hc : 2 ≤ c) :
    (bytes16 n ++ rest).take c = bytes16 n ++ rest.take (c - 2) := by
  rw [List.take_append, length_bytes16, List.take_of_length_le hc]

section

variable {n : UInt16} {bodies : List (List UInt8)} {rest : List UInt8} (h : Packed n.toNat bodies rest)

include h

theorem decode_cut {c : Nat} (hc : 2 ≤ c) (hroom : c - 2 < (packets n.toNat (bodies.flatMap framed ++ rest)).2) :
    ∃ cut, decode ((bytes16 n ++ (bodies.flatMap framed ++ rest)).take c) = .ok cut ∧
      cut.ticks = (fitting (c - 2) bodies).filterMap Packet.valid? ∧
      cut.skipped = (fitting (c - 2) bodies).countP (fun body => (Packet.valid? body).isNone) + 1 ∧
      cut.consumed ≤ c := by
  obtain ⟨x, hx, hp⟩ := h.packets_take hroom
  obtain ⟨_, _, hbs, hpacked⟩ := packed n.toNat ((bodies.flatMap framed ++ rest).take (c - 2))
  obtain ⟨_, _, _, _, hused⟩ := hpacked.packets
  rw [← hbs, List.length_take] at hused
  rw [take_count n _ hc, decode_append]
  refine ⟨_, rfl, ?_⟩
  obtain ⟨hticks, hskipped⟩ := Decoded.counts (d := ⟨_, 2 + _, false⟩) hp (by simpa using hx)
  refine ⟨hticks, hskipped, ?_⟩
  dsimp only
  omega

theorem ticksOf_packed : ticksOf (bytes16 n ++ (bodies.flatMap framed ++ rest)) = bodies.filterMap Packet.valid? := by
  obtain ⟨xs, hxs, _, hp, _⟩ := h.packets
  rw [ticksOf_append]
  exact (Decoded.counts (d := ⟨_, 0, false⟩) hp hxs).1

theorem ticksOf_take_initial (c : Nat) :
    ticksOf ((bytes16 n ++ (bodies.flatMap framed ++ rest)).take c) <+: bodies.filterMap Packet.valid? := by
  match c with
  | 0 => exact List.nil_prefix
  | 1 => exact List.nil_prefix
  | c + 2 =>
    by_cases hroom : c < (packets n.toNat (bodies.flatMap framed ++ rest)).2
    · obtain ⟨cut, hcut, hticks, _⟩ := decode_cut h (Nat.le_add_left 2 c) hroom
      rw [ticksOf, hcut]
      dsimp only
      rw [hticks]
      exact (fitting_initial _ bodies).filterMap _
    · have hsame := h.packets_take_of_le (Nat.le_of_not_lt hroom)
      have htake := take_count n (bodies.flatMap framed ++ rest) (Nat.le_add_left 2 c)
      rw [Nat.add_sub_cancel] at htake
      have hall : ticksOf ((bytes16 n ++ (bodies.flatMap framed ++ rest)).take (c + 2)) =
          bodies.filterMap Packet.valid? := by
        rw [htake, ticksOf_append, hsame, ← ticksOf_append, ticksOf_packed h]
      exact hall ▸ List.prefix_rfl

end

theorem decode_bounds {data : List UInt8} {d : Decoded} (h : decode data = .ok d) :
    d.consumed ≤ data.length ∧
      (d.heartbeat = false → ∃ n rest, data = bytes16 n ++ rest ∧ d.ticks.length + d.skipped ≤ n.toNat) := by
  match data with
  | [] => cases h
  | [b] =>
    cases h
    exact ⟨Nat.le_refl 1, by simp⟩
  | a :: b :: bs =>
    have hlength : 2 ≤ (a :: b :: bs).length := by simp
    obtain ⟨n, rest, hdata⟩ := exists_count hlength
    rw [hdata] at h ⊢
    obtain ⟨bodies, tail, rfl, hp⟩ := packed n.toNat rest
    obtain ⟨xs, hxs, hcount, houtcomes, hused⟩ := hp.packets
    rw [decode_append] at h
    cases h
    obtain ⟨hticks, hskipped⟩ := Decoded.counts (d := ⟨_, 2 + _, false⟩) houtcomes hxs
    refine ⟨by rw [List.length_append, length_bytes16]; exact Nat.add_le_add_left hused 2, fun _ => ⟨n, _, rfl, ?_⟩⟩
    rw [hticks, hskipped, ← Nat.add_assoc, length_filterMap_valid]
    exact hcount

/-- A cut takes away the packets that do not lie within it and changes nothing for those that do; what is read never
exceeds what there is, in bytes and in packets. -/
theorem cut_loses_only_tail (data : List UInt8) :
    (2 ≤ data.length → ∃ whole bodies, decode data = .ok whole ∧ Carries data bodies ∧
      whole.ticks = bodies.filterMap Packet.valid? ∧
      decode (data.take 0) = .error .truncated ∧ decode (data.take 1) = .ok ⟨[], 1, true⟩ ∧
      ∀ c, ticksOf (data.take c) <+: whole.ticks ∧
        (2 ≤ c → c < whole.consumed → ∃ cut, decode (data.take c) = .ok cut ∧
          cut.ticks = (fitting (c - 2) bodies).filterMap Packet.valid? ∧
          cut.skipped = (fitting (c - 2) bodies).countP (fun body => (Packet.valid? body).isNone) + 1 ∧
          cut.consumed ≤ c)) ∧
    ∀ offset decoded, decodeAt data offset = .ok decoded →
      decoded.consumed ≤ data.length - offset ∧
        (decoded.heartbeat = false → ∃ n rest, data.drop offset = bytes16 n ++ rest ∧
          decoded.ticks.length + decoded.skipped ≤ n.toNat) := by
  constructor
  · intro hlength
    obtain ⟨n, tail, rfl⟩ := exists_count hlength
    obtain ⟨bodies, rest, rfl, hp⟩ := packed n.toNat tail
    have hticks := ticksOf_packed hp
    rw [ticksOf_append] at hticks
    refine ⟨_, bodies, decode_append n _, ⟨n, rest, rfl, hp⟩, hticks, rfl, rfl, fun c => ⟨?_, fun hc hconsumed => ?_⟩⟩
    · rw [Decoded.ticks, hticks]
      exact ticksOf_take_initial hp c
    · exact decode_cut hp hc (by dsimp only at hconsumed; omega)
  · intro offset decoded h
    rw [decodeAt] at h
    split at h
    · cases h
    · rw [← List.length_drop]
      exact decode_bounds h

theorem cut_loses_only_tail_of_body :
    let data : List UInt8 := encode [[0, 0, 1, 1, 0, 0, 0, 100], [], [0, 0, 1, 1, 0, 0, 0, 200]] ++ [9]
    2 ≤ data.length ∧ (∃ whole cut, decode data = .ok whole ∧ decode (data.take 20) = .ok cut ∧
      cut.consumed ≤ 20 ∧ ticksOf (data.take 20) <+: whole.ticks ∧ whole.ticks.length = 2 ∧ whole.consumed = 24 ∧
      cut.ticks.length = 1 ∧ cut.skipped = 2) ∧
      ∃ decoded, decodeAt (7 :: data) 1 = .ok decoded ∧ decoded.consumed ≤ data.length := by
  intro data
  obtain ⟨whole, bodies, hwhole, _, _, _, _, hcut⟩ := (cut_loses_only_tail data).1 (by decide)
  obtain ⟨hinitial, hwithin⟩ := hcut 20
  obtain rfl : _ = whole := Except.ok.inj ((by rfl : decode data = .ok _).symm.trans hwhole)
  obtain ⟨cut, hdecoded, _, _, hconsumed⟩ := hwithin (by decide) (by decide)
  obtain rfl : _ = cut := Except.ok.inj ((by rfl : decode (data.take 20) = .ok _).symm.trans hdecoded)
  have hoffset : ∃ decoded, decodeAt (7 :: data) 1 = .ok decoded := ⟨_, hwhole⟩
  obtain ⟨decoded, hat⟩ := hoffset
  exact ⟨by decide, ⟨_, _, hwhole, hdecoded, hconsumed, hinitial, rfl, rfl, rfl, rfl⟩,
    decoded, hat, ((cut_loses_only_tail (7 :: data)).2 1 decoded hat).1⟩

end Frame

end MarketTicker.Feed
