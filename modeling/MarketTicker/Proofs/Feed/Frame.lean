import Mathlib.Algebra.Ring.Nat
import MarketTicker.Feed.Frame

namespace MarketTicker.Feed

/-- The tick of a body that decodes and names an instrument. -/
def Packet.valid? (body : List UInt8) : Option Tick :=
  match decode body with
  | .ok t => if t.token = 0 then none else some t
  | .error _ => none

theorem Outcome.tick?_ofBody (body : List UInt8) : (ofBody body).tick? = Packet.valid? body := by
  unfold ofBody Packet.valid?
  cases Packet.decode body with
  | ok t =>
    by_cases h : t.token = 0
    · simp [h, tick?]
    · simp [h, tick?]
  | error fault => rfl

theorem Outcome.isSkipped_ofBody (body : List UInt8) :
    (ofBody body).isSkipped = (Packet.valid? body).isNone := by
  unfold ofBody Packet.valid?
  cases Packet.decode body with
  | ok t =>
    by_cases h : t.token = 0
    · simp [h, isSkipped]
    · simp [h, isSkipped]
  | error fault => rfl

namespace Frame

def framed (body : List UInt8) : List UInt8 :=
  bytes16 (.ofNat body.length) ++ body

def encode (bodies : List (List UInt8)) : List UInt8 :=
  bytes16 (.ofNat bodies.length) ++ bodies.flatMap framed

def span (bodies : List (List UInt8)) : Nat :=
  (bodies.map fun body => 2 + body.length).sum

theorem toNat_ofNat_length {α : Type} {xs : List α} (h : xs.length < 65536) :
    (UInt16.ofNat xs.length).toNat = xs.length := by
  rw [UInt16.toNat_ofNat']
  exact Nat.mod_eq_of_lt h

theorem packets_cons (count : Nat) {body : List UInt8} (hb : body.length < 65536) (rest : List UInt8) :
    packets (count + 1) (framed body ++ rest) =
      (.ofBody body :: (packets count rest).1, 2 + body.length + (packets count rest).2) := by
  have hlength := toNat_ofNat_length hb
  have hfits : ¬(body ++ rest).length < body.length := by
    rw [List.length_append]
    omega
  rw [framed, List.append_assoc]
  simp only [packets, word16_append, hlength, if_neg hfits, List.drop_left, List.take_left]

theorem packets_framed (bodies : List (List UInt8)) (hb : ∀ body ∈ bodies, body.length < 65536)
    (trailing : List UInt8) :
    packets bodies.length (bodies.flatMap framed ++ trailing) =
      (bodies.map Outcome.ofBody, span bodies) := by
  induction bodies with
  | nil => rfl
  | cons body bodies ih =>
    have hbody := hb body List.mem_cons_self
    have hbodies := ih fun b h => hb b (List.mem_cons_of_mem _ h)
    rw [List.length_cons, List.flatMap_cons, List.append_assoc, packets_cons _ hbody, hbodies]
    simp [span]

theorem decode_encode_append {bodies : List (List UInt8)} (hn : bodies.length < 65536)
    (hb : ∀ body ∈ bodies, body.length < 65536) (trailing : List UInt8) :
    decode (encode bodies ++ trailing) =
      .ok ⟨bodies.map Outcome.ofBody, 2 + span bodies, false⟩ := by
  have hheart : isHeartbeat (encode bodies ++ trailing) = false := by
    simp [isHeartbeat, encode, bytes16]
  have hcount := toNat_ofNat_length hn
  unfold decode
  rw [hheart, encode, List.append_assoc, word16_append]
  simp only [Bool.false_eq_true, if_false, hcount, packets_framed bodies hb trailing]

theorem ticks_ofBody (bodies : List (List UInt8)) (consumed : Nat) (heartbeat : Bool) :
    (Decoded.mk (bodies.map Outcome.ofBody) consumed heartbeat).ticks = bodies.filterMap Packet.valid? := by
  simp only [Decoded.ticks, List.filterMap_map]
  congr 1
  funext body
  exact Outcome.tick?_ofBody body

/-- Every body that was framed is decoded as if it stood alone, and what trails the last has no effect. -/
theorem decode_frame {bodies : List (List UInt8)} (hn : bodies.length < 65536)
    (hb : ∀ body ∈ bodies, body.length < 65536) (trailing : List UInt8) :
    ∃ decoded, decode (encode bodies ++ trailing) = .ok decoded ∧
      decoded.ticks = bodies.filterMap Packet.valid? ∧
      decoded.skipped = bodies.countP (fun body => (Packet.valid? body).isNone) ∧
      decoded.consumed = 2 + (bodies.map fun body => 2 + body.length).sum ∧
      decoded.heartbeat = false ∧
      decode (encode bodies ++ trailing) = decode (encode bodies) := by
  have h := decode_encode_append hn hb
  refine ⟨_, h trailing, ticks_ofBody bodies _ _, ?_, rfl, rfl, ?_⟩
  · simp only [Decoded.skipped, List.countP_map]
    congr 1
    funext body
    exact Outcome.isSkipped_ofBody body
  · have hnil := h []
    rw [List.append_nil] at hnil
    rw [h trailing, hnil]

theorem decode_frame_of_mixed :
    ∃ decoded, decode (encode [[0, 0, 1, 1, 0, 0, 0, 100], [], [0, 0, 0, 0, 0, 0, 0, 5], [7]] ++ [9]) = .ok decoded ∧
      decoded.ticks.length = 1 ∧ decoded.skipped = 3 ∧ decoded.consumed = 27 := by
  let bodies : List (List UInt8) := [[0, 0, 1, 1, 0, 0, 0, 100], [], [0, 0, 0, 0, 0, 0, 0, 5], [7]]
  have hn : bodies.length < 65536 := by decide
  have hb : ∀ body ∈ bodies, body.length < 65536 := by decide
  obtain ⟨decoded, h, ht, hs, hc, _⟩ := decode_frame hn hb [9]
  exact ⟨decoded, h, ht ▸ rfl, hs ▸ rfl, hc⟩

end Frame

end MarketTicker.Feed
