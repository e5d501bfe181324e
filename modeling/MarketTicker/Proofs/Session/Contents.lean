import MarketTicker.Proofs.Feed.Frame
import MarketTicker.Proofs.Message.Envelope
import MarketTicker.Proofs.Session.Dispatch

namespace MarketTicker

/-- What a frame has to tell, by what is written in it. -/
inductive Delivery.Tells : Delivery → List Event → Prop
  | heartbeat (byte : UInt8) : Tells (.binary [byte]) []
  | packets {bodies : List (List UInt8)} (trailing : List UInt8) :
      bodies.length < 65536 → (∀ body ∈ bodies, body.length < 65536) →
      Tells (.binary (Feed.Frame.encode bodies ++ trailing)) ((bodies.filterMap Feed.Packet.valid?).map .tick)
  | decoded {data : List UInt8} {decoded : Feed.Frame.Decoded} :
      Feed.Frame.decode data = .ok decoded → Tells (.binary data) (decoded.ticks.map .tick)
  | undecodable {data : List UInt8} {fault : Feed.Frame.Fault} :
      Feed.Frame.decode data = .error fault → Tells (.binary data) []
  | written (order : Order) : Tells (.text order.messageText) [.order order]
  | order {t : MessageText} {data? : Option Json.Value} {order : Order} :
      t.Says "order" data? → Order.ofValue (data?.getD .null) = .ok order → Tells (.text t.text) [.order order]
  | noOrder {t : MessageText} {data? : Option Json.Value} {fault : Json.Fault} :
      t.Says "order" data? → Order.ofValue (data?.getD .null) = .error fault →
      Tells (.text t.text) [.error ("invalid order update: " ++ fault.message)]
  | plain {t : MessageText} {data? : Option Json.Value} :
      t.Says "order" data? → (∀ ms, data?.getD .null ≠ .object ms) → (∀ vs, data?.getD .null ≠ .array vs) →
      Tells (.text t.text) [.error ("invalid order update: invalid type: " ++
        (data?.getD .null).found.describe ++ ", expected struct OrderUpdate")]
  | nameless {t : MessageText} {ms : Json.Members} :
      t.Says "order" (some (.object ms)) → (∀ m ∈ ms, Order.Strange m.1) →
      Tells (.text t.text) [.error "invalid order update: missing field \x60order_id\x60"]
  | complaint {t : MessageText} {message : String} :
      t.Says "error" (some (.text message)) → Tells (.text t.text) [.error message]
  | strangeComplaint {t : MessageText} {data? : Option Json.Value} :
      t.Says "error" data? → (∀ message, data? ≠ some (.text message)) →
      Tells (.text t.text) [.error (String.ofList (data?.getD .null).write)]
  | unknown {t : MessageText} {kind : String} {data? : Option Json.Value} :
      t.Says kind data? → kind ≠ "order" → kind ≠ "error" → Tells (.text t.text) []
  | shapeless {content : String} {core : List Char} :
      Text.Wraps content.toList core → core.head? ≠ some '\x7b' → core.head? ≠ some '[' → Tells (.text content) []
  | malformed {content : String} {fault : Json.Fault} :
      ServerMessage.read content = .error (.malformed fault) → Tells (.text content) []

theorem Delivery.Tells.events {d : Delivery} {es : List Event} (h : d.Tells es) : d.events = es := by
  cases h with
  | heartbeat => rfl
  | packets trailing hn hb =>
    rw [Delivery.events, Feed.Frame.decode_encode_append hn hb]
    exact congrArg (List.map Event.tick) (Feed.Frame.ticks_ofBody ..)
  | decoded h => rw [Delivery.events, h]
  | undecodable h => rw [Delivery.events, h]
  | written order => rw [Delivery.events, order.read_messageText]
  | order h horder => rw [Delivery.events, ServerMessage.read_order h, horder]
  | noOrder h hfault =>
    rw [Delivery.events, ServerMessage.read_order h, hfault]
    rfl
  | plain h hobject harray =>
    rw [Delivery.events, ServerMessage.read_order h, Order.ofValue_plain hobject harray,
      ← ServerMessage.message_invalidType]
  | nameless h hstrange =>
    have hmessage : (ServerMessage.Refusal.invalidOrder (.missingField "order_id")).message =
        "invalid order update: missing field \x60order_id\x60" := by decide
    rw [Delivery.events, ServerMessage.read_order h, Option.getD_some, Order.ofValue_strange hstrange, ← hmessage]
  | complaint h =>
    rw [Delivery.events, ServerMessage.read_error h]
    rfl
  | strangeComplaint h hdata => rw [Delivery.events, ServerMessage.read_error h, ServerMessage.errorText_of_ne hdata]
  | unknown h horder herror => rw [Delivery.events, ServerMessage.read_other h horder herror]
  | shapeless h hobject harray =>
    obtain ⟨fault, hread⟩ := ServerMessage.read_shapeless h hobject harray
    rw [Delivery.events, hread]
  | malformed h => rw [Delivery.events, h]

theorem Delivery.flatMap_events {ds : List Delivery} {ess : List (List Event)}
    (h : List.Forall₂ Delivery.Tells ds ess) : ds.flatMap Delivery.events = ess.flatten := by
  induction h with
  | nil => rfl
  | cons hd _ ih => rw [List.flatMap_cons, List.flatten_cons, hd.events, ih]

end MarketTicker
