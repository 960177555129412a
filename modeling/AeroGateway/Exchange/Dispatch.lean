import AeroGateway.Exchange.Adapter
import AeroGateway.Feed.Publisher

/-!
# Venue message dispatch

`OkxConnection::process_message` and `BybitConnection::process_message` ask the adapter three
questions in a fixed order: a ping is answered with the adapter's pong, a subscription response
is only logged, and anything else is parsed as an order book, which goes to the UDP feed when
the publisher is up and to the callback when one is set. `poll` hands every message
`get_next_message` returns to `process_message`. Over every sequence of messages a poll sends
one pong per ping and nothing else, no ping or subscription response reaches the feed or the
callback, and the feed carries the callback's books in the order they came, one datagram each,
all to the publisher's one destination.

Turning text into a document is simdjson's, and is a parameter `parse`: a text it rejects is
`none`, which every adapter check reads as false.
-/

namespace AeroGateway.Exchange

open Market Feed

variable (F : FloatOps) (parse : String → Option Json)

namespace OkxAdapter

/-- `generate_pong_message`. -/
def generatePongMessage : String := "pong"

/-- `is_ping_message`: OKX pings with the plain text `ping`. -/
def isPingMessage (msg : String) : Bool := (bytesOf msg).length == 4 && msg == "ping"

/-- `is_subscription_response`: a string `event` that is `subscribe`, `unsubscribe` or
`error`; without one, an `op` that is `subscribe`. -/
def isSubscriptionResponse : Option Json → Bool
  | none => false
  | some doc =>
    match doc.get "event" >>= Json.str? with
    | some event => event == "subscribe" || event == "unsubscribe" || event == "error"
    | none => doc.get "op" >>= Json.str? == some "subscribe"

@[simp] theorem isPingMessage_iff (msg : String) : isPingMessage msg = true ↔ msg = "ping" := by
  simp only [isPingMessage, Bool.and_eq_true, beq_iff_eq, and_iff_right_iff_imp]
  rintro rfl
  rfl

end OkxAdapter

namespace BybitAdapter

/-- `generate_pong_message`. -/
def generatePongMessage : String := "\x7b\"op\":\"pong\"\x7d"

/-- `is_ping_message`: a string `op` that is `ping`, in a message with no boolean
`success`, which would make it the reply to a ping. -/
def isPingMessage : Option Json → Bool
  | none => false
  | some doc =>
    match doc.get "op" >>= Json.str? with
    | some op => op == "ping" && !(doc.get "success" >>= Json.bool?).isSome
    | none => false

/-- `is_subscription_response`: a boolean `success` and a string `op` that is `subscribe` or
`unsubscribe`. -/
def isSubscriptionResponse : Option Json → Bool
  | none => false
  | some doc =>
    match doc.get "success" >>= Json.bool?, doc.get "op" >>= Json.str? with
    | some _, some op => op == "subscribe" || op == "unsubscribe"
    | _, _ => false

end BybitAdapter

/-! ## The connections -/

/-- What `process_message` asks its adapter, with the venue the books are published under. -/
structure Adapter where
  exchangeId : ExchangeId
  isPingMessage : String → Bool
  isSubscriptionResponse : String → Bool
  parseOrderbookMessage : String → Option ParsedOrderBook
  generatePongMessage : String

/-- `OkxAdapter` behind `adapter_`. -/
def okxAdapter : Adapter where
  exchangeId := .OKX
  isPingMessage := OkxAdapter.isPingMessage
  isSubscriptionResponse msg := OkxAdapter.isSubscriptionResponse (parse msg)
  parseOrderbookMessage msg := parse msg >>= OkxAdapter.parseOrderbookMessage F
  generatePongMessage := OkxAdapter.generatePongMessage

/-- `BybitAdapter` behind `adapter_`. -/
def bybitAdapter : Adapter where
  exchangeId := .BYBIT
  isPingMessage msg := BybitAdapter.isPingMessage (parse msg)
  isSubscriptionResponse msg := BybitAdapter.isSubscriptionResponse (parse msg)
  parseOrderbookMessage msg := parse msg >>= BybitAdapter.parseOrderbookMessage F
  generatePongMessage := BybitAdapter.generatePongMessage

/-- `if (udp_publisher_ && udp_publisher_->is_initialized()) udp_publisher_->publish(...)`. -/
def publishIfUp (pub : Option UdpPublisher) (book : ParsedOrderBook) (exchangeId : ExchangeId)
    (nowNs : UInt64) : List Sendto :=
  match pub with
  | some p => if p.isInitialized then p.publish book exchangeId nowNs else []
  | none => []

/-- Where the connection's publisher sends: it is set, its socket is open and its address
parses. -/
def feedDest (pub : Option UdpPublisher) : Option (List UInt8 × UInt16) := pub.bind UdpPublisher.sendsTo

/-- What `process_message` does outside the connection: the texts it hands to
`ws_client_->send`, the datagrams the publisher hands to `sendto`, and the books passed to the
callback. -/
structure Effects where
  sent : List String
  published : List Sendto
  delivered : List ParsedOrderBook

/-- Nothing done. -/
def Effects.none : Effects := ⟨[], [], []⟩

@[simp] theorem Effects.sent_none : Effects.none.sent = [] := rfl
@[simp] theorem Effects.published_none : Effects.none.published = [] := rfl
@[simp] theorem Effects.delivered_none : Effects.none.delivered = [] := rfl

instance : Append Effects := ⟨fun a b => ⟨a.sent ++ b.sent, a.published ++ b.published,
  a.delivered ++ b.delivered⟩⟩

@[simp] theorem Effects.sent_append (a b : Effects) : (a ++ b).sent = a.sent ++ b.sent := rfl
@[simp] theorem Effects.published_append (a b : Effects) :
    (a ++ b).published = a.published ++ b.published := rfl
@[simp] theorem Effects.delivered_append (a b : Effects) :
    (a ++ b).delivered = a.delivered ++ b.delivered := rfl

/-- `process_message`, in the shape both connections share; `hasCallback` is whether the
callback `poll` was given is set. -/
def processMessage (a : Adapter) (pub : Option UdpPublisher) (hasCallback : Bool) (msg : String)
    (nowNs : UInt64) : Effects :=
  if a.isPingMessage msg then ⟨[a.generatePongMessage], [], []⟩
  else if a.isSubscriptionResponse msg then .none
  else match a.parseOrderbookMessage msg with
    | some book =>
      ⟨[], publishIfUp pub book a.exchangeId nowNs, if hasCallback then [book] else []⟩
    | none => .none

/-- `OkxConnection::process_message`. -/
def OkxConnection.processMessage : Option UdpPublisher → Bool → String → UInt64 → Effects :=
  Exchange.processMessage (okxAdapter F parse)

/-- `BybitConnection::process_message`: unlike OKX's, it sends the pong only when it is not
empty. -/
def BybitConnection.processMessage (pub : Option UdpPublisher) (hasCallback : Bool)
    (msg : String) (nowNs : UInt64) : Effects :=
  let a := bybitAdapter F parse
  if a.isPingMessage msg then
    ⟨if a.generatePongMessage.isEmpty then [] else [a.generatePongMessage], [], []⟩
  else if a.isSubscriptionResponse msg then .none
  else match a.parseOrderbookMessage msg with
    | some book =>
      ⟨[], publishIfUp pub book a.exchangeId nowNs, if hasCallback then [book] else []⟩
    | none => .none

/-- Bybit's pong is never empty, so its check never fires and its `process_message` is the
shared one. -/
theorem BybitConnection.processMessage_eq :
    BybitConnection.processMessage F parse = Exchange.processMessage (bybitAdapter F parse) := by
  funext pub hasCallback msg nowNs
  have hpong : (bybitAdapter F parse).generatePongMessage.isEmpty = false := rfl
  simp only [BybitConnection.processMessage, Exchange.processMessage, hpong, Bool.false_eq_true,
    if_false]

/-- `poll`: `process_message` on each message `get_next_message` returns, in order, each with
the clock reading its `serialize_and_send` would take. -/
def pollWith (processMessage : String → UInt64 → Effects) :
    List (String × UInt64) → Effects
  | [] => .none
  | (msg, nowNs) :: msgs => processMessage msg nowNs ++ pollWith processMessage msgs

/-- `OkxConnection::poll`. -/
def OkxConnection.poll (pub : Option UdpPublisher) (hasCallback : Bool) :
    List (String × UInt64) → Effects :=
  pollWith (OkxConnection.processMessage F parse pub hasCallback)

/-- `BybitConnection::poll`. -/
def BybitConnection.poll (pub : Option UdpPublisher) (hasCallback : Bool) :
    List (String × UInt64) → Effects :=
  pollWith (BybitConnection.processMessage F parse pub hasCallback)

/-! ## One message -/

/-- The book a message is taken for: one that is neither a ping nor a subscription response
and parses. -/
def Adapter.bookOf (a : Adapter) (msg : String) : Option ParsedOrderBook :=
  if a.isPingMessage msg || a.isSubscriptionResponse msg then none else a.parseOrderbookMessage msg

/-- A poll's messages that are taken for books, each with its clock reading. -/
def Adapter.books (a : Adapter) (msgs : List (String × UInt64)) : List (ParsedOrderBook × UInt64) :=
  msgs.filterMap fun m => (a.bookOf m.1).map (·, m.2)

section Message

variable (a : Adapter) (pub : Option UdpPublisher) (hasCallback : Bool) (msg : String)
  (nowNs : UInt64)

theorem publishIfUp_eq (book : ParsedOrderBook) (exchangeId : ExchangeId) :
    publishIfUp pub book exchangeId nowNs =
      ((feedDest pub).map (sendtoOf · book exchangeId nowNs)).toList := by
  rcases pub with _ | p
  · rfl
  · simp only [publishIfUp, feedDest, Option.some_bind, publish_eq, UdpPublisher.sendsTo]
    cases p.isInitialized <;> rfl

theorem sent_processMessage :
    (processMessage a pub hasCallback msg nowNs).sent =
      if a.isPingMessage msg then [a.generatePongMessage] else [] := by
  unfold processMessage
  split_ifs <;> (try split) <;> rfl

theorem delivered_processMessage :
    (processMessage a pub hasCallback msg nowNs).delivered =
      if hasCallback then (a.bookOf msg).toList else [] := by
  unfold processMessage Adapter.bookOf
  split_ifs <;> (try split) <;> simp_all

theorem published_processMessage :
    (processMessage a pub hasCallback msg nowNs).published =
      match feedDest pub with
      | some d => ((a.bookOf msg).map (sendtoOf d · a.exchangeId nowNs)).toList
      | none => [] := by
  unfold processMessage Adapter.bookOf
  simp only [publishIfUp_eq]
  cases feedDest pub <;> split_ifs <;> (try split) <;> simp_all

end Message

/-! ## A whole poll -/

section Poll

variable (a : Adapter) (pub : Option UdpPublisher) (hasCallback : Bool)

@[simp] theorem pollWith_nil (pm : String → UInt64 → Effects) : pollWith pm [] = .none := rfl

theorem pollWith_cons (pm : String → UInt64 → Effects) (m : String × UInt64)
    (msgs : List (String × UInt64)) : pollWith pm (m :: msgs) = pm m.1 m.2 ++ pollWith pm msgs :=
  rfl

/-- A poll sends one pong per ping among the messages it drains, and nothing else. -/
theorem sent_poll (msgs : List (String × UInt64)) :
    (pollWith (processMessage a pub hasCallback) msgs).sent =
      List.replicate (msgs.countP fun m => a.isPingMessage m.1) a.generatePongMessage := by
  induction msgs with
  | nil => rfl
  | cons m msgs ih =>
    rw [pollWith_cons, Effects.sent_append, sent_processMessage, ih, List.countP_cons]
    split <;> simp_all [List.replicate_succ]

/-- A poll passes the callback, in order, the books of the messages that are neither pings
nor subscription responses. -/
theorem delivered_poll (msgs : List (String × UInt64)) :
    (pollWith (processMessage a pub hasCallback) msgs).delivered =
      if hasCallback then (a.books msgs).map Prod.fst else [] := by
  induction msgs with
  | nil => simp [Effects.none, Adapter.books]
  | cons m msgs ih =>
    rw [pollWith_cons, Effects.delivered_append, delivered_processMessage, ih]
    cases hb : a.bookOf m.1 <;> cases hasCallback <;> simp [Adapter.books, List.filterMap_cons, hb]

/-- A poll hands `sendto` one datagram per book it takes, in order, each the serialization of
that book under the venue at its clock reading, all to where the publisher sends. -/
theorem published_poll (msgs : List (String × UInt64)) :
    (pollWith (processMessage a pub hasCallback) msgs).published =
      match feedDest pub with
      | some d => (a.books msgs).map fun b => sendtoOf d b.1 a.exchangeId b.2
      | none => [] := by
  induction msgs with
  | nil => cases feedDest pub <;> simp [Effects.none, Adapter.books]
  | cons m msgs ih =>
    rw [pollWith_cons, Effects.published_append, published_processMessage, ih]
    cases hb : a.bookOf m.1 <;> cases feedDest pub <;>
      simp [Adapter.books, List.filterMap_cons, hb]

/-- An adapter that takes every text for an empty OKX book. -/
def bookEveryMessage : Adapter := ⟨.OKX, fun _ => false, fun _ => false,
  fun _ => some ⟨[], [], [], true⟩, "pong"⟩

/-- A publisher with an open socket and the target `127.0.0.1:13988`. -/
def loopbackPublisher : UdpPublisher := ⟨0, [49, 50, 55, 46, 48, 46, 48, 46, 49], 13988⟩

/-- What the feed carries reads back: with the feed up and a callback set, the datagrams of a
poll and the books the callback gets pair off in order, each datagram sent to the publisher's
destination and decoding, by the section 4.8 layout, to its book's symbol, bids and asks under
the venue's id and the book's snapshot flag, when no book has 2^16 levels on a side or a
2^32-byte symbol. -/
theorem poll_feed_reads_back {d : List UInt8 × UInt16} (hup : feedDest pub = some d)
    (msgs : List (String × UInt64))
    (hsmall : ∀ b ∈ (pollWith (processMessage a pub true) msgs).delivered,
      b.instrument.length < 2 ^ 32 ∧ b.bids.length < 2 ^ 16 ∧ b.asks.length < 2 ^ 16) :
    List.Forall₂ (fun s b => s.addr = d.1 ∧ s.port = d.2 ∧
        ∃ h, decode s.buf = some ⟨h, b.instrument, b.bids.map wire, b.asks.map wire, []⟩ ∧
          h.exchangeId = a.exchangeId.val ∧ h.msgType = if b.isSnapshot then 1 else 2)
      (pollWith (processMessage a pub true) msgs).published
      (pollWith (processMessage a pub true) msgs).delivered := by
  rw [delivered_poll, if_pos rfl] at hsmall
  rw [published_poll, delivered_poll, hup, if_pos rfl, List.forall₂_map_left_iff,
    List.forall₂_map_right_iff, List.forall₂_same]
  intro x hx
  obtain ⟨hs, hb, ha⟩ := hsmall x.1 (List.mem_map_of_mem _ hx)
  refine ⟨rfl, rfl, header x.1 a.exchangeId x.2, ?_, rfl, rfl⟩
  rw [sendtoOf, decode_serializeAndSend _ _ _ hs, Nat.mod_eq_of_lt hb, Nat.mod_eq_of_lt ha]
  simp

theorem poll_feed_reads_back_two :
    feedDest (some loopbackPublisher) = some ([127, 0, 0, 1], 13988) ∧
      (∀ b ∈ (pollWith (processMessage bookEveryMessage (some loopbackPublisher) true)
          [("a", 1), ("b", 2)]).delivered,
        b.instrument.length < 2 ^ 32 ∧ b.bids.length < 2 ^ 16 ∧ b.asks.length < 2 ^ 16) ∧
      List.Forall₂ (fun s b => s.addr = [127, 0, 0, 1] ∧ s.port = 13988 ∧
          ∃ h, decode s.buf = some ⟨h, b.instrument, b.bids.map wire, b.asks.map wire, []⟩ ∧
            h.exchangeId = bookEveryMessage.exchangeId.val ∧
            h.msgType = if b.isSnapshot then 1 else 2)
        (pollWith (processMessage bookEveryMessage (some loopbackPublisher) true)
          [("a", 1), ("b", 2)]).published
        (pollWith (processMessage bookEveryMessage (some loopbackPublisher) true)
          [("a", 1), ("b", 2)]).delivered :=
  have hup : feedDest (some loopbackPublisher) = some ([127, 0, 0, 1], 13988) := by decide
  have hsmall : ∀ b ∈ (pollWith (processMessage bookEveryMessage (some loopbackPublisher) true)
      [("a", 1), ("b", 2)]).delivered,
      b.instrument.length < 2 ^ 32 ∧ b.bids.length < 2 ^ 16 ∧ b.asks.length < 2 ^ 16 := by decide
  ⟨hup, hsmall, poll_feed_reads_back bookEveryMessage (some loopbackPublisher) hup _ hsmall⟩

end Poll

end AeroGateway.Exchange
