import Mathlib.Data.String.Basic
import AeroGateway.Market.Types
import AeroGateway.Market.Json

/-!
# The legacy WebSocket client's subscriptions

`WebSocketClient` runs over the DPDK TCP stack on the polling thread, so each of its calls is
one step of a state machine. `subscriptions_` files each subscription under a key made of the
venue's number, the instrument and the channel; an entry is `PENDING` until an OKX ack marks it
`CONFIRMED`. `initiate_reconnect` keeps only the confirmed entries, and `restore_subscriptions`
subscribes to those again once `try_reconnect` and `process_rx` have brought the connection
back. What `process_rx` does to `state_` is taken from its state machine; the TCP and TLS
records it exchanges are not modelled, nor are the frames the calls return.
-/

namespace AeroGateway.Legacy

open Market

/-- `WebSocketClient::WsState`. -/
inductive WsState
  | WS_DISCONNECTED
  | WS_CONNECTING_TCP
  | WS_CONNECTING_TLS
  | WS_HANDSHAKE_SENT
  | WS_CONNECTED
  deriving DecidableEq, Repr

/-- `SubscriptionState`. -/
inductive SubscriptionState
  | PENDING
  | CONFIRMED
  | FAILED
  deriving DecidableEq, Repr

/-- `make_subscription_key`: the venue's number, the instrument and the channel, joined by
colons. -/
def makeSubscriptionKey (exchange : ExchangeId) (instrument channel : String) : String :=
  toString exchange.val.toNat ++ ":" ++ instrument ++ ":" ++ channel

/-- `Subscription`. -/
structure Subscription where
  exchange : ExchangeId
  instrument : String
  channel : String
  state : SubscriptionState
  deriving DecidableEq, Repr

namespace Subscription

/-- What a subscription is to: the venue, the instrument and the channel. -/
def triple (sub : Subscription) : ExchangeId × String × String :=
  (sub.exchange, sub.instrument, sub.channel)

/-- The key a subscription is filed under. -/
def key (sub : Subscription) : String :=
  makeSubscriptionKey sub.exchange sub.instrument sub.channel

end Subscription

/-- `generate_okx_subscribe_message`. -/
def generateOkxSubscribeMessage (instrument channel : String) : String :=
  "\x7b\"op\":\"subscribe\",\"args\":[\x7b\"channel\":\"" ++ channel ++ "\",\"instId\":\"" ++
    instrument ++ "\"\x7d]\x7d"

/-- `generate_bybit_subscribe_message`. -/
def generateBybitSubscribeMessage (instrument channel : String) : String :=
  "\x7b\"op\":\"subscribe\",\"args\":[\"" ++ channel ++ "." ++ instrument ++ "\"]\x7d"

/-- The unsubscribe request `unsubscribe` writes: OKX's, Bybit's, or nothing. -/
def unsubscribeMessage (exchange : ExchangeId) (instrument channel : String) : String :=
  if exchange = .OKX then
    "\x7b\"op\":\"unsubscribe\",\"args\":[\x7b\"channel\":\"" ++ channel ++ "\",\"instId\":\"" ++
      instrument ++ "\"\x7d]\x7d"
  else if exchange = .BYBIT then
    "\x7b\"op\":\"unsubscribe\",\"args\":[\"" ++ channel ++ "." ++ instrument ++ "\"]\x7d"
  else ""

/-- `subscriptions_[key] = sub` on the entries in key order: the entry at `key` replaced, or a
new one placed. -/
def insertSubscription (key : String) (sub : Subscription) :
    List (String × Subscription) → List (String × Subscription)
  | [] => [(key, sub)]
  | e :: es =>
    if key < e.1 then (key, sub) :: e :: es
    else if key = e.1 then (key, sub) :: es
    else e :: insertSubscription key sub es

/-- `it->second.state = SubscriptionState::CONFIRMED` on the entry `find(key)` returns. -/
def confirmSubscription (key : String) :
    List (String × Subscription) → List (String × Subscription)
  | [] => []
  | e :: es =>
    if e.1 = key then (e.1, { e.2 with state := .CONFIRMED }) :: es
    else e :: confirmSubscription key es

/-- `MAX_RECONNECT_ATTEMPTS`. -/
def MAX_RECONNECT_ATTEMPTS : UInt32 := 10

/-- `BASE_RECONNECT_DELAY_MS`. -/
def BASE_RECONNECT_DELAY_MS : UInt32 := 1000

/-- `calculate_backoff_ms`: the base delay doubled per attempt up to ten times, at most 30 s. -/
def calculateBackoffMs (reconnectAttempts : UInt32) : UInt32 :=
  min (BASE_RECONNECT_DELAY_MS * (1 <<< min reconnectAttempts 10)) 30000

/-- The states `process_rx` can leave `state_` in: the TCP and TLS handshakes advance or fail
on what arrives, falling through from TCP into TLS; the WebSocket handshake is assumed to
succeed; a connected or disconnected client stays as it is. -/
def rxNext : WsState → List WsState
  | .WS_DISCONNECTED => [.WS_DISCONNECTED]
  | .WS_CONNECTING_TCP =>
    [.WS_CONNECTING_TCP, .WS_CONNECTING_TLS, .WS_HANDSHAKE_SENT, .WS_DISCONNECTED]
  | .WS_CONNECTING_TLS => [.WS_CONNECTING_TLS, .WS_HANDSHAKE_SENT, .WS_DISCONNECTED]
  | .WS_HANDSHAKE_SENT => [.WS_CONNECTED]
  | .WS_CONNECTED => [.WS_CONNECTED]

/-- The fields of `WebSocketClient` that its subscription and reconnect calls read and write,
the steady clock in milliseconds, and the texts given to `send_text_message` while connected. -/
structure WebSocketClient where
  state : WsState
  subscriptions : List (String × Subscription)
  reconnectAttempts : UInt32
  nextReconnectTime : Nat
  reconnectPending : Bool
  savedSubscriptions : List Subscription
  now : Nat
  sent : List String

namespace WebSocketClient

/-- The constructor's client: disconnected, with nothing tracked. -/
def init : WebSocketClient :=
  ⟨.WS_DISCONNECTED, [], 0, 0, false, [], 0, []⟩

variable (c : WebSocketClient)

/-- `set_state`; the state-change callback is not modelled. -/
def setState (s : WsState) : WebSocketClient := { c with state := s }

/-- `send_text_message`: a text is framed only on a connected client. -/
def sendTextMessage (message : String) : WebSocketClient :=
  if c.state = .WS_CONNECTED then { c with sent := c.sent ++ [message] } else c

/-- `connect`: a disconnected client starts the TCP handshake. -/
def connect : WebSocketClient :=
  if c.state = .WS_DISCONNECTED then c.setState .WS_CONNECTING_TCP else c

/-- `subscribe`: on a connected client, a key not yet tracked for OKX or Bybit is filed as
`PENDING` and its request sent. -/
def subscribe (exchange : ExchangeId) (instrument channel : String) : WebSocketClient :=
  if c.state ≠ .WS_CONNECTED then c else
    let key := makeSubscriptionKey exchange instrument channel
    if (c.subscriptions.lookup key).isSome then c else
      let subMsg :=
        if exchange = .OKX then some (generateOkxSubscribeMessage instrument channel)
        else if exchange = .BYBIT then some (generateBybitSubscribeMessage instrument channel)
        else none
      match subMsg with
      | none => c
      | some subMsg =>
        { c with
          subscriptions :=
            insertSubscription key ⟨exchange, instrument, channel, .PENDING⟩ c.subscriptions
        }.sendTextMessage subMsg

/-- `unsubscribe`: on a connected client, a tracked key is dropped and the request sent. -/
def unsubscribe (exchange : ExchangeId) (instrument channel : String) : WebSocketClient :=
  if c.state ≠ .WS_CONNECTED then c else
    let key := makeSubscriptionKey exchange instrument channel
    if (c.subscriptions.lookup key).isNone then c else
      { c with subscriptions := c.subscriptions.eraseP (·.1 = key) }.sendTextMessage
        (unsubscribeMessage exchange instrument channel)

/-- `parse_subscription_response` on the parsed document, `none` for a text simdjson rejects:
an OKX `subscribe` event confirms the OKX entry for its `arg`, a field missing from `arg` read
as empty. Bybit's acks name no channel and change nothing. -/
def parseSubscriptionResponse (doc : Option Json) : WebSocketClient :=
  match doc.bind (·.get "event") |>.bind Json.str? with
  | some event =>
    if event = "subscribe" then
      let arg := doc.bind (·.get "arg")
      let channel := (arg.bind (·.get "channel") |>.bind Json.str?).getD ""
      let instId := (arg.bind (·.get "instId") |>.bind Json.str?).getD ""
      { c with
        subscriptions :=
          confirmSubscription (makeSubscriptionKey .OKX instId channel) c.subscriptions }
    else c
  | none => c

/-- `initiate_reconnect`: unless one is pending, the confirmed entries are saved, the tracked
ones dropped, and the attempt timed by the backoff. `state_` is left as it is. -/
def initiateReconnect : WebSocketClient :=
  if c.reconnectPending then c else
    { c with
      savedSubscriptions := (c.subscriptions.filter (·.2.state = .CONFIRMED)).map Prod.snd
      subscriptions := []
      reconnectPending := true
      reconnectAttempts := c.reconnectAttempts + 1
      nextReconnectTime := c.now + (calculateBackoffMs (c.reconnectAttempts + 1)).toNat }

/-- `try_reconnect`: once the backoff has passed, the client gives up after too many attempts
or starts a fresh connection. A new `ws_key_` is drawn; it is not modelled. -/
def tryReconnect : WebSocketClient :=
  if !c.reconnectPending then c
  else if c.now < c.nextReconnectTime then c
  else if c.reconnectAttempts > MAX_RECONNECT_ATTEMPTS then { c with reconnectPending := false }
  else ({ c with reconnectPending := false }.setState .WS_DISCONNECTED).connect

/-- `restore_subscriptions`: on a connected client with saved entries, each is subscribed to
again, in order, and the saved list cleared. -/
def restoreSubscriptions : WebSocketClient :=
  if c.state ≠ .WS_CONNECTED then c
  else if c.savedSubscriptions.isEmpty then c
  else
    let c' := c.savedSubscriptions.foldl
      (fun c sub => c.subscribe sub.exchange sub.instrument sub.channel)
      { c with reconnectAttempts := 0 }
    { c' with savedSubscriptions := [] }

/-- `disconnect`: the tracked entries dropped and the client disconnected. -/
def disconnect : WebSocketClient :=
  if c.state = .WS_DISCONNECTED then c
  else { c with subscriptions := [] }.setState .WS_DISCONNECTED

end WebSocketClient

/-- A call on the client, or the clock advancing. -/
inductive Action
  | subscribe (exchange : ExchangeId) (instrument channel : String)
  | unsubscribe (exchange : ExchangeId) (instrument channel : String)
  | parseSubscriptionResponse (doc : Option Json)
  | initiateReconnect
  | tryReconnect
  | restoreSubscriptions
  | connect
  | disconnect
  | processRx (next : WsState)
  | elapse (ms : Nat)

namespace WebSocketClient

/-- One step; `process_rx` only moves along its state machine. -/
def step : Action → WebSocketClient → Option WebSocketClient
  | .subscribe e i ch, c => some (c.subscribe e i ch)
  | .unsubscribe e i ch, c => some (c.unsubscribe e i ch)
  | .parseSubscriptionResponse doc, c => some (c.parseSubscriptionResponse doc)
  | .initiateReconnect, c => some c.initiateReconnect
  | .tryReconnect, c => some c.tryReconnect
  | .restoreSubscriptions, c => some c.restoreSubscriptions
  | .connect, c => some c.connect
  | .disconnect, c => some c.disconnect
  | .processRx next, c => if next ∈ rxNext c.state then some (c.setState next) else none
  | .elapse ms, c => some { c with now := c.now + ms }

/-- Steps in order. -/
def run : List Action → WebSocketClient → Option WebSocketClient
  | [], c => some c
  | a :: as, c => (step a c).bind (run as)

/-- The clients some sequence of steps reaches from the constructor's. -/
inductive Reachable : WebSocketClient → Prop
  | init : Reachable init
  | step {c c' : WebSocketClient} (a : Action) : Reachable c → step a c = some c' → Reachable c'

theorem Reachable.run {c : WebSocketClient} (h : Reachable c) :
    ∀ {as : List Action} {c' : WebSocketClient}, WebSocketClient.run as c = some c' →
      Reachable c'
  | [], _, hr => by cases hr; exact h
  | a :: _, _, hr => by
    obtain ⟨t, ht, hr⟩ := Option.bind_eq_some.mp hr
    exact (Reachable.step a h ht).run hr

end WebSocketClient

end AeroGateway.Legacy
