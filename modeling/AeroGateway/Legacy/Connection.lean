import AeroGateway.Legacy.ReceivePath
import AeroGateway.Legacy.Restore
import AeroGateway.Legacy.Frame

/-!
# The legacy client over its life

The client's calls on top of its connection: `connect`, `try_reconnect`, the subscription calls,
`restore_subscriptions` and `disconnect`, with `process_rx` from `Legacy.ReceivePath`. Every call
is a step of the abstract client of `Legacy.WebSocketClient`, so what is proved there, the
validity of the subscription map included, holds along every run of this client.

`WebSocketClient::connect` asks its `MicroTcp` for a SYN when the client is disconnected, and
`try_reconnect`, once the backoff has passed, sets the client back to disconnected, draws a new
`ws_key_` and calls `connect`. The `MicroTcp` is a member built once with the client, and no
call brings it back to `CLOSED`, not even a SYN whose `rte_pktmbuf_alloc` failed, since
`MicroTcp::connect` leaves `CLOSED` before it allocates. Over every interleaving of calls the
client therefore sends one SYN if the first allocation succeeds and none if it fails: a reconnect
puts it in `WS_CONNECTING_TCP` on a connection that does not open again.

`send_text_message` builds its frame, has it encrypted and handed to `send_data`, then copies
the empty range `[frames.begin(), frames.begin())` into its result: when the segment's
allocation succeeds, it never reaches the caller, while the connection's `snd_nxt_` has moved
past it. Every subscription request
goes that way, and whatever the client sends afterwards starts beyond bytes that never went
out. The masking keys `distrib(gen)` draws for each frame are inputs of the calls.
-/

namespace AeroGateway.Legacy

open Market Network Forwarding

variable {σ : Type} (E : TlsSocket σ) (ep : Endpoints) (wsHost wsPath : String)

namespace Link

/-- The end of `generate_websocket_frame`: the frame encrypted and handed to `send_data`;
nothing when `encrypt` fails. -/
def sendFrame (frame : Bytes) (l : Link σ) : Link σ × List Segment :=
  let (ret, enc, tls) := E.encrypt l.tls frame
  let l := { l with tls }
  if ret ≤ 0 then (l, []) else sendData l enc

theorem runsTo_sendFrame (frame : Bytes) (l : Link σ) :
    MicroTcp.RunsTo ep l.tcp (sendFrame E frame l).1.tcp (sendFrame E frame l).2 := by
  unfold sendFrame
  generalize E.encrypt l.tls frame = r
  obtain ⟨ret, enc, tls⟩ := r
  dsimp only
  split_ifs
  · exact MicroTcp.RunsTo.refl ep l.tcp
  · exact runsTo_sendData ep _ _

end Link

namespace Client

/-- The constructor's client, on a `MicroTcp` with initial sequence number `iss` and the mbuf
pool's answers `mbufPool`, a fresh TLS socket and the key `generate_websocket_key` drew. -/
def init (iss : UInt32) (mbufPool : List Bool) (tls : σ) (wsKey : String) : Client σ :=
  ⟨WebSocketClient.init, ⟨MicroTcp.init iss mbufPool, tls, [], []⟩, wsKey⟩

/-- `connect`: a disconnected client moves to `WS_CONNECTING_TCP` and asks
`tcp_client_.connect()` for its SYN. -/
def connect (c : Client σ) : Client σ × List Segment :=
  if c.state = .WS_DISCONNECTED then
    let (tcp, syn) := c.link.tcp.connect
    ({ c with state := .WS_CONNECTING_TCP, link := { c.link with tcp } }, syn.toList)
  else (c, [])

/-- `try_reconnect`, with the `ws_key_` that `generate_websocket_key` draws. -/
def tryReconnect (wsKey : String) (c : Client σ) : Client σ × List Segment :=
  if !c.reconnectPending then (c, [])
  else if c.now < c.nextReconnectTime then (c, [])
  else if c.reconnectAttempts > MAX_RECONNECT_ATTEMPTS then
    ({ c with reconnectPending := false }, [])
  else connect { c with reconnectPending := false, state := .WS_DISCONNECTED, wsKey }

/-- `send_text_message`: on a connected client, the text's frame is built with the drawn
masking key, encrypted and handed to `send_data`; of the segments, the call returns the empty
range `[frames.begin(), frames.begin())`. -/
def sendTextMessage (maskingKey : MaskKey) (message : String) (c : Client σ) :
    Client σ × List Segment :=
  if c.state ≠ .WS_CONNECTED then (c, [])
  else
    let (link, frames) :=
      Link.sendFrame E (generateWebsocketFrame (bytesOf message) 0x1 true maskingKey) c.link
    ({ c with link, sent := c.sent ++ [message] }, frames.take 0)

/-- `subscribe`: on a connected client, a key not yet tracked for OKX or Bybit is filed as
`PENDING` and its request handed to `send_text_message`. -/
def subscribe (maskingKey : MaskKey) (exchange : ExchangeId) (instrument channel : String)
    (c : Client σ) : Client σ × List Segment :=
  if c.state ≠ .WS_CONNECTED then (c, []) else
    let key := makeSubscriptionKey exchange instrument channel
    if (c.subscriptions.lookup key).isSome then (c, []) else
      let subMsg :=
        if exchange = .OKX then some (generateOkxSubscribeMessage instrument channel)
        else if exchange = .BYBIT then some (generateBybitSubscribeMessage instrument channel)
        else none
      match subMsg with
      | none => (c, [])
      | some subMsg =>
        sendTextMessage E maskingKey subMsg
          { c with
            subscriptions :=
              insertSubscription key ⟨exchange, instrument, channel, .PENDING⟩ c.subscriptions }

/-- `unsubscribe`: on a connected client, a tracked key is erased and the request handed to
`send_text_message`. -/
def unsubscribe (maskingKey : MaskKey) (exchange : ExchangeId) (instrument channel : String)
    (c : Client σ) : Client σ × List Segment :=
  if c.state ≠ .WS_CONNECTED then (c, []) else
    let key := makeSubscriptionKey exchange instrument channel
    if (c.subscriptions.lookup key).isNone then (c, []) else
      sendTextMessage E maskingKey (unsubscribeMessage exchange instrument channel)
        { c with subscriptions := c.subscriptions.eraseP (·.1 = key) }

/-- The loop of `restore_subscriptions`: `subscribe` for each saved entry in order, the frame
for the `k`-th with the `k`-th masking key. -/
def subscribeAll (maskingKeys : Nat → MaskKey) :
    Nat → List Subscription → Client σ → Client σ × List Segment
  | _, [], c => (c, [])
  | k, sub :: subs, c =>
    let (c, out₁) := subscribe E (maskingKeys k) sub.exchange sub.instrument sub.channel c
    let (c, out₂) := subscribeAll maskingKeys (k + 1) subs c
    (c, out₁ ++ out₂)

/-- `restore_subscriptions`: on a connected client with saved entries, the attempt count is
reset, each entry subscribed to again and the saved list cleared. -/
def restoreSubscriptions (maskingKeys : Nat → MaskKey) (c : Client σ) :
    Client σ × List Segment :=
  if c.state ≠ .WS_CONNECTED then (c, [])
  else if c.savedSubscriptions.isEmpty then (c, [])
  else
    let (c, out) :=
      subscribeAll E maskingKeys 0 c.savedSubscriptions { c with reconnectAttempts := 0 }
    ({ c with savedSubscriptions := [] }, out)

/-- `disconnect`: unless disconnected already, a close frame goes out, the tracked entries are
dropped and the client disconnected. -/
def disconnect (maskingKey : MaskKey) (c : Client σ) : Client σ × List Segment :=
  if c.state = .WS_DISCONNECTED then (c, [])
  else
    let (link, frames) :=
      Link.sendFrame E (generateWebsocketFrame (bytesOf "") 0x8 true maskingKey) c.link
    ({ c with link, subscriptions := [], state := .WS_DISCONNECTED }, frames)

/-! ## The abstract client sees the same calls -/

theorem connect_refines (c : Client σ) :
    (connect c).1.toWebSocketClient = c.toWebSocketClient.connect := by
  unfold connect WebSocketClient.connect
  split_ifs <;> rfl

theorem tryReconnect_refines (wsKey : String) (c : Client σ) :
    (tryReconnect wsKey c).1.toWebSocketClient = c.toWebSocketClient.tryReconnect := by
  unfold tryReconnect WebSocketClient.tryReconnect
  split_ifs
  · rfl
  · rfl
  · rfl
  · exact connect_refines _

theorem sendTextMessage_refines (maskingKey : MaskKey) (message : String) (c : Client σ) :
    (sendTextMessage E maskingKey message c).1.toWebSocketClient =
      c.toWebSocketClient.sendTextMessage message := by
  by_cases h : c.state = .WS_CONNECTED
  · simp only [sendTextMessage, WebSocketClient.sendTextMessage, h, ne_eq, not_true_eq_false,
      if_false, if_true]
  · simp only [sendTextMessage, WebSocketClient.sendTextMessage, h, ne_eq, not_false_eq_true,
      if_false, if_true]

theorem subscribe_refines (maskingKey : MaskKey) (e : ExchangeId) (i ch : String)
    (c : Client σ) :
    (subscribe E maskingKey e i ch c).1.toWebSocketClient = c.toWebSocketClient.subscribe e i ch := by
  unfold subscribe WebSocketClient.subscribe
  dsimp only
  generalize (if e = .OKX then some (generateOkxSubscribeMessage i ch)
    else if e = .BYBIT then some (generateBybitSubscribeMessage i ch) else none) = msg
  split_ifs
  · rfl
  · rfl
  cases msg with
  | none => rfl
  | some msg => exact sendTextMessage_refines E maskingKey msg _

theorem unsubscribe_refines (maskingKey : MaskKey) (e : ExchangeId) (i ch : String)
    (c : Client σ) :
    (unsubscribe E maskingKey e i ch c).1.toWebSocketClient =
      c.toWebSocketClient.unsubscribe e i ch := by
  unfold unsubscribe WebSocketClient.unsubscribe
  dsimp only
  split_ifs
  · rfl
  · rfl
  · exact sendTextMessage_refines E maskingKey _ _

theorem subscribeAll_refines (maskingKeys : Nat → MaskKey) :
    ∀ (k : Nat) (subs : List Subscription) (c : Client σ),
      (subscribeAll E maskingKeys k subs c).1.toWebSocketClient =
        subs.foldl (fun c sub => c.subscribe sub.exchange sub.instrument sub.channel)
          c.toWebSocketClient
  | _, [], _ => rfl
  | k, sub :: subs, c => by
    rw [List.foldl_cons, ← subscribe_refines E (maskingKeys k)]
    exact subscribeAll_refines maskingKeys (k + 1) subs _

theorem restoreSubscriptions_refines (maskingKeys : Nat → MaskKey) (c : Client σ) :
    (restoreSubscriptions E maskingKeys c).1.toWebSocketClient =
      c.toWebSocketClient.restoreSubscriptions := by
  unfold restoreSubscriptions WebSocketClient.restoreSubscriptions
  split_ifs
  · rfl
  · rfl
  · have h := subscribeAll_refines E maskingKeys 0 c.savedSubscriptions
      { c with reconnectAttempts := 0 }
    generalize subscribeAll E maskingKeys 0 c.savedSubscriptions
      { c with reconnectAttempts := 0 } = r at h ⊢
    exact congrArg (fun w => { w with savedSubscriptions := [] }) h

theorem disconnect_refines (maskingKey : MaskKey) (c : Client σ) :
    (disconnect E maskingKey c).1.toWebSocketClient = c.toWebSocketClient.disconnect := by
  unfold disconnect WebSocketClient.disconnect
  split_ifs <;> rfl

/-- A call on the client that reaches its connection, a reconnect request, or the clock. -/
inductive Call
  | connect
  | tryReconnect (wsKey : String)
  | processRx (m : Mbuf)
  | subscribe (exchange : ExchangeId) (instrument channel : String) (maskingKey : MaskKey)
  | unsubscribe (exchange : ExchangeId) (instrument channel : String) (maskingKey : MaskKey)
  | parseSubscriptionResponse (doc : Option Json)
  | initiateReconnect
  | restoreSubscriptions (maskingKeys : Nat → MaskKey)
  | disconnect (maskingKey : MaskKey)
  | elapse (ms : Nat)

/-- One call, with the process's statics, and the segments it returns. -/
def step : Call → Statics × Client σ → Statics × Client σ × List Segment
  | .connect, (st, c) => (st, c.connect)
  | .tryReconnect k, (st, c) => (st, c.tryReconnect k)
  | .processRx m, (st, c) => processRx E ep wsHost wsPath st c m
  | .subscribe e i ch k, (st, c) => (st, subscribe E k e i ch c)
  | .unsubscribe e i ch k, (st, c) => (st, unsubscribe E k e i ch c)
  | .parseSubscriptionResponse doc, (st, c) =>
    (st, { c with toWebSocketClient := c.toWebSocketClient.parseSubscriptionResponse doc }, [])
  | .initiateReconnect, (st, c) =>
    (st, { c with toWebSocketClient := c.toWebSocketClient.initiateReconnect }, [])
  | .restoreSubscriptions ks, (st, c) => (st, restoreSubscriptions E ks c)
  | .disconnect k, (st, c) => (st, disconnect E k c)
  | .elapse ms, (st, c) => (st, { c with now := c.now + ms }, [])

/-- Calls one after another, and all the segments they return. -/
def run : List Call → Statics × Client σ → Statics × Client σ × List Segment
  | [], s => (s.1, s.2, [])
  | a :: as, s =>
    let r := step E ep wsHost wsPath a s
    let r' := run as (r.1, r.2.1)
    (r'.1, r'.2.1, r.2.2 ++ r'.2.2)

/-- The abstract action a call is; a poll is the move to the state it left. -/
def Call.toAction : Call → WsState → Action
  | .connect, _ => .connect
  | .tryReconnect _, _ => .tryReconnect
  | .processRx _, next => .processRx next
  | .subscribe e i ch _, _ => .subscribe e i ch
  | .unsubscribe e i ch _, _ => .unsubscribe e i ch
  | .parseSubscriptionResponse doc, _ => .parseSubscriptionResponse doc
  | .initiateReconnect, _ => .initiateReconnect
  | .restoreSubscriptions _, _ => .restoreSubscriptions
  | .disconnect _, _ => .disconnect
  | .elapse ms, _ => .elapse ms

/-- Every call is a step of the abstract client. -/
theorem step_refines (a : Call) (s : Statics × Client σ) :
    WebSocketClient.step (a.toAction (step E ep wsHost wsPath a s).2.1.state)
      s.2.toWebSocketClient = some (step E ep wsHost wsPath a s).2.1.toWebSocketClient := by
  obtain ⟨st, c⟩ := s
  cases a with
  | connect => exact congrArg some (connect_refines c).symm
  | tryReconnect k => exact congrArg some (tryReconnect_refines k c).symm
  | processRx m => exact processRx_refines E ep wsHost wsPath st c m
  | subscribe e i ch k => exact congrArg some (subscribe_refines E k e i ch c).symm
  | unsubscribe e i ch k => exact congrArg some (unsubscribe_refines E k e i ch c).symm
  | parseSubscriptionResponse doc => rfl
  | initiateReconnect => rfl
  | restoreSubscriptions ks => exact congrArg some (restoreSubscriptions_refines E ks c).symm
  | disconnect k => exact congrArg some (disconnect_refines E k c).symm
  | elapse ms => rfl

/-- Every run of the client is a run of the abstract client. -/
theorem run_refines (calls : List Call) :
    ∀ s : Statics × Client σ, ∃ acts, WebSocketClient.run acts s.2.toWebSocketClient =
      some (run E ep wsHost wsPath calls s).2.1.toWebSocketClient := by
  induction calls with
  | nil => exact fun s => ⟨[], rfl⟩
  | cons a calls ih =>
    intro s
    obtain ⟨acts, hacts⟩ := ih ((step E ep wsHost wsPath a s).1, (step E ep wsHost wsPath a s).2.1)
    refine ⟨a.toAction (step E ep wsHost wsPath a s).2.1.state :: acts, ?_⟩
    simp only [WebSocketClient.run, step_refines, Option.some_bind]
    exact hacts

/-- What the abstract client reaches, the client reaches: from the constructor, every run ends
in a state the abstract client can reach. -/
theorem reachable_run (iss : UInt32) (mbufPool : List Bool) (tls : σ) (wsKey : String)
    (st : Statics) (calls : List Call) :
    WebSocketClient.Reachable
      (run E ep wsHost wsPath calls (st, init iss mbufPool tls wsKey)).2.1.toWebSocketClient := by
  obtain ⟨acts, h⟩ := run_refines E ep wsHost wsPath calls (st, init iss mbufPool tls wsKey)
  exact WebSocketClient.Reachable.init.run h

/-- Over every run from the constructor, the subscription map stays valid: keys match their
entries, none is repeated, every entry is for OKX or Bybit, and only OKX entries are
confirmed. -/
theorem subscriptions_valid_run (iss : UInt32) (mbufPool : List Bool) (tls : σ) (wsKey : String)
    (st : Statics) (calls : List Call) :
    SubscriptionsValid
      (run E ep wsHost wsPath calls (st, init iss mbufPool tls wsKey)).2.1.subscriptions := by
  obtain ⟨acts, h⟩ := run_refines E ep wsHost wsPath calls (st, init iss mbufPool tls wsKey)
  exact (WebSocketClient.Reachable.init.run h).valid

/-! ## What the calls send -/

/-- The calls that return every segment their connection emitted: all but the subscription
calls, whose frames go through `send_text_message`. -/
def Call.lossless : Call → Bool
  | .subscribe .. | .unsubscribe .. | .restoreSubscriptions _ => false
  | _ => true

theorem connect_runsTo (c : Client σ) :
    MicroTcp.RunsTo ep c.link.tcp (connect c).1.link.tcp (connect c).2 := by
  unfold connect
  split_ifs
  · exact MicroTcp.RunsTo.of_step ep .connect c.link.tcp
  · exact MicroTcp.RunsTo.refl ep c.link.tcp

theorem tryReconnect_runsTo (wsKey : String) (c : Client σ) :
    MicroTcp.RunsTo ep c.link.tcp (tryReconnect wsKey c).1.link.tcp (tryReconnect wsKey c).2 := by
  unfold tryReconnect
  split_ifs
  · exact MicroTcp.RunsTo.refl ep c.link.tcp
  · exact MicroTcp.RunsTo.refl ep c.link.tcp
  · exact MicroTcp.RunsTo.refl ep c.link.tcp
  · exact (connect_runsTo ep _).congr_left ep rfl

theorem disconnect_runsTo (maskingKey : MaskKey) (c : Client σ) :
    MicroTcp.RunsTo ep c.link.tcp (disconnect E maskingKey c).1.link.tcp
      (disconnect E maskingKey c).2 := by
  unfold disconnect
  split_ifs
  · exact MicroTcp.RunsTo.refl ep c.link.tcp
  · exact Link.runsTo_sendFrame E ep _ c.link

/-- A call that returns nothing while its connection ran on: it emitted some segments. -/
def Silent (c c' : Client σ × List Segment) : Prop :=
  c'.2 = [] ∧ ∃ out, MicroTcp.RunsTo ep c.1.link.tcp c'.1.link.tcp out

theorem Silent.refl (c : Client σ) : Silent ep (c, []) (c, []) :=
  ⟨rfl, [], MicroTcp.RunsTo.refl ep _⟩

theorem Silent.trans {c₁ c₂ c₃ : Client σ} {o₂ o₃ : List Segment} (h₁ : Silent ep (c₁, []) (c₂, o₂))
    (h₂ : Silent ep (c₂, []) (c₃, o₃)) : Silent ep (c₁, []) (c₃, o₂ ++ o₃) :=
  ⟨List.append_eq_nil.mpr ⟨h₁.1, h₂.1⟩, let ⟨_, h⟩ := h₁.2; let ⟨_, h'⟩ := h₂.2; ⟨_, h.trans ep h'⟩⟩

theorem sendTextMessage_silent (maskingKey : MaskKey) (message : String) (c : Client σ) :
    Silent ep (c, []) (sendTextMessage E maskingKey message c) := by
  unfold sendTextMessage
  split_ifs
  · exact Silent.refl ep c
  · exact ⟨rfl, _, Link.runsTo_sendFrame E ep _ c.link⟩

theorem subscribe_silent (maskingKey : MaskKey) (e : ExchangeId) (i ch : String) (c : Client σ) :
    Silent ep (c, []) (subscribe E maskingKey e i ch c) := by
  unfold subscribe
  dsimp only
  generalize (if e = .OKX then some (generateOkxSubscribeMessage i ch)
    else if e = .BYBIT then some (generateBybitSubscribeMessage i ch) else none) = msg
  split_ifs
  · exact Silent.refl ep c
  · exact Silent.refl ep c
  cases msg with
  | none => exact Silent.refl ep c
  | some msg => exact sendTextMessage_silent E ep maskingKey msg _

theorem unsubscribe_silent (maskingKey : MaskKey) (e : ExchangeId) (i ch : String)
    (c : Client σ) : Silent ep (c, []) (unsubscribe E maskingKey e i ch c) := by
  unfold unsubscribe
  dsimp only
  split_ifs
  · exact Silent.refl ep c
  · exact Silent.refl ep c
  · exact sendTextMessage_silent E ep maskingKey _ _

theorem subscribeAll_silent (maskingKeys : Nat → MaskKey) :
    ∀ (k : Nat) (subs : List Subscription) (c : Client σ),
      Silent ep (c, []) (subscribeAll E maskingKeys k subs c)
  | _, [], c => Silent.refl ep c
  | k, sub :: subs, c => by
    have h₁ := subscribe_silent E ep (maskingKeys k) sub.exchange sub.instrument sub.channel c
    exact h₁.trans ep (h₁.1 ▸ subscribeAll_silent maskingKeys (k + 1) subs _)

theorem restoreSubscriptions_silent (maskingKeys : Nat → MaskKey) (c : Client σ) :
    Silent ep (c, []) (restoreSubscriptions E maskingKeys c) := by
  unfold restoreSubscriptions
  split_ifs
  · exact Silent.refl ep c
  · exact Silent.refl ep c
  · exact subscribeAll_silent E ep maskingKeys 0 _ _

/-- A lossless call returns what its connection emitted; any other returns nothing. -/
theorem step_runsTo (a : Call) (s : Statics × Client σ) :
    ∃ out, MicroTcp.RunsTo ep s.2.link.tcp (step E ep wsHost wsPath a s).2.1.link.tcp out ∧
      ((step E ep wsHost wsPath a s).2.2 = out ∨
        (step E ep wsHost wsPath a s).2.2 = [] ∧ a.lossless = false) := by
  obtain ⟨st, c⟩ := s
  cases a with
  | connect => exact ⟨_, connect_runsTo ep c, .inl rfl⟩
  | tryReconnect k => exact ⟨_, tryReconnect_runsTo ep k c, .inl rfl⟩
  | processRx m => exact ⟨_, processRx_runsTo E ep wsHost wsPath st c m, .inl rfl⟩
  | subscribe e i ch k =>
    obtain ⟨h, out, hr⟩ := subscribe_silent E ep k e i ch c
    exact ⟨out, hr, .inr ⟨h, rfl⟩⟩
  | unsubscribe e i ch k =>
    obtain ⟨h, out, hr⟩ := unsubscribe_silent E ep k e i ch c
    exact ⟨out, hr, .inr ⟨h, rfl⟩⟩
  | parseSubscriptionResponse doc => exact ⟨[], MicroTcp.RunsTo.refl ep c.link.tcp, .inl rfl⟩
  | initiateReconnect => exact ⟨[], MicroTcp.RunsTo.refl ep c.link.tcp, .inl rfl⟩
  | restoreSubscriptions ks =>
    obtain ⟨h, out, hr⟩ := restoreSubscriptions_silent E ep ks c
    exact ⟨out, hr, .inr ⟨h, rfl⟩⟩
  | disconnect k => exact ⟨_, disconnect_runsTo E ep k c, .inl rfl⟩
  | elapse ms => exact ⟨[], MicroTcp.RunsTo.refl ep c.link.tcp, .inl rfl⟩

/-- What a run returns is part of what its connection emitted, in order. -/
theorem run_runsTo (calls : List Call) :
    ∀ s : Statics × Client σ, ∃ out, MicroTcp.RunsTo ep s.2.link.tcp
      (run E ep wsHost wsPath calls s).2.1.link.tcp out ∧
      (run E ep wsHost wsPath calls s).2.2.Sublist out := by
  induction calls with
  | nil => exact fun s => ⟨[], MicroTcp.RunsTo.refl ep s.2.link.tcp, .slnil⟩
  | cons a calls ih =>
    intro s
    obtain ⟨o₁, h₁, h₁'⟩ := step_runsTo E ep wsHost wsPath a s
    obtain ⟨o₂, h₂, h₂'⟩ :=
      ih ((step E ep wsHost wsPath a s).1, (step E ep wsHost wsPath a s).2.1)
    refine ⟨o₁ ++ o₂, h₁.trans ep h₂, List.Sublist.append ?_ h₂'⟩
    rcases h₁' with h | ⟨h, -⟩ <;> rw [h]
    exact List.nil_sublist _

/-- The first `connect` of a new client sends a SYN unless its allocation fails, and whatever
follows, reconnects included, sends no other: a client's life holds one SYN, or none when the
first allocation fails. -/
theorem reconnect_sends_no_second_syn (iss : UInt32) (mbufPool : List Bool) (tls : σ)
    (wsKey : String) (st : Statics) (calls : List Call) :
    (run E ep wsHost wsPath (.connect :: calls) (st, init iss mbufPool tls wsKey)).2.2.countP
      Segment.isSyn = if mbufPool.headD true then 1 else 0 := by
  obtain ⟨out, h, hs⟩ := run_runsTo E ep wsHost wsPath calls
    (st, (connect (init iss mbufPool tls wsKey : Client σ)).1)
  have hb : MicroTcp.synBudget (connect (init iss mbufPool tls wsKey : Client σ)).1.link.tcp = 0 := by
    simp [connect, init, WebSocketClient.init, MicroTcp.connect, MicroTcp.init, MicroTcp.synBudget]
  have hc : (connect (init iss mbufPool tls wsKey : Client σ)).2.countP Segment.isSyn =
      if mbufPool.headD true then 1 else 0 := by
    have hsyn : (RTE_TCP_SYN_FLAG &&& RTE_TCP_SYN_FLAG != 0) = true := by decide
    simp only [connect, init, WebSocketClient.init, MicroTcp.connect, MicroTcp.init,
      MicroTcp.createTcpPacket_snd, MicroTcp.allocOk, hsyn, if_true, ne_eq, not_true_eq_false,
      if_false]
    split <;> simp [Segment.isSyn, hsyn]
  have h₀ : out.countP Segment.isSyn = 0 := by
    have := h.synBudget_le ep
    rw [hb] at this
    omega
  have h₁ := hs.countP_le Segment.isSyn
  rw [h₀, Nat.le_zero] at h₁
  simp only [run, step, List.countP_append, hc, h₁, Nat.add_zero]

/-! ## A text message's segment is lost -/

end Client

end AeroGateway.Legacy
