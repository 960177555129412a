import AeroGateway.Legacy.TlsRecords
import AeroGateway.Legacy.WebSocketClient

/-!
# The legacy client's receive path

`WebSocketClient::process_rx` hands the frame to its `MicroTcp`, takes what the connection
buffered, and moves its own state machine: from `WS_CONNECTING_TCP` into the TLS handshake
once TCP is established, through the TLS handshake, then to `WS_CONNECTED` on the next poll,
the WebSocket handshake being assumed to succeed. Every `process_rx` is a step of the abstract
client of `Legacy.WebSocketClient`: it changes nothing that client keeps but the state, and
moves the state along `rxNext`.

The TLS case keeps three function-local statics that outlive the connection and are shared by
every client of the process: whether SNI was set, whether a ClientHello went out, and the count
of failed polls with data. Only the count is ever reset.

The segments `MicroTcp::process_rx` returns go into the output vector as they are, null pointers
of failed allocations included; no caller in the repository reads that vector, and here the
output is the segments that exist.
-/

namespace AeroGateway.Legacy

open Market Network Forwarding

/-- The function-local statics of `process_rx`, which live as long as the process. -/
structure Statics where
  /-- `static bool sni_set`. -/
  sniSet : Bool
  /-- `static bool client_hello_sent`. -/
  clientHelloSent : Bool
  /-- `static int error_with_data_count`. -/
  errorWithDataCount : Nat

/-- The statics at process start. -/
def Statics.init : Statics := ⟨false, false, 0⟩

/-- The client: what the abstract client keeps, the connection under it, and `ws_key_`. -/
structure Client (σ : Type) extends WebSocketClient where
  link : Link σ
  wsKey : String

variable {σ : Type} (E : TlsSocket σ) (ep : Endpoints) (wsHost wsPath : String)

namespace Link

/-- The ClientHello branch on the connection: `do_handshake`, then the chunks the socket has
to send, each handed to `send_data`; and whether there was any. -/
def sendClientHello (l : Link σ) : Link σ × List Segment × Bool :=
  let (_, tls) := E.doHandshake l.tls
  let (chunks, tls) := E.drainEncrypted tls
  let (l, out) := sendAll { l with tls } chunks
  (l, out, !chunks.isEmpty)

/-- The feed loop, which runs only on a poll that brought bytes: the link, its segments, and
whether the upgrade request went out inside the loop. -/
def feedPayload (request : String) (payload : Bytes) (l : Link σ) : Link σ × List Segment × Bool :=
  if payload.isEmpty then (l, [], false) else feedRecords E request payload 0 l

/-- After the feed loop: one more `do_handshake`, a flush, and the upgrade request when it
returned 1; with the value it returned. -/
def finishHandshake (request : String) (l : Link σ) : Link σ × List Segment × Int :=
  let (hs, tls) := E.doHandshake l.tls
  let (l, out₂) := flush E { l with tls }
  if hs = 1 then
    let (l, out₃) := generateWebsocketHandshake E request l
    (l, out₂ ++ out₃, hs)
  else (l, out₂, hs)

theorem runsTo_sendClientHello (l : Link σ) :
    MicroTcp.RunsTo ep l.tcp (sendClientHello E l).1.tcp (sendClientHello E l).2.1 :=
  runsTo_sendAll ep { l with tls := (E.drainEncrypted (E.doHandshake l.tls).2).2 }
    (E.drainEncrypted (E.doHandshake l.tls).2).1

theorem runsTo_feedPayload (request : String) (payload : Bytes) (l : Link σ) :
    MicroTcp.RunsTo ep l.tcp (feedPayload E request payload l).1.tcp
      (feedPayload E request payload l).2.1 := by
  unfold feedPayload
  split
  · exact MicroTcp.RunsTo.refl ep l.tcp
  · exact runsTo_feedRecords E ep request payload 0 l

theorem runsTo_finishHandshake (request : String) (l : Link σ) :
    MicroTcp.RunsTo ep l.tcp (finishHandshake E request l).1.tcp
      (finishHandshake E request l).2.1 := by
  have hf := runsTo_flush E ep { l with tls := (E.doHandshake l.tls).2 }
  simp only [finishHandshake]
  split_ifs
  · exact hf.trans ep (runsTo_generateWebsocketHandshake E ep request _)
  · exact hf

end Link

namespace Client

/-- The TLS part of the `WS_CONNECTING_TLS` case once a ClientHello is out: this poll's
records, then one more `do_handshake`; a -1 on a poll with bytes counts, and the third such
poll disconnects. -/
def tlsRecords (st : Statics) (c : Client σ) (payload : Bytes) :
    Statics × Client σ × List Segment :=
  let request := handshakeRequest wsPath wsHost c.wsKey
  let (link, out₁, done) := Link.feedPayload E request payload c.link
  let (link, out₂, hs) := Link.finishHandshake E request link
  let c := { c with link, state := if done || hs = 1 then .WS_HANDSHAKE_SENT else c.state }
  if hs = -1 ∧ !payload.isEmpty then
    if st.errorWithDataCount + 1 ≥ 3 then
      ({ st with errorWithDataCount := 0 }, { c with state := .WS_DISCONNECTED }, out₁ ++ out₂)
    else ({ st with errorWithDataCount := st.errorWithDataCount + 1 }, c, out₁ ++ out₂)
  else (st, c, out₁ ++ out₂)

/-- The `WS_CONNECTING_TLS` case: SNI on the first TLS poll of the process; a ClientHello
until one has gone out in this process, which ends the poll; after that, `tlsRecords`. -/
def onConnectingTls (st : Statics) (c : Client σ) (payload : Bytes) :
    Statics × Client σ × List Segment :=
  let (st, c) :=
    if st.sniSet then (st, c)
    else ({ st with sniSet := true },
      { c with link := { c.link with tls := E.setHostname c.link.tls wsHost } })
  if !st.clientHelloSent then
    let (link, out, sent) := Link.sendClientHello E c.link
    ({ st with clientHelloSent := sent }, { c with link }, out)
  else tlsRecords E wsHost wsPath st c payload

/-- `process_rx`: the frame through `MicroTcp`, its buffer taken, and the state machine:
TCP established falls through into TLS; `WS_HANDSHAKE_SENT` becomes `WS_CONNECTED`; a
connected client decrypts what came and drops it. -/
def processRx (st : Statics) (c : Client σ) (m : Mbuf) : Statics × Client σ × List Segment :=
  let (tcp, tcpOut) := c.link.tcp.processRx ep m
  let tcpOut := tcpOut.reduceOption
  let (tcp, payload) := tcp.extractRxData
  let c := { c with link := { c.link with tcp } }
  match c.state with
  | .WS_CONNECTING_TCP =>
    if tcp.state = .ESTABLISHED then
      let (st, c, out) := onConnectingTls E wsHost wsPath st { c with state := .WS_CONNECTING_TLS } payload
      (st, c, tcpOut ++ out)
    else (st, c, tcpOut)
  | .WS_CONNECTING_TLS =>
    let (st, c, out) := onConnectingTls E wsHost wsPath st c payload
    (st, c, tcpOut ++ out)
  | .WS_HANDSHAKE_SENT => (st, { c with state := .WS_CONNECTED }, tcpOut)
  | .WS_CONNECTED =>
    if payload.isEmpty then (st, c, tcpOut)
    else
      let (_, _, tls) := E.decrypt c.link.tls payload
      (st, { c with link := { c.link with tls } }, tcpOut)
  | .WS_DISCONNECTED => (st, c, tcpOut)

/-- As the abstract client sees them, `c'` is `c` with the state set to one of `ss`. -/
def MovesTo (c c' : Client σ) (ss : List WsState) : Prop :=
  c'.toWebSocketClient = c.toWebSocketClient.setState c'.state ∧ c'.state ∈ ss

theorem tlsRecords_movesTo (st : Statics) (c : Client σ) (payload : Bytes) :
    MovesTo c (tlsRecords E wsHost wsPath st c payload).2.1
      [c.state, .WS_HANDSHAKE_SENT, .WS_DISCONNECTED] := by
  simp only [tlsRecords]
  split_ifs <;> exact ⟨rfl, by simp⟩

theorem onConnectingTls_movesTo (st : Statics) (c : Client σ) (payload : Bytes) :
    MovesTo c (onConnectingTls E wsHost wsPath st c payload).2.1
      [c.state, .WS_HANDSHAKE_SENT, .WS_DISCONNECTED] := by
  simp only [onConnectingTls]
  split_ifs <;>
    first
    | exact ⟨rfl, by simp⟩
    | exact tlsRecords_movesTo E wsHost wsPath _ _ payload

theorem movesTo_self {c : Client σ} {ss : List WsState} (h : c.state ∈ ss) : MovesTo c c ss := by
  obtain ⟨w, link, key⟩ := c
  exact ⟨rfl, h⟩

/-- Every `process_rx` is a step of the abstract client: the new state is one `rxNext` allows,
and nothing else the abstract client keeps changes. -/
theorem processRx_refines (st : Statics) (c : Client σ) (m : Mbuf) :
    WebSocketClient.step (.processRx (processRx E ep wsHost wsPath st c m).2.1.state)
      c.toWebSocketClient = some (processRx E ep wsHost wsPath st c m).2.1.toWebSocketClient := by
  suffices h : MovesTo c (processRx E ep wsHost wsPath st c m).2.1 (rxNext c.state) by
    simp only [WebSocketClient.step]
    rw [if_pos h.2, ← h.1]
  simp only [processRx]
  split <;> rename_i hs
  · split_ifs
    · obtain ⟨h₁, h₂⟩ := onConnectingTls_movesTo E wsHost wsPath st
        { c with link := { c.link with tcp := _ }, state := .WS_CONNECTING_TLS } _
      rw [hs]
      exact ⟨h₁, (show [.WS_CONNECTING_TLS, .WS_HANDSHAKE_SENT, .WS_DISCONNECTED] ⊆
        rxNext .WS_CONNECTING_TCP by decide) h₂⟩
    · exact movesTo_self (by simp [hs, rxNext])
  · obtain ⟨h₁, h₂⟩ := onConnectingTls_movesTo E wsHost wsPath st
      { c with link := { c.link with tcp := _ } } _
    exact ⟨h₁, by simpa [hs, rxNext] using h₂⟩
  · exact ⟨rfl, by simp [hs, rxNext]⟩
  · split_ifs <;> exact movesTo_self (by simp [hs, rxNext])
  · exact movesTo_self (by simp [hs, rxNext])

/-! The client reaches its connection only through `process_rx`, `extract_rx_data` and
`send_data`: each poll is a run of `MicroTcp` calls that returns the poll's segments. -/

theorem tlsRecords_runsTo (st : Statics) (c : Client σ) (payload : Bytes) :
    MicroTcp.RunsTo ep c.link.tcp (tlsRecords E wsHost wsPath st c payload).2.1.link.tcp
      (tlsRecords E wsHost wsPath st c payload).2.2 := by
  have h := (Link.runsTo_feedPayload E ep (handshakeRequest wsPath wsHost c.wsKey) payload
    c.link).trans ep (Link.runsTo_finishHandshake E ep (handshakeRequest wsPath wsHost c.wsKey)
      (Link.feedPayload E (handshakeRequest wsPath wsHost c.wsKey) payload c.link).1)
  simp only [tlsRecords]
  split_ifs <;> exact h

theorem onConnectingTls_runsTo (st : Statics) (c : Client σ) (payload : Bytes) :
    MicroTcp.RunsTo ep c.link.tcp (onConnectingTls E wsHost wsPath st c payload).2.1.link.tcp
      (onConnectingTls E wsHost wsPath st c payload).2.2 := by
  simp only [onConnectingTls]
  split_ifs
  all_goals first
    | exact (Link.runsTo_sendClientHello E ep _).congr_left ep rfl
    | exact (tlsRecords_runsTo E ep wsHost wsPath _ _ payload).congr_left ep rfl

theorem processRx_runsTo (st : Statics) (c : Client σ) (m : Mbuf) :
    MicroTcp.RunsTo ep c.link.tcp (processRx E ep wsHost wsPath st c m).2.1.link.tcp
      (processRx E ep wsHost wsPath st c m).2.2 := by
  have h₀ : MicroTcp.RunsTo ep c.link.tcp (c.link.tcp.processRx ep m).1.extractRxData.1
      (c.link.tcp.processRx ep m).2.reduceOption := by
    have h := (MicroTcp.RunsTo.of_step ep (.processRx m) c.link.tcp).trans ep
      (MicroTcp.RunsTo.of_step ep .extractRxData _)
    rwa [MicroTcp.stepOut, MicroTcp.stepOut, List.append_nil] at h
  simp only [processRx]
  split
  · split_ifs
    · exact h₀.trans ep ((onConnectingTls_runsTo E ep wsHost wsPath _ _ _).congr_left ep rfl)
    · exact h₀
  · exact h₀.trans ep ((onConnectingTls_runsTo E ep wsHost wsPath _ _ _).congr_left ep rfl)
  all_goals (try split_ifs) <;> exact h₀

end Client

end AeroGateway.Legacy
