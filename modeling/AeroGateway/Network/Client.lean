import Mathlib.Logic.Function.Basic
import Mathlib.Data.List.Basic

/-!
# The WebSocket session and its io context

`BoostWebSocketClient` over its `io_context`. Operations that are outstanding (a read, the
retry timer's wait, a resolve, a TCP connect, the TLS and WebSocket handshakes) complete
when the network decides, with the result it decides; their handlers then queue in the
context's FIFO ready queue, behind what `net::post` queued. Destroying a stream or closing
its socket cancels what is outstanding on it: those handlers queue with an error. The io
thread runs the ready queue in order, one handler at a time; the read handler is split at
its queue-size check, where the application thread may dequeue.

Handlers keep the stream their operation was started on only as ghost data: the code's
handlers act on whatever `ws_` is when they run.
-/

namespace AeroGateway.Network

/-- `BoostWebSocketClient::ConnectionState`. -/
inductive ConnectionState
  | Disconnected
  | Connecting
  | Connected
  | WaitingRetry
  deriving DecidableEq, Repr

/-- How far a stream got: created, TCP connected, TLS handshaken, WebSocket open, or
closed (its socket closed, failed or destroyed). -/
inductive Phase
  | fresh
  | tcp
  | tls
  | opened
  | closed
  deriving DecidableEq, Repr

/-- An outstanding asynchronous operation, with the stream it was started for. -/
inductive Op
  | read (g : Nat)
  | wait
  | resolve (g : Nat)
  | connect (g : Nat)
  | sslHandshake (g : Nat)
  | handshake (g : Nat)
  deriving DecidableEq, Repr

/-- A handler in the ready queue, with the result of its operation. -/
inductive Handler
  /-- The `async_read` lambda of `do_read`; `none` is a read error. -/
  | read (g : Nat) (msg : Option String)
  /-- The lambda `send` posts. -/
  | write (msg : String)
  /-- The `async_wait` lambda of `schedule_reconnect`; `false` is `operation_aborted`. -/
  | wait (ok : Bool)
  /-- `on_resolve`. -/
  | resolve (g : Nat) (ok : Bool)
  /-- `on_connect`. -/
  | connect (g : Nat) (ok : Bool)
  /-- `on_ssl_handshake`. -/
  | sslHandshake (g : Nat) (ok : Bool)
  /-- `on_handshake`. -/
  | handshake (g : Nat) (ok : Bool)
  /-- The lambda `close` posts. -/
  | close
  deriving DecidableEq, Repr

namespace Op

/-- The stream a cancellation of the socket reaches; the resolver and the timer are not
part of a stream. -/
def stream : Op → Option Nat
  | read g | connect g | sslHandshake g | handshake g => some g
  | wait | resolve _ => none

/-- The handler an operation queues when it completes with `ok` (a read carries `msg`). -/
def handler (ok : Bool) (msg : String) : Op → Handler
  | read g => .read g (if ok then some msg else none)
  | wait => .wait ok
  | resolve g => .resolve g ok
  | connect g => .connect g ok
  | sslHandshake g => .sslHandshake g ok
  | handshake g => .handshake g ok

/-- The handler a cancelled operation queues. -/
def abort (o : Op) : Handler := o.handler false ""

end Op

/-- What the session did on its streams and with its callback and timer. -/
inductive Event
  /-- `ws_->async_read` was started on stream `g`. -/
  | readPosted (g : Nat)
  /-- A message read on stream `g` entered `incoming_queue_`. -/
  | enqueued (g : Nat) (msg : String)
  /-- `ws_->write` of `msg` succeeded on stream `g`. -/
  | written (g : Nat) (msg : String)
  /-- `ws_->close(websocket::close_code::normal)` wrote a close frame on stream `g`. -/
  | closeFrame (g : Nat)
  /-- `on_reconnect_()` ran. -/
  | onReconnect
  /-- The retry timer was armed for the attempt counted `retryCount`. -/
  | armed (retryCount : Int)
  deriving DecidableEq, Repr

/-- `MAX_INCOMING_QUEUE_SIZE`. -/
def MAX_INCOMING_QUEUE_SIZE : Nat := 10000

/-- `incoming_queue_` and what the read handler and `get_next_message` did with it. The read
handler's `drop_count` is a function-local static, one for the whole process: it is not a
session's, and `Network.Inbound` keeps it beside the process's clients. -/
structure Inbound where
  /-- `incoming_queue_`, oldest first. -/
  queue : List String
  /-- The io thread between `size_approx()` and the end of its branch: stream, message, size
  seen. -/
  check : Option (Nat × String × Nat)
  /-- Ghost: every message a read handler received, with the queue size its check saw, in
  order. -/
  reads : List (String × Nat)
  /-- Ghost: what `get_next_message` returned, in order. -/
  delivered : List String
  deriving DecidableEq, Repr

namespace Inbound

/-- An empty queue with nothing read. -/
def empty : Inbound := ⟨[], none, [], []⟩

/-- The read handler's `size_approx()` for a message read on stream `g`. -/
def observe (ib : Inbound) (g : Nat) (msg : String) : Inbound :=
  { ib with check := some (g, msg, ib.queue.length), reads := ib.reads ++ [(msg, ib.queue.length)] }

/-- The read handler after its check: enqueue when the size seen was below the cap; otherwise
the message is dropped. -/
def commit (ib : Inbound) : Inbound :=
  match ib.check with
  | none => ib
  | some (_, msg, n) =>
    let ib := { ib with check := none }
    if n < MAX_INCOMING_QUEUE_SIZE then { ib with queue := ib.queue ++ [msg] } else ib

/-- `try_dequeue`: the oldest message, if any, goes to the consumer. -/
def dequeue (ib : Inbound) : Inbound :=
  match ib.queue with
  | [] => ib
  | msg :: rest => { ib with queue := rest, delivered := ib.delivered ++ [msg] }

end Inbound

/-- The retry settings `BoostWebSocketClient` copies from `app_config`. -/
structure RetryConfig where
  /-- `retry_enabled_`. -/
  retryEnabled : Bool
  /-- `retry_max_attempts_`. -/
  retryMaxAttempts : Int

/-- The retry settings `config_load` gives when the environment sets none. -/
def defaultRetry : RetryConfig := ⟨true, 10⟩

/-- Where the application thread is inside `close()`. -/
inductive CloseStage
  | idle
  /-- After `connected_.exchange(false)`, which returned `wasConnected`. -/
  | exchanged (wasConnected : Bool)
  /-- After posting the close handler, before `ioc_.stop()`. -/
  | posted
  deriving DecidableEq, Repr

/-- `BoostWebSocketClient` with its io context. -/
structure Session where
  /-- `connected_`. -/
  connected : Bool
  /-- `connection_state_`. -/
  connectionState : ConnectionState
  /-- `retry_count_`. -/
  retryCount : Int
  /-- `ws_`: the current stream, if one was made. -/
  ws : Option Nat
  /-- How far each stream got. -/
  phase : Nat → Phase
  /-- Identifier of the next stream to be made. -/
  nextStream : Nat
  /-- Outstanding operations. -/
  pending : List Op
  /-- The ready queue of the io context. -/
  ready : List Handler
  /-- `incoming_queue_` and its ghost logs. -/
  inbound : Inbound
  /-- `io_thread_` was started. -/
  ioStarted : Bool
  /-- `ioc_.stop()` was called: `run()` has returned and returns at once from now on. -/
  stopped : Bool
  /-- The application thread's progress through `close()`. -/
  closeStage : CloseStage
  /-- Ghost: the stream of the last connection made, while it lasts. -/
  live : Option Nat
  /-- Ghost: the length of the trace when that connection was made. -/
  liveSince : Nat
  /-- Ghost: the session's events, in order. -/
  trace : List Event

namespace Session

/-- A session before `connect`: no stream, nothing queued. -/
def init : Session where
  connected := false
  connectionState := .Disconnected
  retryCount := 0
  ws := none
  phase := fun _ => .closed
  nextStream := 0
  pending := []
  ready := []
  inbound := .empty
  ioStarted := false
  stopped := false
  closeStage := .idle
  live := none
  liveSince := 0
  trace := []

variable (cfg : RetryConfig) (s : Session)

/-- `net::post`: the handler queues behind the ready ones. -/
def post (h : Handler) : Session := { s with ready := s.ready ++ [h] }

/-- Append to the ghost trace. -/
def log (e : Event) : Session := { s with trace := s.trace ++ [e] }

/-- Closing the socket of stream `g`: what is outstanding on it queues with an error. -/
def closeStream (g : Nat) : Session :=
  { s with
    pending := s.pending.filter (fun o => o.stream ≠ some g)
    ready := s.ready ++ (s.pending.filter (fun o => o.stream = some g)).map Op.abort
    phase := Function.update s.phase g .closed
    live := if s.live = some g then none else s.live }

/-- `ws_ = std::make_unique<...>(ioc_, ssl_ctx_)`: a fresh stream; the old one is destroyed. -/
def newStream : Session :=
  let s := match s.ws with
    | some g => s.closeStream g
    | none => s
  { s with
    ws := some s.nextStream
    nextStream := s.nextStream + 1
    phase := Function.update s.phase s.nextStream .fresh
    live := none }

/-- `connected_ = false`. -/
def disconnect : Session := { s with connected := false, live := none }

/-- `BoostWebSocketClient::schedule_reconnect`: past the attempt limit it gives up;
otherwise `expires_after` cancels the outstanding wait and `async_wait` arms a new one. -/
def scheduleReconnect : Session :=
  if cfg.retryMaxAttempts ≤ s.retryCount then { s with connectionState := .Disconnected }
  else
    { s with
      connectionState := .WaitingRetry
      retryCount := s.retryCount + 1
      pending := s.pending.filter (· ≠ .wait) ++ [.wait]
      ready := s.ready ++ (s.pending.filter (· = .wait)).map Op.abort
      trace := s.trace ++ [.armed (s.retryCount + 1)] }

/-- `BoostWebSocketClient::do_read`: on an open stream the read is outstanding; the
WebSocket stream fails a read on any other at once. -/
def doRead : Session :=
  match s.ws with
  | none => s
  | some g =>
    let s := s.log (.readPosted g)
    if s.phase g = .opened then { s with pending := s.pending ++ [.read g] }
    else s.post (.read g none)

/-- `close()` called on the io thread (retries disabled): the join of its own thread throws,
which ends `run_io_context`. -/
def closeOnIo : Session :=
  let s' := s.disconnect
  let s' := if s.connected ∧ s.ws.isSome then s'.post .close else s'
  { s' with stopped := true }

/-- The error path shared by the read and write handlers. -/
def onFailure : Session :=
  if cfg.retryEnabled then (s.disconnect).scheduleReconnect cfg else s.closeOnIo

/-- `BoostWebSocketClient::attempt_reconnect_async`: a fresh stream, then the resolve; when
`SSL_set_tlsext_host_name` fails (`sniOk` false), `schedule_reconnect` instead. -/
def attemptReconnectAsync (sniOk : Bool) : Session :=
  let g := s.nextStream
  let s := { s with connectionState := .Connecting }.newStream
  if sniOk then { s with pending := s.pending ++ [.resolve g] } else s.scheduleReconnect cfg

/-- `BoostWebSocketClient::on_resolve`: `async_connect` over the results first closes the
socket of the current stream. -/
def onResolve (ok : Bool) : Session :=
  if ok then
    match s.ws with
    | none => s
    | some g =>
      let s := s.closeStream g
      { s with
        phase := Function.update s.phase g .fresh
        pending := s.pending ++ [.connect g] }
  else s.scheduleReconnect cfg

/-- Start a handshake on the current stream: outstanding from phase `before`, failed at
once from any other. -/
def startHandshake (before : Phase) (op : Nat → Op) : Session :=
  match s.ws with
  | none => s
  | some g =>
    if s.phase g = before then { s with pending := s.pending ++ [op g] }
    else s.post ((op g).abort)

/-- `BoostWebSocketClient::on_connect`. -/
def onConnect (ok : Bool) : Session :=
  if ok then s.startHandshake .tcp .sslHandshake else s.scheduleReconnect cfg

/-- `BoostWebSocketClient::on_ssl_handshake`. -/
def onSslHandshake (ok : Bool) : Session :=
  if ok then s.startHandshake .tls .handshake else s.scheduleReconnect cfg

/-- `send`: post the write when connected. -/
def send (msg : String) : Session := if s.connected then s.post (.write msg) else s

/-- `BoostWebSocketClient::on_handshake`: on success the session is connected, the counter
reset, `on_reconnect_` runs (its sends are `cb`), then the first read is started. -/
def onHandshake (cb : Option (List String)) (ok : Bool) : Session :=
  if ok then
    let s := { s with
      connected := true, connectionState := .Connected, retryCount := 0
      live := s.ws, liveSince := s.trace.length }
    let s := match cb with
      | some msgs => msgs.foldl send (s.log .onReconnect)
      | none => s
    s.doRead
  else s.scheduleReconnect cfg

/-- The read handler up to `size_approx()`: an error takes the retry path; a message waits
with the queue size seen. -/
def onRead (g : Nat) : Option String → Session
  | none => s.onFailure cfg
  | some msg => { s with inbound := s.inbound.observe g msg }

/-- The read handler after its check: the queue takes or drops the message, then the next
read starts. -/
def commitRead : Session :=
  match s.inbound.check with
  | none => s
  | some (g, msg, n) =>
    let s' := { s with inbound := s.inbound.commit }
    (if n < MAX_INCOMING_QUEUE_SIZE then s'.log (.enqueued g msg) else s').doRead

/-- The lambda `send` posts: a no-op once disconnected; `ws_->write` otherwise, which the
network lets succeed (`ok`) only on an open stream. -/
def onWrite (msg : String) (ok : Bool) : Session :=
  if s.connected then
    match s.ws with
    | none => s
    | some g =>
      if ok ∧ s.phase g = .opened then s.log (.written g msg) else s.onFailure cfg
  else s

/-- The lambda `close` posts: a close frame on an open current stream, then the socket shuts. -/
def onClose : Session :=
  match s.ws with
  | none => s
  | some g => (if s.phase g = .opened then s.log (.closeFrame g) else s).closeStream g

/-- Run one ready handler; `callOk` is whether the one synchronous library call it makes
succeeds: `ws_->write` in the write handler, `SSL_set_tlsext_host_name` in the timer's. -/
def runHandler (cb : Option (List String)) (callOk : Bool) : Handler → Session
  | .read g msg => s.onRead cfg g msg
  | .write msg => s.onWrite cfg msg callOk
  | .wait ok => if ok then s.attemptReconnectAsync cfg callOk else s
  | .resolve _ ok => s.onResolve cfg ok
  | .connect _ ok => s.onConnect cfg ok
  | .sslHandshake _ ok => s.onSslHandshake cfg ok
  | .handshake _ ok => s.onHandshake cfg cb ok
  | .close => s.onClose

/-- `BoostWebSocketClient::connect`: a fresh stream and the blocking resolve, connect and
handshakes, which the network lets succeed (`ok`) or not; `io_thread_` starts if needed. -/
def connect (ok : Bool) : Session :=
  let g := s.nextStream
  let s := { s with
    connectionState := .Connecting, connected := false, live := none, ioStarted := true }.newStream
  if ok then
    { s with
      phase := Function.update s.phase g .opened
      connected := true, connectionState := .Connected, retryCount := 0
      live := some g, liveSince := s.trace.length }.doRead
  else if cfg.retryEnabled then s.scheduleReconnect cfg
  else { s with connectionState := .Disconnected }

/-- `get_next_message`: `try_dequeue` on `incoming_queue_`. -/
def getNextMessage : Session := { s with inbound := s.inbound.dequeue }

/-- `simulate_network_failure`: the TCP socket of the current stream closes. -/
def simulateNetworkFailure : Session :=
  match s.ws with
  | none => s
  | some g => s.closeStream g

/-- An outstanding operation completes with the network's result; a success moves its
stream on, a failure leaves the stream unusable. -/
def complete (o : Op) (ok : Bool) (msg : String) : Session :=
  let s := { s with pending := s.pending.erase o, ready := s.ready ++ [o.handler ok msg] }
  match o, ok with
  | .connect g, true => { s with phase := Function.update s.phase g .tcp }
  | .sslHandshake g, true => { s with phase := Function.update s.phase g .tls }
  | .handshake g, true => { s with phase := Function.update s.phase g .opened }
  | .read _, true | .wait, _ | .resolve _, _ => s
  | o, false => match o.stream with
    | some g => { s with phase := Function.update s.phase g .closed }
    | none => s

end Session

/-- A step of the application thread, the io thread or the network. -/
inductive Action
  /-- `connect(host, port, target)`, whose blocking steps succeed when `ok`. -/
  | connect (ok : Bool)
  /-- `send(msg)`. -/
  | send (msg : String)
  /-- `get_next_message()`. -/
  | getNextMessage
  /-- `simulate_network_failure()`. -/
  | simulateNetworkFailure
  /-- `close()` up to `connected_.exchange(false)`. -/
  | closeExchange
  /-- `close()` posting the close handler when it was connected with a stream. -/
  | closePost
  /-- `close()` calling `ioc_.stop()` and joining the io thread. -/
  | closeStop
  /-- The io thread runs its next step; `callOk` decides the handler's synchronous library
  call. -/
  | io (callOk : Bool)
  /-- The outstanding operation at index `i` completes: `ok`, and a read's message. -/
  | complete (i : Nat) (ok : Bool) (msg : String)
  deriving DecidableEq, Repr

namespace Session

variable (cfg : RetryConfig) (cb : Option (List String))

/-- The application thread is outside `close()`. -/
def appIdle (s : Session) : Prop := s.closeStage = .idle

instance (s : Session) : Decidable s.appIdle := inferInstanceAs (Decidable (_ = _))

/-- One step, when enabled. `cb` is what `on_reconnect_` sends, if it is set. -/
def step : Action → Session → Option Session
  | .connect ok, s => if s.appIdle then some (s.connect cfg ok) else none
  | .send msg, s => if s.appIdle then some (s.send msg) else none
  | .getNextMessage, s => if s.appIdle then some s.getNextMessage else none
  | .simulateNetworkFailure, s => if s.appIdle then some s.simulateNetworkFailure else none
  | .closeExchange, s =>
    if s.appIdle then
      some { s with connected := false, live := none, closeStage := .exchanged s.connected }
    else none
  | .closePost, s => match s.closeStage with
    | .exchanged was =>
      let s := if was ∧ s.ws.isSome then s.post .close else s
      some { s with closeStage := .posted }
    | _ => none
  | .closeStop, s =>
    if s.closeStage = .posted then some { s with stopped := true, closeStage := .idle } else none
  | .io callOk, s =>
    if s.ioStarted ∧ ¬s.stopped then
      match s.inbound.check, s.ready with
      | some _, _ => some s.commitRead
      | none, h :: rest => some ({ s with ready := rest }.runHandler cfg cb callOk h)
      | none, [] => none
    else none
  | .complete i ok msg, s => (s.pending.get? i).map fun o => s.complete o ok msg

/-- Steps in order, failing at the first that is not enabled. -/
def run : List Action → Session → Option Session
  | [], s => some s
  | a :: as, s => (step cfg cb a s).bind (run as)

/-- The states reachable from `init` by enabled steps. -/
inductive Reachable : Session → Prop
  | init : Reachable init
  | step {s s' : Session} (a : Action) : Reachable s → step cfg cb a s = some s' → Reachable s'

/-- A run from a reachable state ends in a reachable state. -/
theorem Reachable.run {s s' : Session} (h : Reachable cfg cb s) :
    ∀ {as : List Action}, Session.run cfg cb as s = some s' → Reachable cfg cb s'
  | [], hr => Option.some.inj hr ▸ h
  | a :: as, hr => by
    obtain ⟨t, ht, hr⟩ := Option.bind_eq_some.mp hr
    exact (h.step a ht).run hr

end Session

end AeroGateway.Network
