import AeroGateway.Network.Client

/-!
# Reconnect chains

A reconnect chain is in flight while the retry timer is armed or a resolve, connect or
handshake that `attempt_reconnect_async` started is under way, outstanding or with its
handler queued. The write handler returns at once when `connected_` is false; the read
handler has no such guard. A read that `attempt_reconnect_async` cancels by replacing its
stream therefore runs the error path after the new chain has started, and arms the timer
a second time; a read that completed just before the replacement enqueues its message and
starts the next read on the new stream before that stream is open.
-/

namespace AeroGateway.Network

/-- Outstanding steps of a reconnect chain: everything but a read. -/
def Op.isChain : Op → Bool
  | .read _ => false
  | .wait | .resolve _ | .connect _ | .sslHandshake _ | .handshake _ => true

/-- Queued steps of a reconnect chain: an expired timer, or a resolve, connect or
handshake result. A cancelled wait ends its chain. -/
def Handler.isChain : Handler → Bool
  | .wait ok => ok
  | .resolve _ _ | .connect _ _ | .sslHandshake _ _ | .handshake _ _ => true
  | .read _ _ | .write _ | .close => false

namespace Session

/-- The reconnect chains in flight. -/
def chainsInFlight (s : Session) : Nat :=
  s.pending.countP Op.isChain + s.ready.countP Handler.isChain

/-- Connected on stream 0, a send whose write fails arms the timer while the read on
stream 0 is still outstanding; the timer fires and `attempt_reconnect_async` replaces
stream 0, which cancels that read. -/
def replacedReadTrace : List Action :=
  [.connect true, .send "m", .io false, .complete 1 true "", .io true]

/-- The cancelled read of the replaced stream 0 runs the error path while stream 1's
resolve is outstanding: it moves `connection_state_` and `retry_count_` and arms the timer,
so two reconnect chains are in flight. -/
theorem replaced_read_arms_second_chain :
    ∃ s s', Reachable defaultRetry none s ∧ step defaultRetry none (.io true) s = some s' ∧
      s.ws = some 1 ∧ s.ready = [.read 0 none] ∧
      (s.connectionState, s.retryCount, s.chainsInFlight) = (.Connecting, 1, 1) ∧
      (s'.connectionState, s'.retryCount, s'.chainsInFlight) = (.WaitingRetry, 2, 2) :=
  ⟨_, _, Reachable.init.run defaultRetry none
    (show run defaultRetry none replacedReadTrace init = some _ from rfl), rfl, by decide⟩

/-- As `replacedReadTrace`, but stream 0 delivers a message after the timer fired and
before its handler ran; the stale read handler then enqueues it and reads on stream 1,
whose chain goes on to reconnect. -/
def replacedReadRecovery : List Action :=
  [.connect true, .send "m", .io false, .complete 1 true "", .complete 0 true "x",
    .io true, .io true, .io true, .io true,
    .complete 0 true "", .io true, .complete 1 true "", .io true,
    .complete 1 true "", .io true, .complete 1 true "", .io true]

/-- A recovery that ends in `on_handshake`'s move to `Connected` on stream 1, where a read was
posted on stream 1 before `on_reconnect_` ran; the retry timer is still armed. -/
theorem replaced_read_posts_before_callback :
    ∃ s, Reachable defaultRetry (some ["sub"]) s ∧
      s.connectionState = .Connected ∧ s.ws = some 1 ∧ .wait ∈ s.pending ∧
      s.trace.count .onReconnect = 1 ∧
      s.trace.indexOf (.readPosted 1) < s.trace.indexOf .onReconnect :=
  ⟨_, Reachable.init.run defaultRetry (some ["sub"])
    (show run defaultRetry (some ["sub"]) replacedReadRecovery init = some _ from rfl), by decide⟩

end Session

end AeroGateway.Network
