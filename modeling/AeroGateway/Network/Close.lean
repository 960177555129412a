import AeroGateway.Network.Client

/-!
# Closing the session

`close()` on the application thread exchanges `connected_` for false, posts the handler that
writes the close frame, then calls `ioc_.stop()` and joins the io thread. A stopped context
runs nothing more, so once `close()` has returned no handler runs again; but the stop can
come before the io thread has taken the posted handler, and then no close frame is written.
-/

namespace AeroGateway.Network

namespace Session

variable (cfg : RetryConfig) (s : Session)

/-! ## Only `close()` and the io thread's own `close()` stop the context -/

@[simp] theorem stopped_closeStream (g : Nat) : (s.closeStream g).stopped = s.stopped := rfl

@[simp] theorem stopped_newStream : s.newStream.stopped = s.stopped := by
  unfold newStream; split <;> rfl

@[simp] theorem stopped_scheduleReconnect : (s.scheduleReconnect cfg).stopped = s.stopped := by
  unfold scheduleReconnect; split <;> rfl

@[simp] theorem stopped_doRead : s.doRead.stopped = s.stopped := by
  unfold doRead; split
  · rfl
  · dsimp only; split <;> rfl

@[simp] theorem stopped_connect (ok : Bool) : (s.connect cfg ok).stopped = s.stopped := by
  unfold connect; split
  · simp
  · split <;> simp

@[simp] theorem stopped_send (msg : String) : (s.send msg).stopped = s.stopped := by
  unfold send; split <;> rfl

@[simp] theorem stopped_simulateNetworkFailure :
    s.simulateNetworkFailure.stopped = s.stopped := by
  unfold simulateNetworkFailure; split <;> rfl

@[simp] theorem stopped_complete (o : Op) (ok : Bool) (msg : String) :
    (s.complete o ok msg).stopped = s.stopped := by
  unfold complete; split
  all_goals first | rfl | (split <;> rfl)

/-- A stopped context's io thread takes no step. -/
theorem step_io_of_stopped {cb : Option (List String)} {s : Session} (hs : s.stopped = true)
    (w : Bool) : step cfg cb (.io w) s = none := by
  simp [step, hs]

/-- A stopped context stays stopped. -/
theorem stopped_step {cb : Option (List String)} {a : Action} {s s' : Session}
    (hs : s.stopped = true) (h : step cfg cb a s = some s') : s'.stopped = true := by
  cases a with
  | io w => simp [step_io_of_stopped cfg hs] at h
  | complete i ok msg =>
    simp only [step, Option.map_eq_some'] at h
    obtain ⟨o, -, rfl⟩ := h
    simpa using hs
  | closePost =>
    simp only [step] at h; split at h
    · cases h; split <;> exact hs
    · cases h
  | closeStop => obtain ⟨-, ⟨⟩⟩ := Option.ite_none_right_eq_some.mp h; rfl
  | _ =>
    simp only [step] at h; split at h
    all_goals cases h
    all_goals first | exact hs | simpa using hs

/-- After `ioc_.stop()` no handler runs again, whatever the application does next. -/
theorem run_stopped {cb : Option (List String)} :
    ∀ {as : List Action} {s s' : Session}, s.stopped = true → run cfg cb as s = some s' →
      s'.stopped = true ∧ ∀ w, step cfg cb (.io w) s' = none
  | [], s, s', hs, h => by
    cases h; exact ⟨hs, step_io_of_stopped cfg hs⟩
  | a :: as, s, s', hs, h => by
    obtain ⟨t, ht, h⟩ := Option.bind_eq_some.mp h
    exact run_stopped (stopped_step cfg hs ht) h

/-- Connected on stream 0; `close()` runs to its end before the io thread takes the handler
it posted. -/
def closeBeforeIo : List Action := [.closeExchange, .closePost, .closeStop]

/-- From a connected session with an open stream, `close()` returns with the close handler
still queued in a stopped context: no close frame was written, and none can be. -/
theorem close_returns_before_close_frame :
    ∃ s s', Reachable defaultRetry none s ∧ s.connected = true ∧ s.ws = some 0 ∧
      s.phase 0 = .opened ∧ run defaultRetry none closeBeforeIo s = some s' ∧
      s'.stopped = true ∧ s'.ready = [.close] ∧ Event.closeFrame 0 ∉ s'.trace ∧
      ∀ w, step defaultRetry none (.io w) s' = none :=
  ⟨_, _, Reachable.init.run defaultRetry none
    (show run defaultRetry none [.connect true] init = some _ from rfl),
    rfl, rfl, rfl, rfl, rfl, rfl, by decide, step_io_of_stopped defaultRetry rfl⟩

end Session

end AeroGateway.Network
