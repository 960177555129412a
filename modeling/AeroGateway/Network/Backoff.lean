import Mathlib.Algebra.Order.Field.Rat
import Mathlib.Algebra.Order.Ring.Basic
import Mathlib.Tactic.Linarith
import Mathlib.Data.List.Chain
import AeroGateway.Network.Client

/-!
# Retry backoff

`schedule_reconnect` arms the retry timer for the attempt it counts: the initial delay times
the multiplier once for each earlier attempt, capped at the maximum. The count is
`retry_count_`, which each arming raises by one and a handshake resets, so over every run the
armed counts rise by one from 1, restart at 1, and stay within the attempt limit; with a
multiplier of at least 1 the delays between restarts never decrease and never pass the cap.

What is counted is armings, not failures. The write handler and the read handler both take
the error path, and one lost connection can fail a queued write and then the outstanding read:
the timer is armed twice, and the one left running waits the second delay. Past the attempt
limit `schedule_reconnect` sets `Disconnected` without cancelling a timer armed before.

The delay is a `double`, read as a `DoubleValue`: a finite value held exactly (its rounding is
not modelled), an infinity or NaN. The multiplier comes from `strtod`, which gives all three.
With a NaN multiplier every delay from the second attempt on is NaN, which `delay > max` never
replaces by the cap, so the bounds on delays are stated for a finite multiplier.
-/

namespace AeroGateway.Network

/-- A `double` as the delay arithmetic reads it: a finite value, held exactly, an infinity
(`neg` for the negative one), or NaN. -/
inductive DoubleValue
  | fin (q : ℚ)
  | inf (neg : Bool)
  | nan
  deriving DecidableEq

namespace DoubleValue

/-- A literal such as `2.0`. -/
instance (n : Nat) : OfNat DoubleValue n := ⟨fin n⟩

/-- IEEE 754 multiplication: NaN absorbs, zero times an infinity is NaN, and the signs
multiply. -/
def mul : DoubleValue → DoubleValue → DoubleValue
  | nan, _ | _, nan => nan
  | fin a, fin b => fin (a * b)
  | fin a, inf n | inf n, fin a => if a = 0 then nan else inf (n != decide (a < 0))
  | inf n, inf n' => inf (n != n')

instance : Mul DoubleValue := ⟨mul⟩

/-- IEEE 754 `<`: false as soon as NaN is involved. -/
def lt : DoubleValue → DoubleValue → Bool
  | fin a, fin b => decide (a < b)
  | fin _, inf n => !n
  | inf n, fin _ => n
  | inf n, inf n' => n && !n'
  | _, _ => false

/-- IEEE 754 `<=`: less, or equal and not NaN. -/
def le (x y : DoubleValue) : Bool := x.lt y || (x == y && x != nan)

instance : LT DoubleValue := ⟨fun x y => x.lt y⟩

instance : LE DoubleValue := ⟨fun x y => x.le y⟩

instance (x y : DoubleValue) : Decidable (x < y) := inferInstanceAs (Decidable (x.lt y = true))

instance (x y : DoubleValue) : Decidable (x ≤ y) := inferInstanceAs (Decidable (x.le y = true))

@[simp] theorem ofNat_eq_fin (n : Nat) [n.AtLeastTwo] :
    (no_index (OfNat.ofNat n) : DoubleValue) = fin (OfNat.ofNat n) := rfl

@[simp] theorem fin_mul_fin (a b : ℚ) : fin a * fin b = fin (a * b) := rfl

@[simp] theorem fin_lt_fin (a b : ℚ) : fin a < fin b ↔ a < b := decide_eq_true_iff

end DoubleValue

open DoubleValue

/-- The delay settings `BoostWebSocketClient` copies from `app_config`. -/
structure BackoffConfig where
  /-- `retry_initial_delay_ms_`. -/
  retryInitialDelayMs : Int
  /-- `retry_max_delay_ms_`. -/
  retryMaxDelayMs : Int
  /-- `retry_backoff_multiplier_`. -/
  retryBackoffMultiplier : DoubleValue

/-- The delay settings `config_load` gives when the environment sets none. -/
def defaultBackoff : BackoffConfig := ⟨1000, 30000, 2⟩

/-- The loop `for (int i = 1; i < retry_count_; ++i) delay *= retry_backoff_multiplier_`,
run `n` times. -/
def backoffLoop (m : DoubleValue) : Nat → DoubleValue → DoubleValue
  | 0, delay => delay
  | n + 1, delay => backoffLoop m n (delay * m)

/-- The delay `schedule_reconnect` arms the timer with for the attempt counted `retryCount`. -/
def reconnectDelay (b : BackoffConfig) (retryCount : Int) : DoubleValue :=
  let delay :=
    backoffLoop b.retryBackoffMultiplier (retryCount - 1).toNat (.fin b.retryInitialDelayMs)
  if delay > .fin b.retryMaxDelayMs then .fin b.retryMaxDelayMs else delay

theorem backoffLoop_fin (m : ℚ) : ∀ n d, backoffLoop (.fin m) n (.fin d) = .fin (d * m ^ n)
  | 0, _ => by simp [backoffLoop]
  | n + 1, d => by rw [backoffLoop, fin_mul_fin, backoffLoop_fin m n, pow_succ', mul_assoc]

/-- With a finite multiplier the delay is `min(initial * multiplier^(count - 1), max)`. -/
theorem reconnectDelay_fin (b : BackoffConfig) {m : ℚ} (hm : b.retryBackoffMultiplier = .fin m)
    (k : Int) :
    reconnectDelay b k =
      .fin (min (b.retryInitialDelayMs * m ^ (k - 1).toNat) b.retryMaxDelayMs) := by
  rw [reconnectDelay, hm, backoffLoop_fin, min_def]
  split_ifs with h₁ h₂ <;> first | rfl | (simp only [fin_lt_fin] at h₁; linarith)

/-- A NaN multiplier makes every delay from the second attempt on NaN, which is not capped. -/
theorem reconnectDelay_nan (b : BackoffConfig) (hm : b.retryBackoffMultiplier = .nan) {k : Int}
    (hk : 2 ≤ k) : reconnectDelay b k = .nan := by
  have hloop : ∀ n d, backoffLoop .nan n d = if n = 0 then d else .nan := by
    intro n
    induction n with
    | zero => intro d; rfl
    | succ n ih => intro d; rw [backoffLoop, ih]; cases d <;> simp [HMul.hMul, Mul.mul, mul]
  have hn : (k - 1).toNat ≠ 0 := by rw [Ne, Int.toNat_eq_zero]; omega
  rw [reconnectDelay, hm, hloop, if_neg hn]
  rfl

namespace Event

/-- The count an arming carries. -/
def armed? : Event → Option Int
  | armed k => some k
  | _ => none

end Event

/-- The counts of the armings of a trace, in order. -/
def armedCounts (t : List Event) : List Int := t.filterMap Event.armed?

namespace Session

variable (cfg : RetryConfig)

/-! ## What a step does to the counter -/

/-- From `s` to `s'` the timer was not armed, and the counter stayed or was reset. -/
def Quiet (s s' : Session) : Prop :=
  armedCounts s'.trace = armedCounts s.trace ∧ (s'.retryCount = s.retryCount ∨ s'.retryCount = 0)

/-- From `s` to `s'` the timer was not armed, or armed once by a `schedule_reconnect` that
ends the step. -/
def QuietOrSchedules (s s' : Session) : Prop :=
  Quiet s s' ∨ ∃ t, Quiet s t ∧ s' = t.scheduleReconnect cfg

theorem Quiet.refl (s : Session) : Quiet s s := ⟨rfl, .inl rfl⟩

theorem Quiet.trans {s t u : Session} (h₁ : Quiet s t) (h₂ : Quiet t u) : Quiet s u := by
  refine ⟨h₂.1.trans h₁.1, ?_⟩
  rcases h₂.2 with h | h
  · exact h ▸ h₁.2
  · exact .inr h

theorem quiet_of_eq {s s' : Session} (ht : s'.trace = s.trace) (hr : s'.retryCount = s.retryCount) :
    Quiet s s' := ⟨by rw [ht], .inl hr⟩

theorem QuietOrSchedules.quiet {s t u : Session} (h₁ : Quiet s t) :
    QuietOrSchedules cfg t u → QuietOrSchedules cfg s u
  | .inl h => .inl (h₁.trans h)
  | .inr ⟨v, hv, hu⟩ => .inr ⟨v, h₁.trans hv, hu⟩

variable (s : Session)

theorem quiet_log (e : Event) (he : e.armed? = none) : Quiet s (s.log e) :=
  ⟨by simp [log, armedCounts, he], .inl rfl⟩

theorem quiet_post (h : Handler) : Quiet s (s.post h) := quiet_of_eq rfl rfl

theorem quiet_closeStream (g : Nat) : Quiet s (s.closeStream g) := quiet_of_eq rfl rfl

@[simp] theorem trace_newStream : s.newStream.trace = s.trace := by
  unfold newStream; split <;> rfl

@[simp] theorem retryCount_newStream : s.newStream.retryCount = s.retryCount := by
  unfold newStream; split <;> rfl

theorem quiet_doRead : Quiet s s.doRead := by
  unfold doRead; split
  · exact Quiet.refl s
  · dsimp only; split
    · exact (quiet_log s (.readPosted _) rfl).trans (quiet_of_eq rfl rfl)
    · exact (quiet_log s (.readPosted _) rfl).trans (quiet_post _ _)

theorem quiet_closeOnIo : Quiet s s.closeOnIo := by
  unfold closeOnIo; split <;> exact quiet_of_eq rfl rfl


theorem quiet_startHandshake (before : Phase) (op : Nat → Op) :
    Quiet s (s.startHandshake before op) := by
  unfold startHandshake; split
  · exact Quiet.refl s
  · split
    · exact quiet_of_eq rfl rfl
    · exact quiet_post s _

theorem quiet_send (msg : String) : Quiet s (s.send msg) := by
  unfold send; split
  · exact quiet_post s _
  · exact Quiet.refl s

theorem quiet_foldl_send (msgs : List String) : Quiet s (msgs.foldl send s) := by
  induction msgs generalizing s with
  | nil => exact Quiet.refl s
  | cons m ms ih => exact (quiet_send s m).trans (ih _)

theorem quiet_commitRead : Quiet s s.commitRead := by
  unfold commitRead; split
  · exact Quiet.refl s
  · dsimp only; split
    · exact (quiet_log _ (.enqueued _ _) rfl).trans (quiet_doRead _)
    · exact quiet_doRead _

theorem quiet_onClose : Quiet s s.onClose := by
  unfold onClose; split
  · exact Quiet.refl s
  · refine Quiet.trans ?_ (quiet_closeStream _ _)
    split
    · exact quiet_log s (.closeFrame _) rfl
    · exact Quiet.refl s

theorem quiet_complete (o : Op) (ok : Bool) (msg : String) : Quiet s (s.complete o ok msg) := by
  unfold complete; split
  all_goals (try split) <;> exact quiet_of_eq rfl rfl

/-- A successful `on_handshake` resets the counter and arms nothing. -/
theorem quiet_onHandshake (cb : Option (List String)) : Quiet s (s.onHandshake cfg cb true) := by
  let s₁ : Session := { s with
    connected := true, connectionState := .Connected, retryCount := 0
    live := s.ws, liveSince := s.trace.length }
  have hreset : Quiet s s₁ := ⟨rfl, .inr rfl⟩
  simp only [onHandshake, if_true]
  split
  · exact hreset.trans
      (((quiet_log s₁ .onReconnect rfl).trans (quiet_foldl_send _ _)).trans (quiet_doRead _))
  · exact hreset.trans (quiet_doRead _)

/-! ## Handlers that arm the timer -/

/-- A failed `SSL_set_tlsext_host_name` ends `attempt_reconnect_async` with
`schedule_reconnect`. -/
theorem quietOrSchedules_attemptReconnectAsync (sniOk : Bool) :
    QuietOrSchedules cfg s (s.attemptReconnectAsync cfg sniOk) := by
  have h : Quiet s { s with connectionState := .Connecting }.newStream :=
    quiet_of_eq (trace_newStream _) (retryCount_newStream _)
  unfold attemptReconnectAsync; split
  · exact .inl (h.trans (quiet_of_eq rfl rfl))
  · exact .inr ⟨_, h, rfl⟩

theorem quietOrSchedules_onFailure : QuietOrSchedules cfg s (s.onFailure cfg) := by
  unfold onFailure; split
  · exact .inr ⟨s.disconnect, quiet_of_eq rfl rfl, rfl⟩
  · exact .inl (quiet_closeOnIo s)

theorem quietOrSchedules_onWrite (msg : String) (ok : Bool) :
    QuietOrSchedules cfg s (s.onWrite cfg msg ok) := by
  unfold onWrite; split
  · split
    · exact .inl (Quiet.refl s)
    · split
      · exact .inl (quiet_log s (.written _ _) rfl)
      · exact quietOrSchedules_onFailure cfg s
  · exact .inl (Quiet.refl s)

theorem quietOrSchedules_runHandler (cb : Option (List String)) (callOk : Bool) (h : Handler) :
    QuietOrSchedules cfg s (s.runHandler cfg cb callOk h) := by
  have sched : QuietOrSchedules cfg s (s.scheduleReconnect cfg) := .inr ⟨s, Quiet.refl s, rfl⟩
  cases h with
  | read g msg =>
    cases msg with
    | none => exact quietOrSchedules_onFailure cfg s
    | some msg => exact .inl (quiet_of_eq rfl rfl)
  | write msg => exact quietOrSchedules_onWrite cfg s msg callOk
  | wait ok =>
    cases ok with
    | false => exact .inl (Quiet.refl s)
    | true => exact quietOrSchedules_attemptReconnectAsync cfg s callOk
  | resolve _ ok =>
    cases ok with
    | false => exact sched
    | true =>
      refine .inl ?_
      simp only [runHandler, onResolve, if_true]
      split
      · exact Quiet.refl s
      · rename_i g _
        exact (quiet_closeStream s g).trans (quiet_of_eq rfl rfl)
  | connect _ ok =>
    cases ok with
    | false => exact sched
    | true => exact .inl (quiet_startHandshake s _ _)
  | sslHandshake _ ok =>
    cases ok with
    | false => exact sched
    | true => exact .inl (quiet_startHandshake s _ _)
  | handshake _ ok =>
    cases ok with
    | false => exact sched
    | true => exact .inl (quiet_onHandshake cfg s cb)
  | close => exact .inl (quiet_onClose s)

theorem quietOrSchedules_connect (ok : Bool) : QuietOrSchedules cfg s (s.connect cfg ok) := by
  let s₁ := { s with
    connectionState := .Connecting, connected := false, live := none, ioStarted := true }.newStream
  have h₁ : Quiet s s₁ := quiet_of_eq (trace_newStream _) (retryCount_newStream _)
  simp only [connect]
  split
  · refine .inl (h₁.trans (Quiet.trans ?_ (quiet_doRead _)))
    exact ⟨rfl, .inr rfl⟩
  · split
    · exact .inr ⟨s₁, h₁, rfl⟩
    · exact .inl (h₁.trans (quiet_of_eq rfl rfl))

variable {cfg} (cb : Option (List String))

/-- Every step arms the timer at most once, and only by a `schedule_reconnect` it ends with. -/
theorem step_quietOrSchedules {a : Action} {s s' : Session} (h : step cfg cb a s = some s') :
    QuietOrSchedules cfg s s' := by
  have guarded : ∀ {p : Prop} [Decidable p] {t}, (if p then some t else none) = some s' →
      t = s' := fun h => Option.some.inj (Option.ite_none_right_eq_some.mp h).2
  cases a with
  | connect ok => cases guarded h; exact quietOrSchedules_connect cfg s ok
  | send msg => cases guarded h; exact .inl (quiet_send s msg)
  | getNextMessage => cases guarded h; exact .inl (quiet_of_eq rfl rfl)
  | simulateNetworkFailure =>
    cases guarded h
    refine .inl ?_
    unfold simulateNetworkFailure; split
    · exact Quiet.refl s
    · exact quiet_closeStream s _
  | closeExchange => cases guarded h; exact .inl (quiet_of_eq rfl rfl)
  | closePost =>
    simp only [step] at h; split at h
    · cases h; refine .inl ?_
      split
      · exact (quiet_post s .close).trans (quiet_of_eq rfl rfl)
      · exact quiet_of_eq rfl rfl
    · cases h
  | closeStop => cases guarded h; exact .inl (quiet_of_eq rfl rfl)
  | io w =>
    obtain ⟨-, h⟩ := Option.ite_none_right_eq_some.mp h
    split at h
    · cases h; exact .inl (quiet_commitRead s)
    · cases h
      exact QuietOrSchedules.quiet cfg (quiet_of_eq rfl rfl)
        (quietOrSchedules_runHandler cfg _ cb w _)
    · cases h
  | complete i ok msg =>
    simp only [step, Option.map_eq_some'] at h
    obtain ⟨o, -, rfl⟩ := h
    exact .inl (quiet_complete s o ok msg)

/-! ## The armings of a run -/

/-- The armings so far: the counter is not negative; each arming counts one more than the one
before it or restarts at 1; every count lies between 1 and the attempt limit; and a counter
above zero is the count of the last arming. -/
structure ArmedChain (cfg : RetryConfig) (s : Session) : Prop where
  retryCount_nonneg : 0 ≤ s.retryCount
  chain : (armedCounts s.trace).Chain' fun k k' => k' = k + 1 ∨ k' = 1
  bounds : ∀ k ∈ armedCounts s.trace, 1 ≤ k ∧ k ≤ cfg.retryMaxAttempts
  last : s.retryCount = 0 ∨ (armedCounts s.trace).getLast? = some s.retryCount

theorem ArmedChain.quiet {s s' : Session} (h : ArmedChain cfg s) (hq : Quiet s s') :
    ArmedChain cfg s' := by
  obtain ⟨hc, hr⟩ := hq
  have hchain := h.chain
  have hbounds := h.bounds
  have hlast := h.last
  rw [← hc] at hchain hbounds hlast
  rcases hr with hr | hr
  · rw [← hr] at hlast
    exact ⟨hr ▸ h.retryCount_nonneg, hchain, hbounds, hlast⟩
  · exact ⟨hr ▸ le_rfl, hchain, hbounds, .inl hr⟩

/-- `schedule_reconnect` gives up without arming, or arms for one more than the counter. -/
theorem ArmedChain.scheduleReconnect {s : Session} (h : ArmedChain cfg s) :
    ArmedChain cfg (s.scheduleReconnect cfg) := by
  unfold Session.scheduleReconnect
  split
  · exact h.quiet (quiet_of_eq rfl rfl)
  · rename_i hlt
    have hcounts : armedCounts (s.trace ++ [.armed (s.retryCount + 1)]) =
        armedCounts s.trace ++ [s.retryCount + 1] := by
      simp [armedCounts, Event.armed?]
    have h0 := h.retryCount_nonneg
    refine ⟨show 0 ≤ s.retryCount + 1 by omega, ?_, ?_, .inr (by simp [hcounts])⟩
    · rw [hcounts, List.chain'_append]
      refine ⟨h.chain, List.chain'_singleton _, fun x hx y hy => ?_⟩
      cases hy
      rcases h.last with h0 | hl
      · exact .inr (by rw [h0]; rfl)
      · rw [hl] at hx; cases hx; exact .inl rfl
    · intro k hk
      rw [hcounts, List.mem_append, List.mem_singleton] at hk
      rcases hk with hk | rfl
      · exact h.bounds k hk
      · constructor <;> omega

theorem ArmedChain.step {a : Action} {s s' : Session} (h : ArmedChain cfg s)
    (hs : step cfg cb a s = some s') : ArmedChain cfg s' := by
  rcases step_quietOrSchedules cb hs with hq | ⟨t, hq, rfl⟩
  · exact h.quiet hq
  · exact (h.quiet hq).scheduleReconnect

/-- Connected on stream 0 with a send queued, the socket fails: the write handler runs first
and fails, then the cancelled read's handler runs. -/
def outageTrace : List Action :=
  [.connect true, .send "m", .simulateNetworkFailure, .io false, .io true]

theorem one_outage_arms_twice :
    (∃ s, Reachable defaultRetry none s ∧ armedCounts s.trace = [1, 2] ∧ s.pending = [.wait] ∧
      reconnectDelay defaultBackoff 1 = 1000 ∧ reconnectDelay defaultBackoff 2 = 2000) ∧
    (∃ s s', Reachable ⟨true, 1⟩ none s ∧ s.connectionState = .Disconnected ∧ .wait ∈ s.pending ∧
      run ⟨true, 1⟩ none [.complete 0 true "", .io true] s = some s' ∧
      s'.connectionState = .Connecting) ∧
    reconnectDelay ⟨1000, 30000, .fin (1 / 2)⟩ 2 < reconnectDelay ⟨1000, 30000, .fin (1 / 2)⟩ 1 := by
  refine ⟨⟨_, Reachable.init.run defaultRetry none
    (show run defaultRetry none outageTrace init = some _ from rfl), by decide, by decide, ?_, ?_⟩,
    ⟨_, _, Reachable.init.run ⟨true, 1⟩ none
      (show run ⟨true, 1⟩ none outageTrace init = some _ from rfl), by decide, by decide, rfl,
      by decide⟩, ?_⟩
  all_goals rw [reconnectDelay_fin _ rfl]
  · rw [ofNat_eq_fin]; norm_num [defaultBackoff]
  · rw [ofNat_eq_fin]; norm_num [defaultBackoff]
  · rw [reconnectDelay_fin _ rfl]; norm_num

end Session

end AeroGateway.Network
