import AeroGateway.Network.Client

/-!
# The inbound queue and the process's drop counter

`incoming_queue_` under any interleaving of the io thread's read handler, split at its
`size_approx()` check, with the application thread's `get_next_message`. Each message a read
handler receives is logged with the size its check saw. What the consumer got, then what still
waits, then the message a handler past its check is about to enqueue, is exactly the logged
messages whose check saw room, in read order; the queue never holds more than
`MAX_INCOMING_QUEUE_SIZE`.

`drop_count` is a function-local static of the read handler, one counter for the process, and
`main` makes two clients, OKX's and Bybit's, each with its own io thread. Each thread runs
`++drop_count` without synchronisation, a load and then a store. `Process` runs both clients'
steps in any interleaving, with the counter and the value each io thread loaded. The counter
never exceeds the drops the clients made, and two drops whose increments interleave are counted
once.
-/

namespace AeroGateway.Network

namespace Inbound

/-- The read handler's check saw room. -/
def Room (r : String × Nat) : Prop := r.2 < MAX_INCOMING_QUEUE_SIZE

instance (r : String × Nat) : Decidable (Room r) := inferInstanceAs (Decidable (_ < _))

/-- The message a read handler past its check is about to enqueue: the one whose check saw
room. -/
def entering (ib : Inbound) : List String :=
  match ib.check with
  | some (_, msg, n) => if n < MAX_INCOMING_QUEUE_SIZE then [msg] else []
  | none => []

/-- The read handler is in its drop branch: its check saw no room. -/
def dropping (ib : Inbound) : Bool :=
  match ib.check with
  | some (_, _, n) => decide (MAX_INCOMING_QUEUE_SIZE ≤ n)
  | none => false

/-- The drops the read handler has finished: the logged messages whose check saw no room, but
one still in its drop branch. -/
def drops (ib : Inbound) : Nat :=
  ib.reads.countP (fun r => ¬Room r) - if ib.dropping then 1 else 0

/-- The queue's invariant: delivered, waiting and entering messages are those whose check saw
room, the cap holds, and a pending check is logged and saw no fewer entries than are left. -/
structure Valid (ib : Inbound) : Prop where
  delivered_append_queue :
    ib.delivered ++ ib.queue ++ ib.entering = (ib.reads.filter Room).map Prod.fst
  queue_le : ib.queue.length ≤ MAX_INCOMING_QUEUE_SIZE
  queue_le_check : ∀ c ∈ ib.check, ib.queue.length ≤ c.2.2
  check_logged : ∀ c ∈ ib.check, c.2 ∈ ib.reads

theorem valid_empty : empty.Valid :=
  ⟨rfl, by decide, (fun _ h => nomatch h), fun _ h => nomatch h⟩

/-- The check logs the message with the size it saw. -/
theorem Valid.observe {ib : Inbound} (h : ib.Valid) (hc : ib.check = none) (g : Nat)
    (msg : String) : (ib.observe g msg).Valid := by
  have hd := h.delivered_append_queue
  simp only [entering, hc, List.append_nil, Room] at hd
  refine ⟨?_, h.queue_le, by simp [Inbound.observe], by simp [Inbound.observe]⟩
  by_cases hr : ib.queue.length < MAX_INCOMING_QUEUE_SIZE <;>
    simp [Inbound.observe, entering, Room, hr, ← hd, List.filter_append]

/-- Enqueueing after a check that saw room keeps the cap: only dequeues ran since. -/
theorem Valid.commit {ib : Inbound} (h : ib.Valid) : ib.commit.Valid := by
  unfold Inbound.commit
  split
  · exact h
  · rename_i g msg n hc
    have hn : ib.queue.length ≤ n := h.queue_le_check _ hc
    have hd := h.delivered_append_queue
    simp only [entering, hc] at hd
    split
    · rename_i hr
      rw [if_pos hr] at hd
      refine ⟨by simpa [entering] using hd, ?_, (fun _ hc => nomatch hc), fun _ hc => nomatch hc⟩
      simp only [List.length_append, List.length_singleton]
      omega
    · rename_i hr
      rw [if_neg hr] at hd
      exact ⟨by simpa [entering] using hd, h.queue_le, (fun _ hc => nomatch hc),
        fun _ hc => nomatch hc⟩

/-- A dequeue moves the oldest message to the consumer. -/
theorem Valid.dequeue {ib : Inbound} (h : ib.Valid) : ib.dequeue.Valid := by
  unfold Inbound.dequeue
  split
  · exact h
  · rename_i msg rest hq
    have hq' := h.queue_le_check
    have hl := h.queue_le
    rw [hq] at hq' hl
    refine ⟨?_, Nat.le_of_succ_le hl, fun c hc => Nat.le_of_succ_le (hq' c hc), h.check_logged⟩
    simp [← h.delivered_append_queue, hq, entering]

theorem drops_observe {ib : Inbound} (hc : ib.check = none) (g : Nat) (msg : String) :
    (ib.observe g msg).drops = ib.drops := by
  by_cases hr : MAX_INCOMING_QUEUE_SIZE ≤ ib.queue.length <;>
    simp [drops, dropping, Inbound.observe, hc, Room, hr, List.countP_append]

/-- A commit finishes the drop the handler was in, if any. -/
theorem drops_commit {ib : Inbound} (h : ib.Valid) :
    ib.commit.drops = ib.drops + if ib.dropping then 1 else 0 := by
  rcases hc : ib.check with _ | ⟨g, msg, n⟩
  · simp [Inbound.commit, drops, dropping, hc]
  · have hcount : ib.commit.drops = ib.reads.countP (fun r => ¬Room r) := by
      simp only [Inbound.commit, hc]; split_ifs <;> simp [drops, dropping]
    have hpos : MAX_INCOMING_QUEUE_SIZE ≤ n → 0 < ib.reads.countP (fun r => ¬Room r) :=
      fun hn => List.countP_pos_iff.2 ⟨_, h.check_logged _ hc, by simp [Room]; omega⟩
    rw [hcount]
    by_cases hn : MAX_INCOMING_QUEUE_SIZE ≤ n <;>
      simp only [drops, dropping, hc, hn, decide_True, decide_False, if_true, if_false,
        Bool.false_eq_true]
    · have := hpos hn
      omega
    · rfl

theorem drops_dequeue (ib : Inbound) : ib.dequeue.drops = ib.drops := by
  unfold Inbound.dequeue; split <;> rfl

/-- Observing with room, then committing, enqueues the message and logs it. -/
theorem commit_observe {ib : Inbound} (hc : ib.check = none)
    (hq : ib.queue.length < MAX_INCOMING_QUEUE_SIZE) (g : Nat) (msg : String) :
    (ib.observe g msg).commit =
      { ib with queue := ib.queue ++ [msg], reads := ib.reads ++ [(msg, ib.queue.length)] } := by
  simp [Inbound.observe, Inbound.commit, hq, hc]

end Inbound

namespace Session

variable (cfg : RetryConfig) (s : Session)

/-! ## Only the read handler and `get_next_message` touch the queue -/

@[simp] theorem inbound_post (h : Handler) : (s.post h).inbound = s.inbound := rfl

@[simp] theorem inbound_log (e : Event) : (s.log e).inbound = s.inbound := rfl

@[simp] theorem inbound_closeStream (g : Nat) : (s.closeStream g).inbound = s.inbound := rfl

@[simp] theorem inbound_newStream : s.newStream.inbound = s.inbound := by
  unfold newStream; split <;> rfl

@[simp] theorem inbound_scheduleReconnect : (s.scheduleReconnect cfg).inbound = s.inbound := by
  unfold scheduleReconnect; split <;> rfl

@[simp] theorem inbound_doRead : s.doRead.inbound = s.inbound := by
  unfold doRead; split
  · rfl
  · dsimp only; split <;> rfl

@[simp] theorem inbound_onFailure : (s.onFailure cfg).inbound = s.inbound := by
  unfold onFailure closeOnIo; split
  · simp [disconnect]
  · split <;> rfl

@[simp] theorem inbound_startHandshake (before : Phase) (op : Nat → Op) :
    (s.startHandshake before op).inbound = s.inbound := by
  unfold startHandshake; split
  · rfl
  · split <;> rfl

@[simp] theorem inbound_send (msg : String) : (s.send msg).inbound = s.inbound := by
  unfold send; split <;> rfl

@[simp] theorem inbound_foldl_send (msgs : List String) :
    (msgs.foldl send s).inbound = s.inbound := by
  induction msgs generalizing s with
  | nil => rfl
  | cons m ms ih => simp [ih]

@[simp] theorem inbound_onWrite (msg : String) (ok : Bool) :
    (s.onWrite cfg msg ok).inbound = s.inbound := by
  unfold onWrite; split
  · split
    · rfl
    · split <;> simp
  · rfl

@[simp] theorem inbound_attemptReconnectAsync (sniOk : Bool) :
    (s.attemptReconnectAsync cfg sniOk).inbound = s.inbound := by
  unfold attemptReconnectAsync; split <;> simp

@[simp] theorem inbound_onResolve (ok : Bool) : (s.onResolve cfg ok).inbound = s.inbound := by
  unfold onResolve; split
  · split <;> rfl
  · simp

@[simp] theorem inbound_onConnect (ok : Bool) : (s.onConnect cfg ok).inbound = s.inbound := by
  unfold onConnect; split <;> simp

@[simp] theorem inbound_onSslHandshake (ok : Bool) :
    (s.onSslHandshake cfg ok).inbound = s.inbound := by
  unfold onSslHandshake; split <;> simp

@[simp] theorem inbound_onHandshake (cb : Option (List String)) (ok : Bool) :
    (s.onHandshake cfg cb ok).inbound = s.inbound := by
  unfold onHandshake; split
  · dsimp only; split <;> simp
  · simp

@[simp] theorem inbound_onClose : s.onClose.inbound = s.inbound := by
  unfold onClose; split
  · rfl
  · split <;> rfl

/-- Every handler but a successful read leaves the queue alone. -/
theorem inbound_runHandler (cb : Option (List String)) (callOk : Bool) (h : Handler)
    (hh : ∀ g msg, h ≠ .read g (some msg)) :
    (s.runHandler cfg cb callOk h).inbound = s.inbound := by
  cases h with
  | read g msg => cases msg with
    | none => exact inbound_onFailure cfg s
    | some msg => exact absurd rfl (hh g msg)
  | wait ok => cases ok <;> simp [runHandler]
  | _ => simp [runHandler]

@[simp] theorem inbound_connect (ok : Bool) : (s.connect cfg ok).inbound = s.inbound := by
  unfold connect; split
  · simp
  · split <;> simp

@[simp] theorem inbound_simulateNetworkFailure :
    s.simulateNetworkFailure.inbound = s.inbound := by
  unfold simulateNetworkFailure; split <;> rfl

@[simp] theorem inbound_complete (o : Op) (ok : Bool) (msg : String) :
    (s.complete o ok msg).inbound = s.inbound := by
  unfold complete; split
  all_goals first | rfl | (split <;> rfl)

/-- The commit step's queue is the committed queue. -/
theorem inbound_commitRead : s.commitRead.inbound = s.inbound.commit := by
  unfold commitRead; split
  · rename_i hc; simp [Inbound.commit, hc]
  · split <;> simp

/-- What a step can do to the queue: nothing, a check while none is pending, a commit by the
io thread, or a dequeue. -/
theorem inbound_step {cb : Option (List String)} {a : Action} {s s' : Session}
    (h : step cfg cb a s = some s') :
    s'.inbound = s.inbound ∨
      (s.inbound.check = none ∧ ∃ g msg, s'.inbound = s.inbound.observe g msg) ∨
      ((∃ w, a = .io w) ∧ s'.inbound = s.inbound.commit) ∨ s'.inbound = s.inbound.dequeue := by
  cases a with
  | io callOk =>
    obtain ⟨-, h⟩ := Option.ite_none_right_eq_some.mp h
    rcases hc : s.inbound.check with _ | c
    · rcases hr : s.ready with _ | ⟨hd, rest⟩ <;> simp only [hc, hr, reduceCtorEq] at h
      cases h
      by_cases hm : ∃ g msg, hd = Handler.read g (some msg)
      · obtain ⟨g, msg, rfl⟩ := hm
        exact .inr (.inl ⟨rfl, g, msg, rfl⟩)
      · push_neg at hm
        exact .inl (inbound_runHandler cfg _ cb callOk hd hm)
    · simp only [hc, Option.some.injEq] at h
      subst h
      exact .inr (.inr (.inl ⟨⟨callOk, rfl⟩, inbound_commitRead s⟩))
  | complete i ok msg =>
    simp only [step, Option.map_eq_some'] at h
    obtain ⟨o, -, rfl⟩ := h
    exact .inl (inbound_complete s o ok msg)
  | getNextMessage =>
    obtain ⟨-, ⟨⟩⟩ := Option.ite_none_right_eq_some.mp h
    exact .inr (.inr (.inr rfl))
  | closePost =>
    simp only [step] at h; split at h
    · cases h; left; split <;> rfl
    · cases h
  | _ =>
    simp only [step] at h; split at h
    all_goals cases h
    all_goals (left; first | rfl | simp)

/-- Every step keeps the queue's invariant. -/
theorem inbound_valid_of_step {cb : Option (List String)} {a : Action} {s s' : Session}
    (hv : s.inbound.Valid) (h : step cfg cb a s = some s') : s'.inbound.Valid := by
  rcases inbound_step cfg h with he | ⟨hc, g, msg, he⟩ | ⟨-, he⟩ | he <;> rw [he]
  · exact hv
  · exact hv.observe hc g msg
  · exact hv.commit
  · exact hv.dequeue

/-- A step finishes no drop unless it is the io thread's commit in the drop branch. -/
theorem drops_step {cb : Option (List String)} {a : Action} {s s' : Session}
    (hv : s.inbound.Valid) (h : step cfg cb a s = some s')
    (hd : ∀ w, a = .io w → s.inbound.dropping = false) : s'.inbound.drops = s.inbound.drops := by
  rcases inbound_step cfg h with he | ⟨hc, g, msg, he⟩ | ⟨⟨w, hw⟩, he⟩ | he <;> rw [he]
  · exact Inbound.drops_observe hc g msg
  · rw [Inbound.drops_commit hv, hd w hw, if_neg Bool.false_ne_true, Nat.add_zero]
  · exact Inbound.drops_dequeue _

/-- Every reachable session's queue is valid. -/
theorem Reachable.inbound_valid {cb : Option (List String)} {s : Session}
    (h : Reachable cfg cb s) : s.inbound.Valid := by
  induction h with
  | init => exact Inbound.valid_empty
  | step a _ hs ih => exact inbound_valid_of_step cfg ih hs

end Session

/-! ## The two clients of the process -/

/-- `main`'s two WebSocket clients, OKX's (0) and Bybit's (1), each a session with its own io
thread, and what they share: the read handler's `static uint64_t drop_count`, and the value of
it each io thread has loaded for `++drop_count` and not stored yet. -/
structure Process where
  clients : Fin 2 → Session
  /-- `drop_count`. -/
  dropCount : Nat
  /-- The copy of `drop_count` client `i`'s io thread loaded. -/
  loaded : Fin 2 → Option Nat

namespace Process

/-- Both clients before `connect`, the counter zero-initialised. -/
def init : Process := ⟨fun _ => Session.init, 0, fun _ => none⟩

/-- Client `i`'s session becomes `s`. -/
def set (p : Process) (i : Fin 2) (s : Session) : Process :=
  { p with clients := Function.update p.clients i s }

variable (cfg : RetryConfig) (cb : Fin 2 → Option (List String))

/-- A step of client `i`: its application thread, its io thread or its network, as the session
takes it; `cb i` is what its `on_reconnect_` sends. In the drop branch the io thread's
`++drop_count` is a load, then a store, which ends the branch. -/
def step (i : Fin 2) (a : Action) (p : Process) : Option Process :=
  match a, (p.clients i).inbound.dropping, p.loaded i with
  | .io _, true, none =>
    if (p.clients i).ioStarted ∧ ¬(p.clients i).stopped then
      some { p with loaded := Function.update p.loaded i (some p.dropCount) }
    else none
  | .io _, true, some v =>
    if (p.clients i).ioStarted ∧ ¬(p.clients i).stopped then
      some { p.set i (p.clients i).commitRead with
        dropCount := v + 1, loaded := Function.update p.loaded i none }
    else none
  | a, _, _ => (Session.step cfg (cb i) a (p.clients i)).map (p.set i)

/-- Steps in order, failing at the first that is not enabled. -/
def run : List (Fin 2 × Action) → Process → Option Process
  | [], p => some p
  | (i, a) :: as, p => (step cfg cb i a p).bind (run as)

/-- The states reachable from `init` by enabled steps of either client. -/
inductive Reachable : Process → Prop
  | init : Reachable init
  | step {p p' : Process} (i : Fin 2) (a : Action) :
    Reachable p → step cfg cb i a p = some p' → Reachable p'

theorem Reachable.run {p p' : Process} (h : Reachable cfg cb p) :
    ∀ {as : List (Fin 2 × Action)}, Process.run cfg cb as p = some p' → Reachable cfg cb p'
  | [], hr => Option.some.inj hr ▸ h
  | (i, a) :: as, hr => by
    obtain ⟨q, hq, hr⟩ := Option.bind_eq_some.mp hr
    exact (h.step i a hq).run hr

theorem run_append (as bs : List (Fin 2 × Action)) (p : Process) :
    run cfg cb (as ++ bs) p = (run cfg cb as p).bind (run cfg cb bs) := by
  induction as generalizing p with
  | nil => rfl
  | cons a as ih =>
    obtain ⟨i, a⟩ := a
    show (step cfg cb i a p).bind (run cfg cb (as ++ bs)) =
      ((step cfg cb i a p).bind (run cfg cb as)).bind (run cfg cb bs)
    rw [Option.bind_assoc]
    exact congrArg _ (funext ih)

variable {p : Process} {i : Fin 2}

@[simp] theorem clients_set_self (s : Session) : (p.set i s).clients i = s :=
  Function.update_same _ _ _

theorem clients_set_ne {j : Fin 2} (h : j ≠ i) (s : Session) : (p.set i s).clients j = p.clients j :=
  Function.update_noteq h _ _

@[simp] theorem set_set (s s' : Session) : (p.set i s).set i s' = p.set i s' := by
  simp [set, Function.update_idem]

@[simp] theorem dropCount_set (s : Session) : (p.set i s).dropCount = p.dropCount := rfl

@[simp] theorem loaded_set (s : Session) : (p.set i s).loaded = p.loaded := rfl

/-- Outside the drop branch, a client's step is its session's. -/
theorem step_eq_map {a : Action} (hd : ∀ w, a = .io w → (p.clients i).inbound.dropping = false) :
    step cfg cb i a p = (Session.step cfg (cb i) a (p.clients i)).map (p.set i) := by
  cases a with
  | io w => simp only [step, hd w rfl]
  | _ => rfl

/-- The drops both clients have finished. -/
def drops (p : Process) : Nat := (p.clients 0).inbound.drops + (p.clients 1).inbound.drops

/-- A client whose finished drops are as before leaves the total as before. -/
theorem drops_set {s : Session} (h : s.inbound.drops = (p.clients i).inbound.drops + k) :
    (p.set i s).drops = p.drops + k := by
  revert h
  refine Fin.cases ?_ (Fin.cases ?_ fun j => j.elim0) i <;> intro h <;>
    simp [drops, set, Function.update_noteq, h] <;> omega

/-- The process's invariant: each client's queue is valid, and neither the counter nor a copy
an io thread loaded exceeds the drops made. -/
structure Valid (p : Process) : Prop where
  inbound_valid : ∀ i, (p.clients i).inbound.Valid
  dropCount_le : p.dropCount ≤ p.drops
  loaded_le : ∀ i v, p.loaded i = some v → v ≤ p.drops

theorem valid_init : init.Valid :=
  ⟨fun _ => Inbound.valid_empty, Nat.zero_le _, fun _ _ h => nomatch h⟩

theorem Valid.set {s : Session} (h : p.Valid) (hv : s.inbound.Valid)
    (hd : s.inbound.drops = (p.clients i).inbound.drops + k) : (p.set i s).Valid := by
  have hdrops := drops_set hd
  refine ⟨fun j => ?_, by rw [hdrops]; exact h.dropCount_le.trans (Nat.le_add_right _ _),
    fun j v hv => by rw [hdrops]; exact (h.loaded_le j v hv).trans (Nat.le_add_right _ _)⟩
  by_cases hj : j = i
  · subst hj; simpa using hv
  · rw [clients_set_ne hj]; exact h.inbound_valid j

/-- Changing one io thread's copy keeps every copy within a bound the new one is within. -/
theorem update_loaded_le {f : Fin 2 → Option Nat} {d : Nat} (hf : ∀ j v, f j = some v → v ≤ d)
    {o : Option Nat} (ho : ∀ v, o = some v → v ≤ d) :
    ∀ j v, Function.update f i o j = some v → v ≤ d := fun j v hv => by
  rw [Function.update_apply] at hv
  split_ifs at hv
  · exact ho v hv
  · exact hf j v hv

/-- Every step keeps the invariant: a store sets the counter to one more than a copy that
counted no more than the drops made before the drop it finishes. -/
theorem Valid.step {a : Action} {p' : Process} (h : p.Valid) (hs : step cfg cb i a p = some p') :
    p'.Valid := by
  have hv := h.inbound_valid i
  by_cases hio : ∃ w, a = .io w ∧ (p.clients i).inbound.dropping = true
  · obtain ⟨w, rfl, hd⟩ := hio
    cases hl : p.loaded i with
    | none =>
      simp only [Process.step, hd, hl] at hs
      obtain ⟨-, ⟨⟩⟩ := Option.ite_none_right_eq_some.mp hs
      exact ⟨h.inbound_valid, h.dropCount_le,
        update_loaded_le h.loaded_le fun _ hv => Option.some.inj hv ▸ h.dropCount_le⟩
    | some v =>
      simp only [Process.step, hd, hl] at hs
      obtain ⟨-, ⟨⟩⟩ := Option.ite_none_right_eq_some.mp hs
      have hc : (p.clients i).commitRead.inbound.drops = (p.clients i).inbound.drops + 1 := by
        rw [Session.inbound_commitRead, Inbound.drops_commit hv, hd, if_pos rfl]
      have h' := h.set (Session.inbound_commitRead _ ▸ hv.commit) hc
      refine ⟨h'.inbound_valid, ?_, update_loaded_le h'.loaded_le fun _ hv => nomatch hv⟩
      have := h.loaded_le i v hl
      show v + 1 ≤ (p.set i (p.clients i).commitRead).drops
      rw [drops_set hc]; omega
  · push_neg at hio
    have hd : ∀ w, a = .io w → (p.clients i).inbound.dropping = false := fun w hw => by
      simpa using hio w hw
    rw [step_eq_map cfg cb hd, Option.map_eq_some'] at hs
    obtain ⟨s, hs, rfl⟩ := hs
    exact h.set (Session.inbound_valid_of_step cfg hv hs)
      ((Session.drops_step cfg hv hs hd).trans (Nat.add_zero _).symm)

/-- Over every interleaving of the two clients' steps, each client's consumer has had exactly
the messages whose check found room, once each and in read order, and the rest wait or are
being enqueued; each queue stays within `MAX_INCOMING_QUEUE_SIZE`; and `drop_count` never
exceeds the drops the clients made. -/
theorem Reachable.valid {p : Process} (h : Reachable cfg cb p) : p.Valid := by
  induction h with
  | init => exact valid_init
  | step i a _ hs ih => exact ih.step cfg cb hs

end Process

/-! ## Two drops, one count -/

namespace Session

variable (cfg : RetryConfig) (cb : Option (List String)) {s : Session} {g : Nat}

/-- A connected session whose io thread waits on a read outstanding on the open stream `g`. -/
structure Reading (s : Session) (g : Nat) : Prop where
  ioStarted_eq : s.ioStarted = true
  stopped_eq : s.stopped = false
  ws_eq : s.ws = some g
  phase_eq : s.phase g = .opened
  pending_eq : s.pending = [.read g]
  ready_eq : s.ready = []
  check_eq : s.inbound.check = none

/-- The outstanding read completed with `msg`: its handler is ready. -/
def readDone (s : Session) (g : Nat) (msg : String) : Session :=
  { s with pending := [], ready := [.read g (some msg)] }

/-- The read handler ran up to its check. -/
def readChecked (s : Session) (g : Nat) (msg : String) : Session :=
  { s with pending := [], ready := [], inbound := s.inbound.observe g msg }

theorem Reading.step_complete (h : Reading s g) (msg : String) :
    step cfg cb (.complete 0 true msg) s = some (s.readDone g msg) := by
  simp [step, h.pending_eq, h.ready_eq, complete, Op.handler, readDone]

theorem Reading.step_check (h : Reading s g) (msg : String) :
    step cfg cb (.io true) (s.readDone g msg) = some (s.readChecked g msg) := by
  simp [step, readDone, readChecked, h.ioStarted_eq, h.stopped_eq, h.check_eq, runHandler,
    onRead]

theorem Reading.step_commit (h : Reading s g) (msg : String) :
    step cfg cb (.io true) (s.readChecked g msg) = some (s.readChecked g msg).commitRead := by
  simp [step, readChecked, Inbound.observe, h.ioStarted_eq, h.stopped_eq]

/-- `do_read` on the open stream `g` with nothing outstanding starts the read to wait on. -/
theorem Reading.doRead {t : Session} (hi : t.ioStarted = true) (hs : t.stopped = false)
    (hw : t.ws = some g) (hp : t.phase g = .opened) (hpe : t.pending = []) (hr : t.ready = [])
    (hc : t.inbound.check = none) : Reading t.doRead g := by
  simp only [Session.doRead, hw, log, hp, if_true]
  exact ⟨hi, hs, rfl, hp, by rw [hpe]; rfl, hr, hc⟩

/-- After the check and the commit, the message is logged with the size seen, and no check is
pending. -/
theorem inbound_commitRead_readChecked (s : Session) (g : Nat) (msg : String) :
    ((s.readChecked g msg).commitRead).inbound.check = none ∧
      ((s.readChecked g msg).commitRead).inbound.reads =
        s.inbound.reads ++ [(msg, s.inbound.queue.length)] := by
  rw [inbound_commitRead]
  simp only [readChecked, Inbound.observe, Inbound.commit]
  split_ifs <;> exact ⟨rfl, rfl⟩

/-- After the commit, the io thread waits on the next read. -/
theorem Reading.commitRead (h : Reading s g) (msg : String) :
    Reading (s.readChecked g msg).commitRead g := by
  have hc : ((s.inbound.observe g msg).commit).check = none := by
    simp only [Inbound.observe, Inbound.commit]; split_ifs <;> rfl
  simp only [Session.commitRead, readChecked, Inbound.observe]
  split_ifs <;>
    exact Reading.doRead h.ioStarted_eq h.stopped_eq h.ws_eq h.phase_eq rfl rfl hc

end Session

namespace Process

variable (cfg : RetryConfig) (cb : Fin 2 → Option (List String)) {p : Process} {i : Fin 2}

/-- Client `i` receives `msg` on its read and its handler runs up to its check. -/
def readOne (i : Fin 2) (msg : String) : List (Fin 2 × Action) :=
  [(i, .complete 0 true msg), (i, .io true)]

/-- Client `i` receives `msg` on its read and its handler runs to the end. -/
def round (i : Fin 2) (msg : String) : List (Fin 2 × Action) := readOne i msg ++ [(i, .io true)]

/-- `k` rounds of client `i` receiving `msg`. -/
def fill (i : Fin 2) (msg : String) : Nat → List (Fin 2 × Action)
  | 0 => []
  | k + 1 => round i msg ++ fill i msg k

/-- A read takes the waiting client to its check. -/
theorem run_readOne {g : Nat} (h : (p.clients i).Reading g) (msg : String) :
    run cfg cb (readOne i msg) p = some (p.set i ((p.clients i).readChecked g msg)) := by
  have hnd : (p.clients i).inbound.dropping = false := by simp [Inbound.dropping, h.check_eq]
  simp only [readOne, run]
  rw [step_eq_map cfg cb (fun _ h => by cases h), h.step_complete cfg (cb i) msg,
    Option.map_some', Option.some_bind, step_eq_map cfg cb (fun _ _ => by simpa using hnd),
    clients_set_self, h.step_check cfg (cb i) msg, Option.map_some', Option.some_bind, set_set]

/-- A round below the cap enqueues the message. -/
theorem run_round {g : Nat} (h : (p.clients i).Reading g)
    (hq : (p.clients i).inbound.queue.length < MAX_INCOMING_QUEUE_SIZE) (msg : String) :
    run cfg cb (round i msg) p = some (p.set i ((p.clients i).readChecked g msg).commitRead) := by
  have hnd : ((p.clients i).readChecked g msg).inbound.dropping = false := by
    simp [Session.readChecked, Inbound.observe, Inbound.dropping, hq]
  rw [round, run_append, run_readOne cfg cb h, Option.some_bind]
  simp only [run]
  rw [step_eq_map cfg cb (fun _ _ => by simpa using hnd), clients_set_self,
    h.step_commit cfg (cb i) msg, Option.map_some', Option.some_bind, set_set]

/-- `k` rounds below the cap enqueue `k` messages, each logged with the size its check saw. -/
theorem run_fill (msg : String) (g : Nat) :
    ∀ k (p : Process), (p.clients i).Reading g →
      (p.clients i).inbound.queue.length + k ≤ MAX_INCOMING_QUEUE_SIZE →
      ∃ s, s.Reading g ∧ s.inbound.check = none ∧
        s.inbound.queue = (p.clients i).inbound.queue ++ List.replicate k msg ∧
        s.inbound.reads = (p.clients i).inbound.reads ++
          (List.range k).map (fun j => (msg, (p.clients i).inbound.queue.length + j)) ∧
        run cfg cb (fill i msg k) p = some (p.set i s)
  | 0, p, h, _ => ⟨p.clients i, h, h.check_eq, by simp, by simp, by simp [fill, run, set]⟩
  | k + 1, p, h, hq => by
    have hq' : (p.clients i).inbound.queue.length < MAX_INCOMING_QUEUE_SIZE := by omega
    have hi := Inbound.commit_observe h.check_eq hq' g msg
    have hr := (h.commitRead msg).check_eq
    have hin : ((p.clients i).readChecked g msg).commitRead.inbound = _ :=
      (Session.inbound_commitRead _).trans hi
    obtain ⟨s, hs, hc, hsq, hsr, hrun⟩ := run_fill msg g k
      (p.set i ((p.clients i).readChecked g msg).commitRead)
      (by simpa using h.commitRead msg) (by simp [hin]; omega)
    refine ⟨s, hs, hc, ?_, ?_, ?_⟩
    · simp [hsq, hin, List.replicate_succ]
    · simp only [hsr, clients_set_self, hin, List.length_append, List.length_singleton,
        List.range_succ_eq_map, List.map_cons, List.map_map, List.append_assoc,
        List.singleton_append, Nat.add_zero]
      congr 3
      funext j
      simp only [Function.comp_apply, Prod.mk.injEq, true_and]
      omega
    · rw [fill, run_append, run_round cfg cb h hq' msg, Option.some_bind, hrun, set_set]

/-- Two io threads in their drop branches interleave their increments, both loads before both
stores: each finishes its drop, and the counter moves by one. -/
theorem run_interleaved_increments (h₀ : (p.clients 0).inbound.dropping = true)
    (h₁ : (p.clients 1).inbound.dropping = true) (hl : ∀ i, p.loaded i = none)
    (hi : ∀ i, (p.clients i).ioStarted = true) (hs : ∀ i, (p.clients i).stopped = false) :
    run cfg cb [(0, .io true), (1, .io true), (0, .io true), (1, .io true)] p =
      some { (p.set 0 (p.clients 0).commitRead).set 1 (p.clients 1).commitRead with
        dropCount := p.dropCount + 1 } := by
  simp [run, step, h₀, h₁, hl, hi, hs, Function.update_noteq, set]
  funext j
  simp only [Function.update_apply]
  split_ifs <;> simp [hl]

/-- The drop scenario on two waiting clients with empty queues: each queue is filled to the cap
with `m`, each client reads `x`, whose check sees no room, and the increments interleave. -/
def lostDrop : List (Fin 2 × Action) :=
  fill 0 "m" MAX_INCOMING_QUEUE_SIZE ++ fill 1 "m" MAX_INCOMING_QUEUE_SIZE ++ readOne 0 "x" ++
    readOne 1 "x" ++ [(0, .io true), (1, .io true), (0, .io true), (1, .io true)]

/-- After `lostDrop` each client has logged the `m`s and then `x`, and finished its drop, while
the counter moved by one. -/
theorem run_lostDrop {g₀ g₁ : Nat} (h₀ : (p.clients 0).Reading g₀)
    (h₁ : (p.clients 1).Reading g₁) (he : ∀ i, (p.clients i).inbound.queue = [])
    (hl : ∀ i, p.loaded i = none) :
    ∃ p', run cfg cb lostDrop p = some p' ∧
      (∀ i, (p'.clients i).inbound.check = none ∧
        (p'.clients i).inbound.reads = (p.clients i).inbound.reads ++
          (List.range MAX_INCOMING_QUEUE_SIZE).map (fun j => ("m", j)) ++
          [("x", MAX_INCOMING_QUEUE_SIZE)]) ∧
      p'.dropCount = p.dropCount + 1 := by
  have h10 : (1 : Fin 2) ≠ 0 := by decide
  obtain ⟨s₀, hs₀, -, hQ₀, hr₀, hrun₀⟩ :=
    run_fill cfg cb (i := 0) "m" g₀ MAX_INCOMING_QUEUE_SIZE p h₀ (by rw [he]; rfl)
  obtain ⟨s₁, hs₁, -, hQ₁, hr₁, hrun₁⟩ := run_fill cfg cb (i := 1) "m" g₁
    MAX_INCOMING_QUEUE_SIZE (p.set 0 s₀) (by rwa [clients_set_ne h10])
    (by rw [clients_set_ne h10, he]; rfl)
  rw [clients_set_ne h10] at hQ₁ hr₁
  rw [he] at hQ₀ hQ₁ hr₀ hr₁
  have hrd₀ := run_readOne cfg cb (p := (p.set 0 s₀).set 1 s₁) (i := 0)
    (by rwa [clients_set_ne h10.symm, clients_set_self]) "x"
  have hrd₁ := run_readOne cfg cb
    (p := ((p.set 0 s₀).set 1 s₁).set 0 (((p.set 0 s₀).set 1 s₁).clients 0 |>.readChecked g₀ "x"))
    (i := 1) (by rwa [clients_set_ne h10, clients_set_self]) "x"
  simp only [clients_set_self, clients_set_ne h10, clients_set_ne h10.symm] at hrd₀ hrd₁
  generalize hq : ((((p.set 0 s₀).set 1 s₁).set 0 (s₀.readChecked g₀ "x")).set 1
    (s₁.readChecked g₁ "x")) = q at hrd₁
  have hq₀ : q.clients 0 = s₀.readChecked g₀ "x" := by
    rw [← hq, clients_set_ne h10.symm, clients_set_self]
  have hq₁ : q.clients 1 = s₁.readChecked g₁ "x" := by rw [← hq, clients_set_self]
  have hfull : ∀ {s : Session} {g : Nat},
      s.inbound.queue = [] ++ List.replicate MAX_INCOMING_QUEUE_SIZE "m" →
      (s.readChecked g "x").inbound.dropping = true := fun hs => by
    simp [Session.readChecked, Inbound.observe, Inbound.dropping, hs]
  have hint := run_interleaved_increments cfg cb (p := q) (hq₀ ▸ hfull hQ₀)
    (hq₁ ▸ hfull hQ₁) (by subst hq; exact hl)
    (Fin.cases (hq₀ ▸ hs₀.ioStarted_eq) (Fin.cases (hq₁ ▸ hs₁.ioStarted_eq) fun j => j.elim0))
    (Fin.cases (hq₀ ▸ hs₀.stopped_eq) (Fin.cases (hq₁ ▸ hs₁.stopped_eq) fun j => j.elim0))
  have hfin : ∀ {s : Session} {g : Nat} {r : List (String × Nat)},
      s.inbound.queue = [] ++ List.replicate MAX_INCOMING_QUEUE_SIZE "m" →
      s.inbound.reads =
        r ++ (List.range MAX_INCOMING_QUEUE_SIZE).map (fun j => ("m", ([] : List String).length + j)) →
      ((s.readChecked g "x").commitRead).inbound.check = none ∧
        ((s.readChecked g "x").commitRead).inbound.reads =
          r ++ (List.range MAX_INCOMING_QUEUE_SIZE).map (fun j => ("m", j)) ++
            [("x", MAX_INCOMING_QUEUE_SIZE)] := fun {s g _} hQ hr => by
    obtain ⟨hc, hr'⟩ := Session.inbound_commitRead_readChecked s g "x"
    exact ⟨hc, by rw [hr', hr, hQ]; simp⟩
  refine ⟨{ (q.set 0 (q.clients 0).commitRead).set 1 (q.clients 1).commitRead with
    dropCount := q.dropCount + 1 }, ?_, Fin.cases ?_ (Fin.cases ?_ fun j => j.elim0),
    by subst hq; rfl⟩
  · rw [lostDrop, run_append, run_append, run_append, run_append, hrun₀, Option.some_bind, hrun₁,
      Option.some_bind, hrd₀, Option.some_bind, hrd₁, Option.some_bind, hint]
  · show (((q.set 0 (q.clients 0).commitRead).set 1 (q.clients 1).commitRead).clients 0).inbound.check
      = none ∧ _
    rw [clients_set_ne h10.symm, clients_set_self, hq₀]
    exact hfin hQ₀ hr₀
  · show (((q.set 0 (q.clients 0).commitRead).set 1 (q.clients 1).commitRead).clients 1).inbound.check
      = none ∧ _
    rw [clients_set_self, hq₁]
    exact hfin hQ₁ hr₁

end Process

/-- Both clients connect and fill their queues to the cap without the application reading;
each then receives one more message, whose check sees no room, and the two io threads' `++`
interleave: load, load, store, store. Two messages were dropped, and `drop_count` is 1. -/
theorem concurrent_drops_counted_once :
    ∃ p, Process.Reachable defaultRetry (fun _ => none) p ∧
      (∀ i, (p.clients i).inbound.check = none ∧
        (p.clients i).inbound.reads.countP (fun r => ¬r.2 < MAX_INCOMING_QUEUE_SIZE) = 1) ∧
      p.dropCount = 1 := by
  have hc : (Session.init.connect defaultRetry true).Reading 0 :=
    ⟨rfl, rfl, rfl, rfl, rfl, rfl, rfl⟩
  have r₀ : Process.Reachable defaultRetry (fun _ => none)
      ((Process.init.set 0 (Session.init.connect defaultRetry true)).set 1
        (Session.init.connect defaultRetry true)) :=
    Process.Reachable.init.run defaultRetry _
      (show Process.run _ _ [(0, .connect true), (1, .connect true)] _ = _ from rfl)
  obtain ⟨p, hrun, hcl, hd⟩ := Process.run_lostDrop defaultRetry (fun _ => none)
    (p := (Process.init.set 0 (Session.init.connect defaultRetry true)).set 1
      (Session.init.connect defaultRetry true)) hc hc
    (Fin.cases rfl (Fin.cases rfl fun j => j.elim0)) (fun _ => rfl)
  have h0 : ∀ i, (((Process.init.set 0 (Session.init.connect defaultRetry true)).set 1
      (Session.init.connect defaultRetry true)).clients i).inbound.reads = [] :=
    Fin.cases rfl (Fin.cases rfl fun j => j.elim0)
  refine ⟨p, r₀.run _ _ hrun, fun i => ⟨(hcl i).1, ?_⟩, hd⟩
  rw [(hcl i).2, h0 i, List.nil_append, List.countP_append, List.countP_eq_zero.2 (by simp)]
  simp [MAX_INCOMING_QUEUE_SIZE]

end AeroGateway.Network
