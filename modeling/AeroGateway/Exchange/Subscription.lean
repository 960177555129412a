import AeroGateway.Network.Live

/-!
# Venue subscriptions across reconnects

`OkxConnection` and `BybitConnection` have one shape and differ only in the adapter's
`generate_subscribe_message`. `subscribe` appends to `active_subscriptions_`, then sends one
message per instrument if the session is connected; `connect` installs `resubscribe` as the
session's `on_reconnect_`, connects, and on success calls `resubscribe` itself. The
application thread's methods are split where the io thread can interleave: after the
`push_back`, after `is_connected()`, and between two sends.
-/

namespace AeroGateway.Exchange

open Network

/-- `BybitAdapter::generate_subscribe_message`. -/
def bybitSubscribeMessage (instrument channel : String) : String :=
  "\x7b\"op\":\"subscribe\",\"args\":[\"" ++ channel ++ "." ++ instrument ++ "\"]\x7d"

/-- An entry of `active_subscriptions_`. -/
structure Subscription where
  instruments : List String
  channel : String
  deriving DecidableEq, Repr

/-- Where the application thread is inside the connection's methods. -/
inductive AppPc
  | idle
  /-- `subscribe` after its `push_back`, before `is_connected()`. -/
  | subscribeCheck (sub : Subscription)
  /-- `subscribe`'s loop, with the instruments still to send. -/
  | subscribeSend (channel : String) (instruments : List String)
  /-- `connect` after the session connected: `resubscribe`, with the messages still to send. -/
  | resubscribe (msgs : List String)
  deriving DecidableEq, Repr

/-- `OkxConnection` or `BybitConnection` with its session. -/
structure Connection where
  session : Session
  /-- `active_subscriptions_`. -/
  activeSubscriptions : List Subscription
  /-- `set_on_reconnect` has installed `resubscribe`. -/
  onReconnectSet : Bool
  pc : AppPc

/-- A step of the venue connection. -/
inductive VenueAction
  /-- `connect()`, whose session connect succeeds when `ok`. -/
  | connect (ok : Bool)
  /-- `subscribe(instruments, channel)` up to its `push_back`. -/
  | subscribe (sub : Subscription)
  /-- The application thread's next step inside `subscribe` or `resubscribe`. -/
  | resume
  /-- A step of the session: the io thread, the network, or the application's
  `get_next_message`, `simulate_network_failure` or `close`. -/
  | session (a : Network.Action)
  deriving DecidableEq, Repr

variable (generateSubscribeMessage : String → String → String)

/-- What `resubscribe` sends, in its order. -/
def resubscribeMessages (subs : List Subscription) : List String :=
  subs.flatMap fun sub => sub.instruments.map (generateSubscribeMessage · sub.channel)

/-- The messages the application thread has yet to send. -/
def AppPc.toSend : AppPc → List String
  | .idle => []
  | .subscribeCheck sub => sub.instruments.map (generateSubscribeMessage · sub.channel)
  | .subscribeSend channel instruments => instruments.map (generateSubscribeMessage · channel)
  | .resubscribe msgs => msgs

namespace Connection

/-- A connection before `connect`. -/
def init : Connection := ⟨Session.init, [], false, .idle⟩

/-- What `on_reconnect_` sends, when it is set. -/
def callback (v : Connection) : Option (List String) :=
  if v.onReconnectSet then some (resubscribeMessages generateSubscribeMessage v.activeSubscriptions)
  else none

/-- The application thread is in none of the connection's methods, nor in `close`. -/
def appIdle (v : Connection) : Prop := v.pc = .idle ∧ v.session.appIdle

instance (v : Connection) : Decidable v.appIdle := inferInstanceAs (Decidable (_ ∧ _))

variable (cfg : RetryConfig)

/-- Run a session step inside the connection. -/
def onSession (a : Network.Action) (v : Connection) : Option Connection :=
  (Session.step cfg (v.callback generateSubscribeMessage) a v.session).map
    fun s => { v with session := s }

/-- One step, when enabled. -/
def step : VenueAction → Connection → Option Connection
  | .connect ok, v =>
    if v.appIdle then
      some { v with
        onReconnectSet := true
        session := v.session.connect cfg ok
        pc := if ok then .resubscribe (resubscribeMessages generateSubscribeMessage
          v.activeSubscriptions) else .idle }
    else none
  | .subscribe sub, v =>
    if v.appIdle then
      some { v with activeSubscriptions := v.activeSubscriptions ++ [sub], pc := .subscribeCheck sub }
    else none
  | .resume, v => match v.pc with
    | .idle => none
    | .subscribeCheck sub =>
      some { v with
        pc := if v.session.connected then .subscribeSend sub.channel sub.instruments else .idle }
    | .subscribeSend _ [] | .resubscribe [] => some { v with pc := .idle }
    | .subscribeSend channel (inst :: rest) =>
      some { v with
        session := v.session.send (generateSubscribeMessage inst channel)
        pc := .subscribeSend channel rest }
    | .resubscribe (msg :: rest) =>
      some { v with session := v.session.send msg, pc := .resubscribe rest }
  | .session a, v => match a with
    | .connect _ | .send _ => none
    | .io _ | .complete _ _ _ => onSession generateSubscribeMessage cfg a v
    | _ => if v.pc = .idle then onSession generateSubscribeMessage cfg a v else none

/-- The connection states reachable from `init`. -/
inductive Reachable : Connection → Prop
  | init : Reachable init
  | step {v v' : Connection} (a : VenueAction) : Reachable v →
      step generateSubscribeMessage cfg a v = some v' → Reachable v'

/-- Steps in order, failing at the first that is not enabled. -/
def run : List VenueAction → Connection → Option Connection
  | [], v => some v
  | a :: as, v => (step generateSubscribeMessage cfg a v).bind (run as)

/-- A run from a reachable state ends in a reachable state. -/
theorem Reachable.run {v v' : Connection} (h : Reachable generateSubscribeMessage cfg v) :
    ∀ {as : List VenueAction}, Connection.run generateSubscribeMessage cfg as v = some v' →
      Reachable generateSubscribeMessage cfg v'
  | [], hr => Option.some.inj hr ▸ h
  | a :: as, hr => by
    obtain ⟨t, ht, hr⟩ := Option.bind_eq_some.mp hr
    exact (h.step a ht).run hr

/-! ## Every registered pair reaches every connection -/

/-- A subscribe message is written on the live connection on `g` since it was made, queued
for writing, or still to be sent by the application thread. -/
def Covered (v : Connection) (g : Nat) (msg : String) : Prop :=
  Event.written g msg ∈ v.session.trace.drop v.session.liveSince ∨
    Handler.write msg ∈ v.session.ready ∨ msg ∈ v.pc.toSend generateSubscribeMessage

/-- The subscription invariant: the live connection is well formed, the callback is set once
the io thread runs, and every registered pair's message is covered on the live connection. -/
structure Covers (v : Connection) : Prop where
  liveValid : v.session.LiveValid
  onReconnectSet_of_ioStarted : v.session.ioStarted = true → v.onReconnectSet = true
  covered : ∀ g, v.session.live = some g →
    ∀ msg ∈ resubscribeMessages generateSubscribeMessage v.activeSubscriptions,
      Covered generateSubscribeMessage v g msg

private theorem mem_drop_of_prefix {l₁ l₂ : List Event} (h : l₁ <+: l₂) {k : Nat} {x : Event}
    (hx : x ∈ l₁.drop k) : x ∈ l₂.drop k := by
  obtain ⟨t, rfl⟩ := h
  rw [List.drop_append_eq_append_drop]
  exact List.mem_append_left _ hx

variable {generateSubscribeMessage} {cfg}

/-- A session step that carries the live connection keeps the invariant. -/
theorem Covers.carries {v : Connection} {s' : Session}
    (hv : Covers generateSubscribeMessage v) (hc : Session.Carries v.session s')
    (hio : s'.ioStarted = true → v.onReconnectSet = true) :
    Covers generateSubscribeMessage { v with session := s' } := by
  refine ⟨hv.liveValid.carries hc, hio, fun g hg msg hmsg => ?_⟩
  obtain ⟨hl, -, -, hls, hp, hw⟩ := hc g hg
  rcases hv.covered g hl msg hmsg with h | h | h
  · left; change _ ∈ s'.trace.drop s'.liveSince
    rw [hls]; exact mem_drop_of_prefix hp h
  · exact (hw msg h).elim (fun h => .inr (.inl h)) .inl
  · exact .inr (.inr h)

/-- A session step taken inside the connection keeps the invariant. -/
theorem Covers.of_onSession {v v' : Connection} (hv : Covers generateSubscribeMessage v)
    {a : Network.Action} (ha : ∀ ok, a ≠ .connect ok)
    (h : onSession generateSubscribeMessage cfg a v = some v') :
    Covers generateSubscribeMessage v' := by
  simp only [onSession, Option.map_eq_some'] at h
  obtain ⟨s', hs, rfl⟩ := h
  rcases Session.step_live_cases cfg hv.liveValid hs with ⟨ok, rfl, -⟩ | ⟨g, rest, hio, -, rfl⟩ | hc
  · exact absurd rfl (ha ok)
  · have hset := hv.onReconnectSet_of_ioStarted hio
    obtain ⟨-, -, -, -, -, hmsgs⟩ := Session.onHandshake_live cfg { v.session with ready := rest }
      (v.callback generateSubscribeMessage)
    refine ⟨hv.liveValid.step cfg hs, fun _ => hset, fun _ _ msg hmsg => .inr (.inl ?_)⟩
    exact hmsgs _ (by simp [callback, hset]) msg hmsg
  · refine hv.carries hc fun hs' => ?_
    rcases Session.ioStarted_step cfg hs hs' with h | ⟨ok, hok⟩
    · exact hv.onReconnectSet_of_ioStarted h
    · exact absurd hok (ha ok)

/-- The application thread's send of `msg` while a connection lives queues it, and keeps
everything else covered. -/
theorem Covers.send {v : Connection} (hv : Covers generateSubscribeMessage v) (msg : String)
    (pc : AppPc) (hpc : ∀ m ∈ v.pc.toSend generateSubscribeMessage,
      m = msg ∨ m ∈ pc.toSend generateSubscribeMessage) :
    Covers generateSubscribeMessage { v with session := v.session.send msg, pc := pc } := by
  have hk := Session.keeps_send v.session msg
  refine ⟨hv.liveValid.carries (Session.KeepsOrLost.carries (.inl hk)),
    fun h => hv.onReconnectSet_of_ioStarted (by rwa [Session.ioStarted_send] at h), fun g hg m hm => ?_⟩
  have hl : v.session.live = some g := hk.live_eq.symm.trans hg
  rcases hv.covered g hl m hm with h | h | h
  · exact .inl (hk.liveSince_eq ▸ mem_drop_of_prefix hk.trace_prefix h)
  · exact .inr (.inl (hk.ready_subset h))
  · rcases hpc m h with rfl | h
    · have hc := (hv.liveValid g hl).1
      exact .inr (.inl (by simp [Session.send, Session.post, hc]))
    · exact .inr (.inr h)

/-- The application thread moving on without a send keeps the invariant, when what it still
had to send while a connection lived it still has to send. -/
theorem Covers.setPc {v : Connection} (hv : Covers generateSubscribeMessage v) (pc : AppPc)
    (hpc : ∀ g, v.session.live = some g → ∀ m ∈ v.pc.toSend generateSubscribeMessage,
      m ∈ pc.toSend generateSubscribeMessage) :
    Covers generateSubscribeMessage { v with pc := pc } :=
  ⟨hv.liveValid, hv.onReconnectSet_of_ioStarted, fun g hg m hm =>
    (hv.covered g hg m hm).imp_right (Or.imp_right (hpc g hg m))⟩

/-- Every step of the connection keeps the invariant. -/
theorem Covers.of_step {v v' : Connection} (hv : Covers generateSubscribeMessage v)
    {a : VenueAction} (h : step generateSubscribeMessage cfg a v = some v') :
    Covers generateSubscribeMessage v' := by
  cases a with
  | connect ok =>
    obtain ⟨-, ⟨⟩⟩ := Option.ite_none_right_eq_some.mp h
    refine ⟨fun g hg => (Session.live_connect cfg _ ok hg).2, fun _ => rfl, fun g hg m hm => ?_⟩
    obtain ⟨rfl, -⟩ := Session.live_connect cfg _ ok hg
    exact .inr (.inr hm)
  | subscribe sub =>
    obtain ⟨hidle, ⟨⟩⟩ := Option.ite_none_right_eq_some.mp h
    refine ⟨hv.liveValid, hv.onReconnectSet_of_ioStarted, fun g hg m hm => ?_⟩
    simp only [resubscribeMessages, List.flatMap_append, List.mem_append] at hm
    rcases hm with hm | hm
    · rcases hv.covered g hg m hm with h | h | h
      · exact .inl h
      · exact .inr (.inl h)
      · rw [hidle.1] at h; cases h
    · exact .inr (.inr (by simpa [AppPc.toSend] using hm))
  | resume =>
    simp only [step] at h
    split at h <;> rename_i hpc <;> cases h
    · exact hv.setPc _ fun g hg m hm => by
        simpa [hpc, (hv.liveValid g hg).1, AppPc.toSend] using hm
    · exact hv.setPc _ fun _ _ m hm => by simp [hpc, AppPc.toSend] at hm
    · exact hv.setPc _ fun _ _ m hm => by simp [hpc, AppPc.toSend] at hm
    · exact hv.send _ _ fun m hm => by simpa [hpc, AppPc.toSend] using hm
    · exact hv.send _ _ fun m hm => by simpa [hpc, AppPc.toSend] using hm
  | session a =>
    cases a with
    | connect ok => simp [step] at h
    | send msg => simp [step] at h
    | io w => exact hv.of_onSession (fun _ e => by cases e) h
    | complete i ok msg => exact hv.of_onSession (fun _ e => by cases e) h
    | _ =>
      simp only [step] at h; split at h
      · exact hv.of_onSession (fun _ e => by cases e) h
      · cases h

variable (generateSubscribeMessage) (cfg)

end Connection

end AeroGateway.Exchange
