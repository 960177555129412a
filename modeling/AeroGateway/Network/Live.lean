import AeroGateway.Network.Client

/-!
# The live connection

What each operation of the session does to the connection made last: it keeps it (its
stream, `connected_`, and everything queued or written so far), or it loses it. Only
`on_handshake` and `connect` make a connection live; a write handler that runs while one
lives writes on it or loses it.
-/

namespace AeroGateway.Network

namespace Session

/-- From `s` to `s'` the live connection stays, and so does what was queued and written. -/
structure Keeps (s s' : Session) : Prop where
  live_eq : s'.live = s.live
  liveSince_eq : s'.liveSince = s.liveSince
  connected_eq : s'.connected = s.connected
  ws_eq : s'.ws = s.ws
  ready_subset : s.ready ⊆ s'.ready
  trace_prefix : s.trace <+: s'.trace

/-- From `s` to `s'` the live connection stays, or none is live afterwards. -/
def KeepsOrLost (s s' : Session) : Prop := Keeps s s' ∨ s'.live = none

theorem Keeps.refl (s : Session) : Keeps s s :=
  ⟨rfl, rfl, rfl, rfl, List.Subset.refl _, List.prefix_refl _⟩

theorem Keeps.trans {s t u : Session} (h₁ : Keeps s t) (h₂ : Keeps t u) : Keeps s u :=
  ⟨h₂.live_eq.trans h₁.live_eq, h₂.liveSince_eq.trans h₁.liveSince_eq,
    h₂.connected_eq.trans h₁.connected_eq, h₂.ws_eq.trans h₁.ws_eq,
    List.Subset.trans h₁.ready_subset h₂.ready_subset, h₁.trace_prefix.trans h₂.trace_prefix⟩

theorem KeepsOrLost.trans {s t u : Session} (h₁ : KeepsOrLost s t) (h₂ : KeepsOrLost t u) :
    KeepsOrLost s u := by
  rcases h₂ with h₂ | h₂
  · rcases h₁ with h₁ | h₁
    · exact .inl (h₁.trans h₂)
    · exact .inr (h₂.live_eq.trans h₁)
  · exact .inr h₂

variable (cfg : RetryConfig) (s : Session)

/-! ## Operations that keep the connection -/

theorem keeps_post (h : Handler) : Keeps s (s.post h) :=
  ⟨rfl, rfl, rfl, rfl, List.subset_append_left _ _, List.prefix_refl _⟩

theorem keeps_log (e : Event) : Keeps s (s.log e) :=
  ⟨rfl, rfl, rfl, rfl, List.Subset.refl _, List.prefix_append _ _⟩

theorem keeps_scheduleReconnect : Keeps s (s.scheduleReconnect cfg) := by
  unfold scheduleReconnect; split
  · exact ⟨rfl, rfl, rfl, rfl, List.Subset.refl _, List.prefix_refl _⟩
  · exact ⟨rfl, rfl, rfl, rfl, List.subset_append_left _ _, List.prefix_append _ _⟩

theorem keeps_doRead : Keeps s s.doRead := by
  unfold doRead; split
  · exact Keeps.refl s
  · dsimp only; split
    · exact (keeps_log s _).trans ⟨rfl, rfl, rfl, rfl, List.Subset.refl _, List.prefix_refl _⟩
    · exact (keeps_log s _).trans (keeps_post _ _)

theorem keeps_startHandshake (before : Phase) (op : Nat → Op) :
    Keeps s (s.startHandshake before op) := by
  unfold startHandshake; split
  · exact Keeps.refl s
  · split
    · exact ⟨rfl, rfl, rfl, rfl, List.Subset.refl _, List.prefix_refl _⟩
    · exact keeps_post s _

theorem keeps_onConnect (ok : Bool) : Keeps s (s.onConnect cfg ok) := by
  unfold onConnect; split
  · exact keeps_startHandshake s _ _
  · exact keeps_scheduleReconnect cfg s

theorem keeps_onSslHandshake (ok : Bool) : Keeps s (s.onSslHandshake cfg ok) := by
  unfold onSslHandshake; split
  · exact keeps_startHandshake s _ _
  · exact keeps_scheduleReconnect cfg s

@[simp] theorem ioStarted_send (msg : String) : (s.send msg).ioStarted = s.ioStarted := by
  unfold send; split <;> rfl

theorem keeps_send (msg : String) : Keeps s (s.send msg) := by
  unfold send; split
  · exact keeps_post s _
  · exact Keeps.refl s

theorem keeps_complete (o : Op) (ok : Bool) (msg : String) : Keeps s (s.complete o ok msg) := by
  unfold complete; split
  all_goals (try split) <;> exact ⟨rfl, rfl, rfl, rfl, List.subset_append_left _ _, List.prefix_refl _⟩

theorem keeps_commitRead : Keeps s s.commitRead := by
  unfold commitRead; split
  · exact Keeps.refl s
  · have hc : Keeps s { s with inbound := s.inbound.commit } :=
      ⟨rfl, rfl, rfl, rfl, List.Subset.refl _, List.prefix_refl _⟩
    dsimp only; split
    · exact (hc.trans (keeps_log _ _)).trans (keeps_doRead _)
    · exact hc.trans (keeps_doRead _)

/-! ## Operations that lose it -/

@[simp] theorem live_newStream : s.newStream.live = none := by
  unfold newStream; split <;> rfl

@[simp] theorem live_closeOnIo : s.closeOnIo.live = none := by
  unfold closeOnIo; split <;> rfl

@[simp] theorem live_onFailure : (s.onFailure cfg).live = none := by
  unfold onFailure; split
  · exact (keeps_scheduleReconnect cfg _).live_eq
  · exact live_closeOnIo s

@[simp] theorem live_attemptReconnectAsync (sniOk : Bool) :
    (s.attemptReconnectAsync cfg sniOk).live = none := by
  unfold attemptReconnectAsync; split
  · exact live_newStream { s with connectionState := .Connecting }
  · rw [(keeps_scheduleReconnect cfg _).live_eq, live_newStream]

/-- Closing a socket loses the connection on it and keeps any other. -/
theorem keepsOrLost_closeStream (g : Nat) : KeepsOrLost s (s.closeStream g) := by
  by_cases hl : s.live = some g
  · exact .inr (by simp [closeStream, hl])
  · exact .inl ⟨by simp [closeStream, hl], rfl, rfl, rfl, List.subset_append_left _ _,
      List.prefix_refl _⟩

/-! ## Handlers -/

theorem keepsOrLost_onResolve (ok : Bool) : KeepsOrLost s (s.onResolve cfg ok) := by
  unfold onResolve; split
  · split
    · exact .inl (Keeps.refl s)
    · exact (keepsOrLost_closeStream s _).trans
        (.inl ⟨rfl, rfl, rfl, rfl, List.Subset.refl _, List.prefix_refl _⟩)
  · exact .inl (keeps_scheduleReconnect cfg s)

theorem keepsOrLost_onClose : KeepsOrLost s s.onClose := by
  unfold onClose; split
  · exact .inl (Keeps.refl s)
  · refine KeepsOrLost.trans (.inl ?_) (keepsOrLost_closeStream _ _)
    split
    · exact keeps_log s _
    · exact Keeps.refl s

theorem keepsOrLost_onWrite (msg : String) (ok : Bool) :
    KeepsOrLost s (s.onWrite cfg msg ok) := by
  unfold onWrite; split
  · split
    · exact .inl (Keeps.refl s)
    · split
      · exact .inl (keeps_log s _)
      · exact .inr (live_onFailure cfg s)
  · exact .inl (Keeps.refl s)

/-- A write handler run while the connection on `g` lives writes on `g`, or loses it. -/
theorem written_onWrite (msg : String) (ok : Bool) {g : Nat} (hc : s.connected = true)
    (hw : s.ws = some g) (hs : s.liveSince ≤ s.trace.length) :
    Event.written g msg ∈ (s.onWrite cfg msg ok).trace.drop s.liveSince ∨
      (s.onWrite cfg msg ok).live = none := by
  simp only [onWrite, hc, hw, if_true]
  split
  · left
    simp [log, List.drop_append_of_le_length hs]
  · exact .inr (live_onFailure cfg s)

theorem keepsOrLost_simulateNetworkFailure : KeepsOrLost s s.simulateNetworkFailure := by
  unfold simulateNetworkFailure; split
  · exact .inl (Keeps.refl s)
  · exact keepsOrLost_closeStream s _

/-- Sends while connected post one write each, in order. -/
theorem ready_foldl_send (msgs : List String) (hc : s.connected = true) :
    (msgs.foldl send s).ready = s.ready ++ msgs.map .write ∧ Keeps s (msgs.foldl send s) := by
  induction msgs generalizing s with
  | nil => exact ⟨by simp, Keeps.refl s⟩
  | cons m ms ih =>
    have hk := keeps_send s m
    obtain ⟨hr, hk'⟩ := ih (s.send m) (hk.connected_eq.trans hc)
    refine ⟨?_, hk.trans hk'⟩
    simp only [List.foldl_cons, hr, List.map_cons]
    simp [send, hc, post]

/-- A successful `on_handshake` makes the current stream's connection live, and the
callback's sends are queued on it. -/
theorem onHandshake_live (cb : Option (List String)) :
    let s' := s.onHandshake cfg cb true
    s'.live = s.ws ∧ s'.liveSince = s.trace.length ∧ s'.connected = true ∧ s'.ws = s.ws ∧
      s.trace <+: s'.trace ∧ ∀ msgs, cb = some msgs → ∀ m ∈ msgs, Handler.write m ∈ s'.ready := by
  let s₁ : Session := { s with
    connected := true, connectionState := .Connected, retryCount := 0
    live := s.ws, liveSince := s.trace.length }
  cases cb with
  | none =>
    have hk := keeps_doRead s₁
    exact ⟨hk.live_eq, hk.liveSince_eq, hk.connected_eq, hk.ws_eq, hk.trace_prefix,
      fun _ h => nomatch h⟩
  | some msgs =>
    obtain ⟨hr, hk⟩ := ready_foldl_send (s₁.log .onReconnect) msgs rfl
    have hk' := (keeps_log s₁ .onReconnect).trans (hk.trans (keeps_doRead _))
    refine ⟨hk'.live_eq, hk'.liveSince_eq, hk'.connected_eq, hk'.ws_eq, hk'.trace_prefix,
      fun ms hms m hm => ?_⟩
    cases hms
    apply (keeps_doRead _).ready_subset
    rw [hr]
    exact List.mem_append_right _ (List.mem_map_of_mem _ hm)

@[simp] theorem ws_newStream : s.newStream.ws = some s.nextStream := by
  unfold newStream; split <;> rfl

/-- Only a successful `connect` leaves a connection live: the new stream's, made at the
current end of the trace. -/
theorem live_connect (ok : Bool) {g : Nat} (h : (s.connect cfg ok).live = some g) :
    ok = true ∧ (s.connect cfg ok).connected = true ∧ (s.connect cfg ok).ws = some g ∧
      (s.connect cfg ok).liveSince ≤ (s.connect cfg ok).trace.length := by
  let s₁ := { s with
    connectionState := .Connecting, connected := false, live := none, ioStarted := true }.newStream
  cases ok with
  | false =>
    exfalso
    simp only [connect, Bool.false_eq_true, if_false] at h
    split at h
    · rw [(keeps_scheduleReconnect cfg _).live_eq, live_newStream] at h; cases h
    · rw [live_newStream] at h; cases h
  | true =>
    have hk := keeps_doRead { s₁ with
      phase := Function.update s₁.phase s.nextStream .opened
      connected := true, connectionState := .Connected, retryCount := 0
      live := some s.nextStream, liveSince := s₁.trace.length }
    simp only [connect, if_true] at h ⊢
    rw [hk.live_eq] at h
    cases h
    exact ⟨trivial, hk.connected_eq, hk.ws_eq.trans (ws_newStream _),
      hk.liveSince_eq ▸ hk.trace_prefix.length_le⟩

/-- Every handler but a successful `on_handshake` keeps the connection or loses it. -/
theorem keepsOrLost_runHandler (cb : Option (List String)) (callOk : Bool) (h : Handler)
    (hh : ∀ g, h ≠ .handshake g true) : KeepsOrLost s (s.runHandler cfg cb callOk h) := by
  cases h with
  | read g msg =>
    rcases msg with _ | msg
    · exact .inr (live_onFailure cfg s)
    · exact .inl ⟨rfl, rfl, rfl, rfl, List.Subset.refl _, List.prefix_refl _⟩
  | write msg => exact keepsOrLost_onWrite cfg s msg callOk
  | wait ok =>
    rcases ok with _ | _
    · exact .inl (Keeps.refl s)
    · exact .inr (live_attemptReconnectAsync cfg s callOk)
  | resolve _ ok => exact keepsOrLost_onResolve cfg s ok
  | connect _ ok => exact .inl (keeps_onConnect cfg s ok)
  | sslHandshake _ ok => exact .inl (keeps_onSslHandshake cfg s ok)
  | handshake g ok =>
    rcases ok with _ | _
    · exact .inl (keeps_scheduleReconnect cfg s)
    · exact absurd rfl (hh g)
  | close => exact keepsOrLost_onClose s

/-! ## One step -/

/-- A live connection is on the current stream, with `connected_` set, made at a point of
the trace. -/
def LiveValid (s : Session) : Prop :=
  ∀ g, s.live = some g → s.connected = true ∧ s.ws = some g ∧ s.liveSince ≤ s.trace.length

/-- From `s` to `s'`: a connection live after was live before, with the same stream and
flag, and every write queued before is still queued or was written on it. -/
def Carries (s s' : Session) : Prop :=
  ∀ g, s'.live = some g → s.live = some g ∧ s'.connected = s.connected ∧ s'.ws = s.ws ∧
    s'.liveSince = s.liveSince ∧ s.trace <+: s'.trace ∧
    ∀ msg, Handler.write msg ∈ s.ready →
      Handler.write msg ∈ s'.ready ∨ Event.written g msg ∈ s'.trace.drop s'.liveSince

theorem KeepsOrLost.carries {s s' : Session} (h : KeepsOrLost s s') : Carries s s' := by
  intro g hg
  rcases h with h | h
  · exact ⟨h.live_eq.symm.trans hg, h.connected_eq, h.ws_eq, h.liveSince_eq, h.trace_prefix,
      fun _ hm => .inl (h.ready_subset hm)⟩
  · rw [h] at hg; cases hg

theorem LiveValid.carries {s s' : Session} (hv : s.LiveValid) (h : Carries s s') :
    s'.LiveValid := by
  intro g hg
  obtain ⟨hl, hc, hw, hls, hp, -⟩ := h g hg
  obtain ⟨hc', hw', hle⟩ := hv g hl
  exact ⟨hc.trans hc', hw.trans hw', hls ▸ hle.trans hp.length_le⟩

/-- The io thread running the head of the ready queue, other than a successful
`on_handshake`, carries the live connection: a head write is written on it. -/
theorem carries_runHandler (cb : Option (List String)) (callOk : Bool) {h : Handler}
    {rest : List Handler} (hv : s.LiveValid) (hr : s.ready = h :: rest)
    (hh : ∀ g, h ≠ .handshake g true) :
    Carries s ({ s with ready := rest }.runHandler cfg cb callOk h) := by
  intro g hg
  have hk := keepsOrLost_runHandler cfg { s with ready := rest } cb callOk h hh
  rcases hk with hk | hk
  · obtain ⟨hl, hls, hc, hw, hsub, hp⟩ := hk
    refine ⟨hl.symm.trans hg, hc, hw, hls, hp, fun msg hm => ?_⟩
    rw [hr] at hm
    rcases List.mem_cons.mp hm with rfl | hm
    · obtain ⟨hc', hw', hle⟩ := hv g (hl.symm.trans hg)
      rcases written_onWrite cfg { s with ready := rest } msg callOk hc' hw' hle with h' | h'
      · rw [hls]; exact .inr h'
      · cases h'.symm.trans hg
    · exact .inl (hsub hm)
  · rw [hk] at hg; cases hg

/-- What a step does to the live connection: `connect`, a successful `on_handshake` at the
head of the ready queue, or it carries the live connection along. -/
theorem step_live_cases {cb : Option (List String)} {a : Action} {s s' : Session}
    (hv : s.LiveValid) (h : step cfg cb a s = some s') :
    (∃ ok, a = .connect ok ∧ s' = s.connect cfg ok) ∨
      (∃ g rest, s.ioStarted = true ∧ s.ready = .handshake g true :: rest ∧
        s' = { s with ready := rest }.onHandshake cfg cb true) ∨
      Carries s s' := by
  have keep : ∀ {t}, some t = some s' → Keeps s t → Carries s s' := by
    rintro t ⟨⟩ hk; exact KeepsOrLost.carries (.inl hk)
  have guarded : ∀ {p : Prop} [Decidable p] {t}, (if p then some t else none) = some s' →
      some t = some s' := fun h => (Option.ite_none_right_eq_some.mp h).2
  cases a with
  | connect ok => cases guarded h; exact .inl ⟨ok, rfl, rfl⟩
  | send msg => exact .inr (.inr (keep (guarded h) (keeps_send s msg)))
  | getNextMessage =>
    exact .inr (.inr (keep (guarded h)
      ⟨rfl, rfl, rfl, rfl, List.Subset.refl _, List.prefix_refl _⟩))
  | simulateNetworkFailure =>
    cases guarded h; exact .inr (.inr (keepsOrLost_simulateNetworkFailure s).carries)
  | closeExchange => cases guarded h; exact .inr (.inr (KeepsOrLost.carries (.inr rfl)))
  | closePost =>
    simp only [step] at h; split at h
    · cases h; refine .inr (.inr (KeepsOrLost.carries (.inl ?_)))
      split
      · exact (keeps_post s _).trans ⟨rfl, rfl, rfl, rfl, List.Subset.refl _, List.prefix_refl _⟩
      · exact ⟨rfl, rfl, rfl, rfl, List.Subset.refl _, List.prefix_refl _⟩
    · cases h
  | closeStop =>
    exact .inr (.inr (keep (guarded h)
      ⟨rfl, rfl, rfl, rfl, List.Subset.refl _, List.prefix_refl _⟩))
  | io w =>
    obtain ⟨hrun, h⟩ := Option.ite_none_right_eq_some.mp h
    split at h
    · exact .inr (.inr (keep h (keeps_commitRead s)))
    · rename_i hd rest _ hr
      cases h
      by_cases hh : ∃ g, hd = .handshake g true
      · obtain ⟨g, rfl⟩ := hh
        exact .inr (.inl ⟨g, rest, hrun.1, hr, rfl⟩)
      · push_neg at hh
        exact .inr (.inr (carries_runHandler cfg s cb w hv hr hh))
    · cases h
  | complete i ok msg =>
    simp only [step, Option.map_eq_some'] at h
    obtain ⟨o, -, rfl⟩ := h
    exact .inr (.inr (KeepsOrLost.carries (.inl (keeps_complete s o ok msg))))

/-- Every step keeps a live connection on the current stream with `connected_` set. -/
theorem LiveValid.step {cb : Option (List String)} {a : Action} {s s' : Session}
    (hv : s.LiveValid) (h : step cfg cb a s = some s') : s'.LiveValid := by
  rcases step_live_cases cfg hv h with ⟨ok, -, rfl⟩ | ⟨g, rest, -, -, rfl⟩ | hc
  · intro g hg; exact (live_connect cfg s ok hg).2
  · intro g' hg'
    obtain ⟨hl, hls, hc, hw, hp, -⟩ := onHandshake_live cfg { s with ready := rest } cb
    exact ⟨hc, hw.trans (hl.symm.trans hg'), hls ▸ hp.length_le⟩
  · exact hv.carries hc

/-- Only `connect` starts the io thread. -/
theorem ioStarted_step {cb : Option (List String)} {a : Action} {s s' : Session}
    (h : step cfg cb a s = some s') (hs' : s'.ioStarted = true) :
    s.ioStarted = true ∨ ∃ ok, a = .connect ok := by
  cases a with
  | connect ok => exact .inr ⟨ok, rfl⟩
  | io w => exact .inl (Option.ite_none_right_eq_some.mp h).1.1
  | complete i ok msg =>
    simp only [step, Option.map_eq_some'] at h
    obtain ⟨o, -, rfl⟩ := h
    left; revert hs'; unfold complete; split
    all_goals first | exact id | (split <;> exact id)
  | send msg =>
    obtain ⟨-, ⟨⟩⟩ := Option.ite_none_right_eq_some.mp h
    exact .inl (by rwa [ioStarted_send] at hs')
  | simulateNetworkFailure =>
    obtain ⟨-, ⟨⟩⟩ := Option.ite_none_right_eq_some.mp h
    left; revert hs'; unfold simulateNetworkFailure; split <;> exact id
  | closePost =>
    simp only [step] at h; split at h
    · cases h; left; revert hs'; split <;> exact id
    · cases h
  | _ =>
    simp only [step] at h; split at h
    · cases h; exact .inl hs'
    · cases h

end Session

end AeroGateway.Network
