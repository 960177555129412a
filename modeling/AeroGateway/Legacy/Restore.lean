import AeroGateway.Legacy.WebSocketClient

/-!
# Subscriptions across a reconnect

Over every sequence of calls, `subscriptions_` files each entry under its own key, holds only
OKX and Bybit entries, and confirms only OKX ones: an ack is matched by an OKX key, and a Bybit
key differs from every OKX key in its first character. `initiate_reconnect` saves the confirmed
entries and empties the map; while the reconnect runs its course nothing is filed, so
`restore_subscriptions` on the reconnected client files exactly the saved triples again. The
triples it restores are therefore the confirmed ones, all of them OKX: an entry still pending
when the reconnect starts is lost, and no Bybit entry ever comes back.
-/

namespace AeroGateway.Legacy

open Market

section Entries

variable {key : String} {l : List (String × Subscription)}

/-- Filing a new key adds its entry and moves no other. -/
theorem insertSubscription_perm (sub : Subscription) :
    ∀ {l : List (String × Subscription)}, key ∉ l.map Prod.fst →
      (insertSubscription key sub l).Perm ((key, sub) :: l)
  | [], _ => .refl _
  | e :: es, h => by
    simp only [List.map_cons, List.mem_cons, not_or] at h
    unfold insertSubscription
    split_ifs with hlt heq
    · exact .refl _
    · exact absurd heq h.1
    · exact ((insertSubscription_perm sub h.2).cons e).trans (.swap _ _ _)

/-- Confirming changes no key. -/
theorem map_fst_confirmSubscription :
    ∀ l : List (String × Subscription), (confirmSubscription key l).map Prod.fst = l.map Prod.fst
  | [] => rfl
  | e :: es => by
    unfold confirmSubscription
    split <;> simp [map_fst_confirmSubscription es]

/-- Confirming keeps every entry but the one at `key`, which becomes confirmed. -/
theorem mem_confirmSubscription {x : String × Subscription} :
    ∀ {l : List (String × Subscription)}, x ∈ confirmSubscription key l →
      x ∈ l ∨ ∃ e ∈ l, e.1 = key ∧ x = (e.1, { e.2 with state := .CONFIRMED })
  | [], h => nomatch h
  | e :: es, h => by
    unfold confirmSubscription at h
    split at h <;> rename_i he
    · rcases List.mem_cons.mp h with rfl | h
      · exact .inr ⟨e, List.mem_cons_self _ _, he, rfl⟩
      · exact .inl (List.mem_cons_of_mem _ h)
    · rcases List.mem_cons.mp h with rfl | h
      · exact .inl (List.mem_cons_self _ _)
      · rcases mem_confirmSubscription h with h | ⟨e', he', hk, rfl⟩
        · exact .inl (List.mem_cons_of_mem _ h)
        · exact .inr ⟨e', List.mem_cons_of_mem _ he', hk, rfl⟩

end Entries

/-- A Bybit key is no OKX key: the venue numbers differ in the first character. -/
theorem makeSubscriptionKey_bybit_ne_okx (i ch i' ch' : String) :
    makeSubscriptionKey .BYBIT i ch ≠ makeSubscriptionKey .OKX i' ch' := by
  intro h
  have hb : (makeSubscriptionKey .BYBIT i ch).data = '1' :: (":" ++ i ++ ":" ++ ch).data := rfl
  have ho : (makeSubscriptionKey .OKX i' ch').data = '0' :: (":" ++ i' ++ ":" ++ ch').data := rfl
  have := congrArg (fun s : String => s.data.head?) h
  simp only [hb, ho, List.head?_cons, Option.some.injEq] at this
  exact absurd this (by decide)

/-- What `subscriptions_` keeps: each entry under its own key and no key twice, only OKX and
Bybit entries, and only OKX entries confirmed. -/
structure SubscriptionsValid (subs : List (String × Subscription)) : Prop where
  key_eq : ∀ e ∈ subs, e.1 = e.2.key
  nodup : (subs.map Prod.fst).Nodup
  venue : ∀ e ∈ subs, e.2.exchange = .OKX ∨ e.2.exchange = .BYBIT
  confirmed_okx : ∀ e ∈ subs, e.2.state = .CONFIRMED → e.2.exchange = .OKX

namespace SubscriptionsValid

variable {l : List (String × Subscription)}

theorem nil : SubscriptionsValid [] := ⟨nofun, .nil, nofun, nofun⟩

/-- Dropping entries keeps the map valid. -/
theorem sublist (h : SubscriptionsValid l) {l' : List (String × Subscription)}
    (hs : l'.Sublist l) : SubscriptionsValid l' :=
  ⟨fun e he => h.key_eq e (hs.subset he), h.nodup.sublist (hs.map _),
    fun e he => h.venue e (hs.subset he), fun e he => h.confirmed_okx e (hs.subset he)⟩

/-- Filing a new pending OKX or Bybit entry under its key keeps the map valid. -/
theorem insert (h : SubscriptionsValid l) (sub : Subscription)
    (hk : sub.key ∉ l.map Prod.fst) (hv : sub.exchange = .OKX ∨ sub.exchange = .BYBIT)
    (hp : sub.state = .PENDING) : SubscriptionsValid (insertSubscription sub.key sub l) := by
  have hperm := insertSubscription_perm sub hk
  have hmem : ∀ {e}, e ∈ insertSubscription sub.key sub l → e = (sub.key, sub) ∨ e ∈ l :=
    fun he => List.mem_cons.mp (hperm.subset he)
  refine ⟨fun e he => ?_, (hperm.map _).nodup_iff.mpr (List.nodup_cons.mpr ⟨hk, h.nodup⟩),
    fun e he => ?_, fun e he => ?_⟩
  · rcases hmem he with rfl | he
    · rfl
    · exact h.key_eq e he
  · rcases hmem he with rfl | he
    · exact hv
    · exact h.venue e he
  · rcases hmem he with rfl | he
    · simp [hp]
    · exact h.confirmed_okx e he

/-- An OKX ack confirms an OKX entry, if any. -/
theorem confirm (h : SubscriptionsValid l) (i ch : String) :
    SubscriptionsValid (confirmSubscription (makeSubscriptionKey .OKX i ch) l) := by
  have hmem := @mem_confirmSubscription (makeSubscriptionKey .OKX i ch)
  refine ⟨fun x hx => ?_, by rw [map_fst_confirmSubscription]; exact h.nodup,
    fun x hx => ?_, fun x hx hc => ?_⟩
  · rcases hmem hx with hx | ⟨e, he, -, rfl⟩
    · exact h.key_eq x hx
    · exact h.key_eq e he
  · rcases hmem hx with hx | ⟨e, he, -, rfl⟩
    · exact h.venue x hx
    · exact h.venue e he
  · rcases hmem hx with hx | ⟨e, he, hk, rfl⟩
    · exact h.confirmed_okx x hx hc
    · rcases h.venue e he with ho | hb
      · exact ho
      · have := (h.key_eq e he).symm.trans hk
        simp only [Subscription.key, hb] at this
        exact absurd this (makeSubscriptionKey_bybit_ne_okx _ _ _ _)

end SubscriptionsValid

namespace WebSocketClient

variable (c : WebSocketClient)

@[simp] theorem subscriptions_sendTextMessage (m : String) :
    (c.sendTextMessage m).subscriptions = c.subscriptions := by
  unfold sendTextMessage; split <;> rfl

@[simp] theorem state_sendTextMessage (m : String) : (c.sendTextMessage m).state = c.state := by
  unfold sendTextMessage; split <;> rfl

@[simp] theorem savedSubscriptions_sendTextMessage (m : String) :
    (c.sendTextMessage m).savedSubscriptions = c.savedSubscriptions := by
  unfold sendTextMessage; split <;> rfl

/-- On a connected client, `subscribe` files an OKX or Bybit key not yet filed as pending. -/
theorem subscriptions_subscribe_of_new {e : ExchangeId} {i ch : String}
    (hs : c.state = .WS_CONNECTED) (hk : makeSubscriptionKey e i ch ∉ c.subscriptions.map Prod.fst)
    (hv : e = .OKX ∨ e = .BYBIT) :
    (c.subscribe e i ch).subscriptions =
      insertSubscription (makeSubscriptionKey e i ch) ⟨e, i, ch, .PENDING⟩ c.subscriptions := by
  have hl : (c.subscriptions.lookup (makeSubscriptionKey e i ch)).isSome = false := by
    simp [lookup_eq_none_iff.mpr hk]
  have hbo : ExchangeId.BYBIT ≠ ExchangeId.OKX := by decide
  rcases hv with rfl | rfl <;> simp [subscribe, hs, hl, hbo]

/-- `subscribe` files a new pending OKX or Bybit key on a connected client, or changes no entry. -/
theorem subscriptions_subscribe (e : ExchangeId) (i ch : String) :
    (c.subscribe e i ch).subscriptions = c.subscriptions ∨
      (c.state = .WS_CONNECTED ∧ makeSubscriptionKey e i ch ∉ c.subscriptions.map Prod.fst ∧
        (e = .OKX ∨ e = .BYBIT) ∧
        (c.subscribe e i ch).subscriptions =
          insertSubscription (makeSubscriptionKey e i ch) ⟨e, i, ch, .PENDING⟩ c.subscriptions) := by
  by_cases hs : c.state = .WS_CONNECTED
  swap; · exact .inl (by simp [subscribe, hs])
  by_cases hl : (c.subscriptions.lookup (makeSubscriptionKey e i ch)).isSome
  · exact .inl (by simp [subscribe, hl])
  have hk := lookup_eq_none_iff.mp (Option.not_isSome_iff_eq_none.mp hl)
  by_cases hv : e = .OKX ∨ e = .BYBIT
  · exact .inr ⟨hs, hk, hv, c.subscriptions_subscribe_of_new hs hk hv⟩
  · have ⟨ho, hb⟩ := not_or.mp hv
    exact .inl (by simp [subscribe, hs, hl, ho, hb])

/-- `unsubscribe` only drops entries. -/
theorem subscriptions_unsubscribe (e : ExchangeId) (i ch : String) :
    (c.unsubscribe e i ch).subscriptions.Sublist c.subscriptions := by
  unfold unsubscribe; dsimp only
  split_ifs <;> simp [List.eraseP_sublist]

/-- An ack confirms the OKX entry it names, or changes nothing. -/
theorem subscriptions_parseSubscriptionResponse (doc : Option Json) :
    (c.parseSubscriptionResponse doc).subscriptions = c.subscriptions ∨
      ∃ i ch, (c.parseSubscriptionResponse doc).subscriptions =
        confirmSubscription (makeSubscriptionKey .OKX i ch) c.subscriptions := by
  unfold parseSubscriptionResponse
  split
  · split_ifs
    · exact .inr ⟨_, _, rfl⟩
    · exact .inl rfl
  · exact .inl rfl

@[simp] theorem state_subscribe (e : ExchangeId) (i ch : String) :
    (c.subscribe e i ch).state = c.state := by
  unfold subscribe; dsimp only; split_ifs <;> simp

@[simp] theorem savedSubscriptions_subscribe (e : ExchangeId) (i ch : String) :
    (c.subscribe e i ch).savedSubscriptions = c.savedSubscriptions := by
  unfold subscribe; dsimp only; split_ifs <;> simp

/-- `subscribe` keeps the map valid. -/
theorem valid_subscribe {c : WebSocketClient} (h : SubscriptionsValid c.subscriptions)
    (e : ExchangeId) (i ch : String) : SubscriptionsValid (c.subscribe e i ch).subscriptions := by
  rcases c.subscriptions_subscribe e i ch with hs | ⟨-, hk, hv, hs⟩
  · exact hs ▸ h
  · exact hs ▸ h.insert ⟨e, i, ch, .PENDING⟩ hk hv rfl

/-- Subscribing to each of a list of subscriptions in turn keeps the map valid. -/
theorem valid_foldl_subscribe :
    ∀ (subs : List Subscription) {c : WebSocketClient}, SubscriptionsValid c.subscriptions →
      SubscriptionsValid (subs.foldl
        (fun c sub => c.subscribe sub.exchange sub.instrument sub.channel) c).subscriptions
  | [], _, h => h
  | _ :: subs, _, h => valid_foldl_subscribe subs (valid_subscribe h _ _ _)

/-- Each step keeps the map valid. -/
theorem valid_step {c c' : WebSocketClient} {a : Action} (h : SubscriptionsValid c.subscriptions)
    (hs : step a c = some c') : SubscriptionsValid c'.subscriptions := by
  cases a with
  | subscribe e i ch => cases hs; exact valid_subscribe h e i ch
  | unsubscribe e i ch => cases hs; exact h.sublist (c.subscriptions_unsubscribe e i ch)
  | parseSubscriptionResponse doc =>
    cases hs
    rcases c.subscriptions_parseSubscriptionResponse doc with he | ⟨i, ch, he⟩ <;> rw [he]
    · exact h
    · exact h.confirm i ch
  | initiateReconnect => cases hs; unfold initiateReconnect; split; exacts [h, .nil]
  | tryReconnect =>
    cases hs; unfold tryReconnect
    split_ifs <;> exact h
  | restoreSubscriptions =>
    cases hs; unfold restoreSubscriptions
    split_ifs; exacts [h, h, valid_foldl_subscribe _ h]
  | connect => cases hs; unfold connect; split <;> exact h
  | disconnect => cases hs; unfold disconnect; split; exacts [h, .nil]
  | processRx next =>
    simp only [step] at hs
    split at hs
    · cases hs; exact h
    · cases hs
  | elapse ms => cases hs; exact h

/-- Every reachable client's map is valid. -/
theorem Reachable.valid {c : WebSocketClient} (h : Reachable c) :
    SubscriptionsValid c.subscriptions := by
  induction h with
  | init => exact .nil
  | step _ _ hs ih => exact valid_step ih hs

end WebSocketClient

/-- The steps of a reconnect under way: the clock, `try_reconnect`, `connect`, what
`process_rx` does, and the acks and unsubscribes that may arrive meanwhile. -/
def Action.isReconnectStep : Action → Bool
  | .elapse _ | .tryReconnect | .connect | .processRx _ | .parseSubscriptionResponse _
  | .unsubscribe .. => true
  | .subscribe .. | .initiateReconnect | .restoreSubscriptions | .disconnect => false

namespace WebSocketClient

/-- While a reconnect is under way an empty map stays empty and the saved list is kept. -/
theorem reconnectStep_keeps {c c' : WebSocketClient} {a : Action}
    (ha : a.isReconnectStep = true) (he : c.subscriptions = [])
    (hs : step a c = some c') :
    c'.subscriptions = [] ∧ c'.savedSubscriptions = c.savedSubscriptions := by
  cases a with
  | unsubscribe e i ch =>
    cases hs
    exact ⟨List.eq_nil_of_sublist_nil (he ▸ c.subscriptions_unsubscribe e i ch),
      by unfold unsubscribe; dsimp only; split_ifs <;> simp⟩
  | parseSubscriptionResponse doc =>
    cases hs
    refine ⟨?_, by unfold parseSubscriptionResponse; split <;> (try split_ifs) <;> rfl⟩
    rcases c.subscriptions_parseSubscriptionResponse doc with h | ⟨i, ch, h⟩ <;> rw [h, he]
    rfl
  | tryReconnect =>
    cases hs; unfold tryReconnect
    split_ifs <;> exact ⟨he, rfl⟩
  | connect => cases hs; unfold connect; split <;> exact ⟨he, rfl⟩
  | processRx next =>
    simp only [step] at hs
    split at hs
    · cases hs; exact ⟨he, rfl⟩
    · cases hs
  | elapse ms => cases hs; exact ⟨he, rfl⟩
  | _ => cases ha

/-- A whole run of reconnect steps keeps an empty map empty and the saved list. -/
theorem run_reconnectSteps :
    ∀ {as : List Action} {c c' : WebSocketClient}, (∀ a ∈ as, a.isReconnectStep = true) →
      c.subscriptions = [] → run as c = some c' →
      c'.subscriptions = [] ∧ c'.savedSubscriptions = c.savedSubscriptions
  | [], _, _, _, he, hr => by cases hr; exact ⟨he, rfl⟩
  | a :: _, _, _, has, he, hr => by
    obtain ⟨t, ht, hr⟩ := Option.bind_eq_some.mp hr
    have ⟨he', hs'⟩ := reconnectStep_keeps (has a (List.mem_cons_self _ _)) he ht
    have := run_reconnectSteps (fun a h => has a (List.mem_cons_of_mem _ h)) he' hr
    exact ⟨this.1, this.2.trans hs'⟩

/-- The entry `subscribe` files for a subscription. -/
def pendingEntry (sub : Subscription) : String × Subscription :=
  (sub.key, { sub with state := .PENDING })

/-- On a connected client, subscribing in turn to OKX and Bybit subscriptions with distinct keys
none of which is filed files each of them as pending. -/
theorem foldl_subscribe_perm :
    ∀ (subs : List Subscription) {c : WebSocketClient}, c.state = .WS_CONNECTED →
      (∀ s ∈ subs, s.exchange = .OKX ∨ s.exchange = .BYBIT) → (subs.map Subscription.key).Nodup →
      (∀ s ∈ subs, s.key ∉ c.subscriptions.map Prod.fst) →
      (subs.foldl (fun c sub => c.subscribe sub.exchange sub.instrument sub.channel)
        c).subscriptions.Perm (subs.map pendingEntry ++ c.subscriptions)
  | [], _, _, _, _, _ => .refl _
  | s :: subs, c, hc, hv, hn, hk => by
    have hk₀ := hk s (List.mem_cons_self _ _)
    have hs : (c.subscribe s.exchange s.instrument s.channel).subscriptions =
        insertSubscription s.key (pendingEntry s).2 c.subscriptions :=
      c.subscriptions_subscribe_of_new hc hk₀ (hv s (List.mem_cons_self _ _))
    have hperm := hs ▸ insertSubscription_perm (pendingEntry s).2 hk₀
    have hn' := List.nodup_cons.mp hn
    have ih := foldl_subscribe_perm subs (c := c.subscribe s.exchange s.instrument s.channel)
      (by simpa using hc) (fun s' h => hv s' (List.mem_cons_of_mem _ h)) hn'.2
      (fun s' h hm => by
        rcases List.mem_cons.mp ((hperm.map Prod.fst).subset hm) with he | hm
        · exact hn'.1 ((show s.key = s'.key from he.symm) ▸ List.mem_map_of_mem _ h)
        · exact hk s' (List.mem_cons_of_mem _ h) hm)
    rw [List.foldl_cons, List.map_cons]
    exact ih.trans ((hperm.append_left _).trans List.perm_middle)

/-- `restore_subscriptions` on a connected client with an empty map files each saved
subscription with distinct OKX and Bybit keys, as pending. -/
theorem restoreSubscriptions_perm {c : WebSocketClient} (hc : c.state = .WS_CONNECTED)
    (he : c.subscriptions = [])
    (hv : ∀ s ∈ c.savedSubscriptions, s.exchange = .OKX ∨ s.exchange = .BYBIT)
    (hn : (c.savedSubscriptions.map Subscription.key).Nodup) :
    (c.restoreSubscriptions.subscriptions.map (·.2.triple)).Perm
      (c.savedSubscriptions.map Subscription.triple) := by
  unfold restoreSubscriptions
  split_ifs with h₁ h₂
  · exact absurd hc h₁
  · simp [he, List.isEmpty_iff.mp h₂]
  · have := foldl_subscribe_perm c.savedSubscriptions (c := { c with reconnectAttempts := 0 })
      hc hv hn (by simp [he])
    simpa [he, pendingEntry, Subscription.triple, Function.comp_def] using this.map (·.2.triple)

/-- Take a reachable client with no reconnect pending, call `initiate_reconnect`, let the
reconnect run with only its own steps, acks and unsubscribes, and call `restore_subscriptions`
once the client is connected again. The triples then filed are those that were confirmed when
the reconnect started, and each of them is an OKX one. -/
theorem restore_subscriptions_restores_confirmed {c c' : WebSocketClient} (hc : Reachable c)
    (hp : c.reconnectPending = false) (as : List Action)
    (has : ∀ a ∈ as, a.isReconnectStep = true) (hr : run as c.initiateReconnect = some c')
    (hconn : c'.state = .WS_CONNECTED) :
    (c'.restoreSubscriptions.subscriptions.map (·.2.triple)).Perm
        ((c.subscriptions.filter (·.2.state = .CONFIRMED)).map (·.2.triple)) ∧
      ∀ e ∈ c.subscriptions, e.2.state = .CONFIRMED → e.2.exchange = .OKX := by
  have hv := hc.valid
  have hi : c.initiateReconnect.subscriptions = [] ∧ c.initiateReconnect.savedSubscriptions =
      (c.subscriptions.filter (·.2.state = .CONFIRMED)).map Prod.snd := by
    simp [initiateReconnect, hp]
  have ⟨he, hs⟩ := run_reconnectSteps has hi.1 hr
  have hsub := List.filter_sublist (p := fun e : String × Subscription =>
    decide (e.2.state = .CONFIRMED)) c.subscriptions
  have hkeys : ((c.subscriptions.filter (·.2.state = .CONFIRMED)).map Prod.snd).map
      Subscription.key = (c.subscriptions.filter (·.2.state = .CONFIRMED)).map Prod.fst := by
    rw [List.map_map]
    exact List.map_congr_left fun e h => (hv.key_eq e (hsub.subset h)).symm
  refine ⟨?_, hv.confirmed_okx⟩
  have := restoreSubscriptions_perm hconn he
    (by
      rw [hs, hi.2]
      intro s hs'
      obtain ⟨e, he, rfl⟩ := List.mem_map.mp hs'
      exact hv.venue e (hsub.subset he))
    (by rw [hs, hi.2, hkeys]; exact hv.nodup.sublist (hsub.map _))
  rwa [hs, hi.2, List.map_map] at this

/-- A confirmed OKX subscription, then the reconnect: connected, subscribed, acknowledged. -/
def ackedSubscription : List Action :=
  [.connect, .processRx .WS_CONNECTING_TLS, .processRx .WS_HANDSHAKE_SENT,
    .processRx .WS_CONNECTED, .subscribe .OKX "BTC-USDT" "books",
    .parseSubscriptionResponse (some (.object [("event", .string "subscribe"),
      ("arg", .object [("channel", .string "books"), ("instId", .string "BTC-USDT")])]))]

/-- The reconnect after `initiate_reconnect`: the backoff of the first attempt passes,
`try_reconnect` opens a new connection, and `process_rx` brings it up. -/
def reconnectCycle : List Action :=
  [.elapse 2000, .tryReconnect, .processRx .WS_CONNECTING_TLS, .processRx .WS_HANDSHAKE_SENT,
    .processRx .WS_CONNECTED]

theorem restore_subscriptions_restores_confirmed_okx :
    ∃ c c', Reachable c ∧ c.reconnectPending = false ∧
      run reconnectCycle c.initiateReconnect = some c' ∧ c'.state = .WS_CONNECTED ∧
      c'.restoreSubscriptions.subscriptions.map (·.2.triple) = [(.OKX, "BTC-USDT", "books")] ∧
      ((c'.restoreSubscriptions.subscriptions.map (·.2.triple)).Perm
          ((c.subscriptions.filter (·.2.state = .CONFIRMED)).map (·.2.triple)) ∧
        ∀ e ∈ c.subscriptions, e.2.state = .CONFIRMED → e.2.exchange = .OKX) :=
  have hr := Reachable.init.run (show run ackedSubscription init = some _ from rfl)
  ⟨_, _, hr, rfl, rfl, rfl, rfl,
    restore_subscriptions_restores_confirmed hr rfl reconnectCycle (by decide) rfl rfl⟩

/-- A subscription still pending when the reconnect starts is not restored. -/
theorem pending_subscription_not_restored :
    ∃ c c', Reachable c ∧
      c.subscriptions.map (·.2.triple) = [(.OKX, "BTC-USDT", "books")] ∧
      run reconnectCycle c.initiateReconnect = some c' ∧ c'.state = .WS_CONNECTED ∧
      c'.restoreSubscriptions.subscriptions = [] :=
  ⟨_, _, Reachable.init.run (show run (ackedSubscription.take 5) init = some _ from rfl),
    rfl, rfl, rfl, rfl⟩

end WebSocketClient

end AeroGateway.Legacy
