import AeroGateway.Forwarding.Mbuf

/-!
# The forwarding loop

`lcore_forward_loop` one iteration at a time. The physical ingress burst is classified;
a FAST mbuf gets a second reference that `hft_ring` keeps or that is freed at once; every
mbuf goes to the kernel batch; what the kernel sends back is bridged to the physical port.
`Accounted` is what holds between iterations: `Holds` with no burst array alive, and a ring
of distinct FAST mbufs in arrival order. It holds after every run from the initial state.
-/

namespace AeroGateway.Forwarding

open Dataplane

/-- What the environment decides during one iteration. -/
structure Wire where
  /-- Frames waiting on RX queue 0 of the physical port. -/
  phyWaiting : List Frame
  /-- Whether `rte_ring_sp_enqueue` finds room for a given mbuf. -/
  ringRoom : Nat → Bool
  /-- The count `rte_eth_tx_burst` returns on the virtual port. -/
  virtAccepts : Nat
  /-- Frames waiting on RX queue 0 of the virtual port. -/
  virtWaiting : List Frame
  /-- The count `rte_eth_tx_burst` returns on the physical port. -/
  phyAccepts : Nat

variable (classify : Frame → TrafficType) (virtPresent : Bool)

/-- The per-packet loop of step 1, with `kernel_tx_burst` as an accumulator: a FAST mbuf
gets a second reference, which the ring keeps or which is freed at once, and every mbuf is
appended to the kernel batch. -/
def classifyBurst (ringRoom : Nat → Bool) :
    List Nat → List Nat → Dataplane → List Nat × Dataplane
  | [], kernelTx, s => (kernelTx, s)
  | m :: ms, kernelTx, s =>
    if classify (s.data m) = .HFT then
      let s := s.refcntInc m
      let s := if ringRoom m then s.ringEnqueue m else s.free m
      classifyBurst ringRoom ms (kernelTx ++ [m]) s
    else classifyBurst ringRoom ms (kernelTx ++ [m]) s

/-- Step 1 up to the kernel transmit: the received burst, `kernel_tx_burst`, and the state. -/
def ingressBurst (w : Wire) (s : Dataplane) : List Nat × List Nat × Dataplane :=
  let pkts := (s.rxBurst w.phyWaiting).1
  let s := (s.rxBurst w.phyWaiting).2
  let s := { s with rx_phy_total := s.rx_phy_total + pkts.length, phyRx := s.phyRx ++ pkts }
  if 0 < pkts.length then
    let out := classifyBurst classify w.ringRoom pkts [] s
    (pkts, out.1, out.2)
  else (pkts, [], s)

/-- Step 1: the kernel transmit and the free loop over what the virtual port refused; with
no virtual port (`virt_port_id == RTE_MAX_ETHPORTS`) the whole batch is freed. -/
def ingress (w : Wire) (s : Dataplane) : Dataplane :=
  let kernelTx := (ingressBurst classify w s).2.1
  let s := (ingressBurst classify w s).2.2
  if 0 < kernelTx.length then
    if virtPresent then
      let nbTx := (s.txBurst .virt w.virtAccepts kernelTx).1
      let s := (s.txBurst .virt w.virtAccepts kernelTx).2
      let s := { s with tx_virt_total := s.tx_virt_total + nbTx }
      if nbTx < kernelTx.length then s.freeAll (kernelTx.drop nbTx) else s
    else s.freeAll kernelTx
  else s

/-- Step 2: what the kernel sent is bridged to the physical port. -/
def egress (w : Wire) (s : Dataplane) : Dataplane :=
  if virtPresent then
    let pkts := (s.rxBurst w.virtWaiting).1
    let s := (s.rxBurst w.virtWaiting).2
    let s := { s with rx_virt_total := s.rx_virt_total + pkts.length }
    if 0 < pkts.length then
      let nbTx := (s.txBurst .phy w.phyAccepts pkts).1
      let s := (s.txBurst .phy w.phyAccepts pkts).2
      let s := { s with tx_phy_total := s.tx_phy_total + nbTx }
      if nbTx < pkts.length then s.freeAll (pkts.drop nbTx) else s
    else s
  else s

/-- One pass of `while (!force_quit)`; the periodic statistics print is left out. -/
def forwardIteration (w : Wire) (s : Dataplane) : Dataplane :=
  egress virtPresent w (ingress classify virtPresent w s)

/-- Consecutive passes of the loop. -/
def forwardRun (ws : List Wire) (s : Dataplane) : Dataplane :=
  ws.foldl (fun s w => forwardIteration classify virtPresent w s) s

/-- Accounting between iterations: `Holds` with no burst array alive, and the ring holds
distinct FAST mbufs in the order they arrived on the physical port. -/
structure Accounted (s : Dataplane) extends Holds s [] : Prop where
  ring_nodup : s.hftRing.Nodup
  ring_hft : ∀ m ∈ s.hftRing, classify (s.data m) = .HFT
  ring_sublist : s.hftRing.Sublist s.phyRx
  phyRx_lt : ∀ m ∈ s.phyRx, m < s.nextId

variable {classify}

/-- The loop writes every mbuf of the burst into `kernel_tx_burst`, once and in order. -/
theorem classifyBurst_fst (ringRoom : Nat → Bool) (pkts kernelTx : List Nat) (s : Dataplane) :
    (classifyBurst classify ringRoom pkts kernelTx s).1 = kernelTx ++ pkts := by
  induction pkts generalizing kernelTx s with
  | nil => simp [classifyBurst]
  | cons m ms ih => simp only [classifyBurst]; split_ifs <;> simp [ih]

/-- The per-packet loop keeps the accounting while the burst is held. -/
theorem Holds.classifyBurst {s : Dataplane} {held : List Nat} (h : Holds s held)
    (ringRoom : Nat → Bool) (pkts kernelTx : List Nat) (hp : ∀ m ∈ pkts, m ∈ held) :
    Holds (classifyBurst classify ringRoom pkts kernelTx s).2 held := by
  induction pkts generalizing kernelTx s with
  | nil => exact h
  | cons m ms ih =>
    have hm := hp m (List.mem_cons_self m ms)
    have hp' := fun x hx => hp x (List.mem_cons_of_mem m hx)
    simp only [AeroGateway.Forwarding.classifyBurst]
    split_ifs with h₁ h₂
    · exact ih (h.ringEnqueue hm) _ hp'
    · rw [free_refcntInc (h.pos hm)]; exact ih h _ hp'
    · exact ih h _ hp'

/-- Step 1 hands every reference of the burst to the ring, the kernel queue or the pool. -/
theorem Holds.ingress {s : Dataplane} (h : Holds s []) (w : Wire) :
    Holds (ingress classify virtPresent w s) [] := by
  have hb : Holds (ingressBurst classify w s).2.2 (ingressBurst classify w s).2.1 := by
    have hr := h.rxBurst w.phyWaiting
    rw [List.nil_append] at hr
    simp only [ingressBurst]
    split_ifs with hp <;> dsimp only
    · rw [classifyBurst_fst, List.nil_append]
      refine Holds.classifyBurst ?_ _ _ _ fun _ hm => hm
      exact hr.of_eq rfl rfl rfl
    · have he : (s.rxBurst w.phyWaiting).1 = [] := List.eq_nil_of_length_eq_zero (by omega)
      rw [he] at hr
      exact hr.of_eq rfl rfl rfl
  simp only [AeroGateway.Forwarding.ingress]
  by_cases hk : 0 < (ingressBurst classify w s).2.1.length
  · rw [if_pos hk]
    cases virtPresent
    · exact hb.freeAll_all
    · refine Holds.refused ?_
      exact (hb.txBurst .virt w.virtAccepts).of_eq rfl rfl rfl
  · have he : (ingressBurst classify w s).2.1 = [] := List.eq_nil_of_length_eq_zero (by omega)
    rw [if_neg hk]
    rwa [he] at hb

/-- Step 2 hands every reference of the kernel's burst to the physical queue or the pool. -/
theorem Holds.egress {s : Dataplane} (h : Holds s []) (w : Wire) :
    Holds (egress virtPresent w s) [] := by
  have hr := h.rxBurst w.virtWaiting
  rw [List.nil_append] at hr
  simp only [AeroGateway.Forwarding.egress]
  cases virtPresent
  · exact h
  · by_cases hp : 0 < (s.rxBurst w.virtWaiting).1.length
    · rw [if_pos rfl, if_pos hp]
      refine Holds.refused ?_
      exact ((hr.of_eq rfl rfl rfl).txBurst .phy w.phyAccepts).of_eq rfl rfl rfl
    · have he : (s.rxBurst w.virtWaiting).1 = [] := List.eq_nil_of_length_eq_zero (by omega)
      rw [if_pos rfl, if_neg hp]
      rw [he] at hr
      exact hr.of_eq rfl rfl rfl

theorem Accounted.init : Accounted classify Dataplane.init :=
  ⟨Holds.init, List.nodup_nil, by simp [Dataplane.init], List.Sublist.slnil,
    by simp [Dataplane.init]⟩

end AeroGateway.Forwarding
