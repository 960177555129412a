import Mathlib.Data.List.Nodup
import Mathlib.Algebra.Group.Nat.Basic

/-!
# Mbufs, the HFT ring and the port queues

The DPDK objects the forwarding core touches, over mbuf identifiers. An RX burst hands
out fresh identifiers with one reference each; `rte_pktmbuf_free` drops one reference and
returns the mbuf to the pool at the last; a TX burst keeps the prefix of the batch that the
driver reports as sent. Whether the ring has room and how much a driver accepts are the
environment's choices, so both are inputs.

`Holds` is the accounting invariant: every count equals the number of holders, the burst
arrays of the running iteration included, and the pool got back exactly the received mbufs
that nobody holds. Each primitive keeps it.
-/

namespace AeroGateway.Forwarding

/-- Verdict of `HftClassifier::classify` (`TrafficType`, `core/types.h`). -/
inductive TrafficType
  | STANDARD
  | HFT
  | IGNORE
  deriving DecidableEq, Repr

/-- Bytes of the L2 frame an mbuf carries. -/
abbrev Frame := List UInt8

/-- `BURST_SIZE` of `forwarding.cpp`. -/
def BURST_SIZE : Nat := 32

/-- The two ethdev ports the loop bridges. -/
inductive Port
  | phy
  | virt
  deriving DecidableEq, Repr

/-- Reference counts of the mbuf pool and what it got back. -/
structure Pool where
  /-- `rte_mbuf_refcnt_read` of each mbuf. -/
  refcnt : Nat → Nat
  /-- Mbufs returned to the pool, in order. -/
  freed : List Nat
  /-- Set once `rte_pktmbuf_free` meets an mbuf whose count is already zero. -/
  doubleFree : Bool

namespace Pool

variable (p : Pool)

/-- `rte_pktmbuf_refcnt_update(m, 1)`. -/
def refcntInc (m : Nat) : Pool :=
  { p with refcnt := Function.update p.refcnt m (p.refcnt m + 1) }

/-- `rte_pktmbuf_free` of a one-segment mbuf (`rte_pktmbuf_prefree_seg`): the last
reference returns it to the pool, an earlier one only drops the count. On a zero count the
16-bit decrement wraps and nothing is returned. -/
def pktmbufFree (m : Nat) : Pool :=
  match p.refcnt m with
  | 0 => { p with refcnt := Function.update p.refcnt m 65535, doubleFree := true }
  | 1 => { p with refcnt := Function.update p.refcnt m 0, freed := p.freed ++ [m] }
  | n + 2 => { p with refcnt := Function.update p.refcnt m (n + 1) }

/-- The free loops of `lcore_forward_loop`, over a run of a burst array. -/
def freeAll (ms : List Nat) : Pool := ms.foldl pktmbufFree p

variable {p}

/-- Dropping a duplicated reference gives back the pool before the increment. -/
theorem pktmbufFree_refcntInc {m : Nat} (h : 0 < p.refcnt m) :
    (p.refcntInc m).pktmbufFree m = p := by
  obtain ⟨k, hk⟩ : ∃ k, p.refcnt m = k + 1 := ⟨p.refcnt m - 1, by omega⟩
  cases p
  simp only [pktmbufFree, refcntInc, Function.update_same] at hk ⊢
  simp only [hk, Function.update_idem]
  rw [← hk, Function.update_eq_self]

/-- Freeing a referenced mbuf drops its count by one, returning it at the last reference. -/
theorem pktmbufFree_of_pos {m : Nat} (h : 0 < p.refcnt m) :
    p.pktmbufFree m = { p with
      refcnt := Function.update p.refcnt m (p.refcnt m - 1)
      freed := p.freed ++ [m].filter (fun m => p.refcnt m = 1) } := by
  obtain ⟨k, hk⟩ : ∃ k, p.refcnt m = k + 1 := ⟨p.refcnt m - 1, by omega⟩
  rcases k with _ | k <;> simp [pktmbufFree, hk]

end Pool

/-- Mbuf pool, `hft_ring` and TX queues as the forwarding core sees them. -/
structure Dataplane where
  /-- Reference counts and returns of the mbuf pool. -/
  pool : Pool
  /-- Frame bytes of each mbuf. -/
  data : Nat → Frame
  /-- First identifier no RX burst has handed out yet. -/
  nextId : Nat
  /-- `hft_ring`, oldest entry first. -/
  hftRing : List Nat
  /-- Mbufs accepted by TX queue 0 of the virtual (kernel) port. -/
  virtTx : List Nat
  /-- Mbufs accepted by TX queue 0 of the physical port. -/
  phyTx : List Nat
  /-- Ghost: mbufs received on the physical port, in arrival order. -/
  phyRx : List Nat
  /-- `static rx_phy_total` of `lcore_forward_loop`. -/
  rx_phy_total : Nat
  /-- `static tx_virt_total`. -/
  tx_virt_total : Nat
  /-- `static rx_virt_total`. -/
  rx_virt_total : Nat
  /-- `static tx_phy_total`. -/
  tx_phy_total : Nat

namespace Dataplane

variable (s : Dataplane)

/-- The state before the first burst: no mbuf handed out, every queue empty. -/
def init : Dataplane :=
  ⟨⟨fun _ => 0, [], false⟩, fun _ => [], 0, [], [], [], [], 0, 0, 0, 0⟩

/-- References that outlive a loop iteration: ring slots and TX queue slots. -/
def holders (m : Nat) : Nat := s.hftRing.count m + s.virtTx.count m + s.phyTx.count m

/-- `rte_pktmbuf_free` on the pool. -/
def free (m : Nat) : Dataplane := { s with pool := s.pool.pktmbufFree m }

/-- The free loop over a run of a burst array. -/
def freeAll (ms : List Nat) : Dataplane := { s with pool := s.pool.freeAll ms }

/-- `rte_pktmbuf_refcnt_update(m, 1)` on the pool. -/
def refcntInc (m : Nat) : Dataplane := { s with pool := s.pool.refcntInc m }

/-- `rte_ring_sp_enqueue(hft_ring, m)` when the ring has room. -/
def ringEnqueue (m : Nat) : Dataplane := { s with hftRing := s.hftRing ++ [m] }

/-- `rte_eth_rx_burst(port, 0, pkts, BURST_SIZE)`: at most `BURST_SIZE` waiting frames land
in fresh mbufs holding one reference each. -/
def rxBurst (waiting : List Frame) : List Nat × Dataplane :=
  let frames := waiting.take BURST_SIZE
  (List.range' s.nextId frames.length,
    { s with
      pool := { s.pool with refcnt := fun m =>
        if s.nextId ≤ m ∧ m < s.nextId + frames.length then 1 else s.pool.refcnt m }
      data := fun m =>
        if s.nextId ≤ m ∧ m < s.nextId + frames.length then frames.getD (m - s.nextId) []
        else s.data m
      nextId := s.nextId + frames.length })

/-- `rte_eth_tx_burst(port, 0, batch, n)`: the driver keeps the prefix of the batch whose
length it returns, here `accepted` capped by the batch. -/
def txBurst (port : Port) (accepted : Nat) (batch : List Nat) : Nat × Dataplane :=
  let nbTx := min accepted batch.length
  (nbTx, match port with
    | .phy => { s with phyTx := s.phyTx ++ batch.take nbTx }
    | .virt => { s with virtTx := s.virtTx ++ batch.take nbTx })

variable {s}

/-- Freeing a duplicate at once undoes its increment. -/
theorem free_refcntInc {m : Nat} (h : 0 < s.pool.refcnt m) : (s.refcntInc m).free m = s := by
  simp only [Dataplane.free, Dataplane.refcntInc, Pool.pktmbufFree_refcntInc h]

@[simp] theorem freeAll_nil : s.freeAll [] = s := rfl

theorem freeAll_cons (m : Nat) (ms : List Nat) : s.freeAll (m :: ms) = (s.free m).freeAll ms :=
  rfl

@[simp] theorem holders_rxBurst (waiting : List Frame) :
    (s.rxBurst waiting).2.holders = s.holders := rfl

@[simp] theorem txBurst_fst (port : Port) (accepted : Nat) (batch : List Nat) :
    (s.txBurst port accepted batch).1 = min accepted batch.length := rfl

@[simp] theorem pool_txBurst (port : Port) (accepted : Nat) (batch : List Nat) :
    (s.txBurst port accepted batch).2.pool = s.pool := by cases port <;> rfl

@[simp] theorem nextId_txBurst (port : Port) (accepted : Nat) (batch : List Nat) :
    (s.txBurst port accepted batch).2.nextId = s.nextId := by cases port <;> rfl

@[simp] theorem hftRing_rxBurst (waiting : List Frame) :
    (s.rxBurst waiting).2.hftRing = s.hftRing := rfl

@[simp] theorem phyRx_rxBurst (waiting : List Frame) :
    (s.rxBurst waiting).2.phyRx = s.phyRx := rfl

@[simp] theorem nextId_rxBurst (waiting : List Frame) :
    (s.rxBurst waiting).2.nextId = s.nextId + (s.rxBurst waiting).1.length := by
  simp [rxBurst]

@[simp] theorem virtTx_rxBurst (waiting : List Frame) :
    (s.rxBurst waiting).2.virtTx = s.virtTx := rfl

@[simp] theorem phyTx_rxBurst (waiting : List Frame) :
    (s.rxBurst waiting).2.phyTx = s.phyTx := rfl

@[simp] theorem data_txBurst (port : Port) (accepted : Nat) (batch : List Nat) :
    (s.txBurst port accepted batch).2.data = s.data := by cases port <;> rfl

theorem take_min_length (accepted : Nat) (batch : List Nat) :
    batch.take (min accepted batch.length) = batch.take accepted :=
  List.take_eq_take.2 (by omega)

/-- A TX burst appends the prefix the driver accepted to its own port's queue only. -/
@[simp] theorem phyTx_txBurst (port : Port) (accepted : Nat) (batch : List Nat) :
    (s.txBurst port accepted batch).2.phyTx =
      s.phyTx ++ (if port = .phy then batch.take accepted else []) := by
  cases port <;> simp [txBurst, take_min_length]

@[simp] theorem virtTx_txBurst (port : Port) (accepted : Nat) (batch : List Nat) :
    (s.txBurst port accepted batch).2.virtTx =
      s.virtTx ++ (if port = .virt then batch.take accepted else []) := by
  cases port <;> simp [txBurst, take_min_length]

@[simp] theorem data_freeAll (ms : List Nat) : (s.freeAll ms).data = s.data := rfl

@[simp] theorem virtTx_freeAll (ms : List Nat) : (s.freeAll ms).virtTx = s.virtTx := rfl

@[simp] theorem phyTx_freeAll (ms : List Nat) : (s.freeAll ms).phyTx = s.phyTx := rfl

/-- A TX burst adds the accepted prefix to the port's holders. -/
theorem holders_txBurst (port : Port) (accepted : Nat) (batch : List Nat) (m : Nat) :
    (s.txBurst port accepted batch).2.holders m =
      s.holders m + (batch.take (min accepted batch.length)).count m := by
  cases port <;> simp [txBurst, holders] <;> omega

end Dataplane

open Dataplane

/-- Reference accounting while the burst arrays `held` still own their mbufs: every count
is its number of holders, and the pool got back exactly the handed-out mbufs nobody holds. -/
structure Holds (s : Dataplane) (held : List Nat) : Prop where
  refcnt_eq : ∀ m, s.pool.refcnt m = s.holders m + held.count m
  mem_freed : ∀ m, m ∈ s.pool.freed ↔ m < s.nextId ∧ s.holders m + held.count m = 0
  freed_nodup : s.pool.freed.Nodup
  doubleFree_eq : s.pool.doubleFree = false
  lt_nextId : ∀ m, 0 < s.holders m + held.count m → m < s.nextId

namespace Holds

variable {s : Dataplane} {held : List Nat}

/-- `Holds` reads only the pool, the queues and `nextId`. -/
theorem of_eq {s' : Dataplane} (h : Holds s held) (hp : s'.pool = s.pool)
    (hh : s'.holders = s.holders) (hn : s'.nextId = s.nextId) : Holds s' held :=
  ⟨by simpa [hp, hh] using h.refcnt_eq, by simpa [hp, hh, hn] using h.mem_freed,
    hp ▸ h.freed_nodup, hp ▸ h.doubleFree_eq, by simpa [hh, hn] using h.lt_nextId⟩

theorem init : Holds Dataplane.init [] :=
  ⟨fun _ => rfl, fun _ => by simp [Dataplane.init], List.nodup_nil, rfl,
    fun _ h => by simp [Dataplane.init, holders] at h⟩

/-- An mbuf of a burst array is referenced. -/
theorem pos (h : Holds s held) {m : Nat} (hm : m ∈ held) : 0 < s.pool.refcnt m := by
  have := List.count_pos_iff.2 hm; rw [h.refcnt_eq]; omega

/-- Freeing an mbuf of a burst array hands its reference back. -/
theorem free (h : Holds s held) {m : Nat} (hm : m ∈ held) :
    Holds (s.free m) (held.erase m) := by
  have hc : 0 < held.count m := List.count_pos_iff.2 hm
  have hpos := h.pos hm
  have hnot : m ∉ s.pool.freed := fun hf => by have := ((h.mem_freed m).1 hf).2; omega
  have hcount : ∀ x, (held.erase m).count x = held.count x - if x = m then 1 else 0 := by
    intro x; rw [List.count_erase]
    by_cases hx : x = m
    · subst hx; simp
    · simp [hx, Ne.symm hx]
  refine ⟨fun x => ?_, fun x => ?_, ?_, ?_, fun x hx => ?_⟩ <;>
    simp only [Dataplane.free, Pool.pktmbufFree_of_pos hpos, holders] at *
  · by_cases hx : x = m
    · subst hx; simp [hcount, h.refcnt_eq, holders]; omega
    · simp [hcount, hx, Function.update_noteq hx, h.refcnt_eq, holders]
  · by_cases hx : x = m
    · subst hx; simp [hcount, hnot, h.refcnt_eq, holders, h.lt_nextId x (by omega)]; omega
    · simp [hcount, hx, h.mem_freed, holders]
  · rw [List.nodup_append]
    exact ⟨h.freed_nodup, (List.nodup_singleton m).filter _, fun x hx hy => by
      simp only [List.mem_filter, List.mem_singleton] at hy; exact hnot (hy.1 ▸ hx)⟩
  · exact h.doubleFree_eq
  · by_cases hxm : x = m
    · exact h.lt_nextId x (by subst hxm; omega)
    · rw [hcount, if_neg hxm, Nat.sub_zero] at hx
      exact h.lt_nextId x hx

/-- The free loop over a prefix of the burst arrays. -/
theorem freeAll {ms rest : List Nat} (h : Holds s (ms ++ rest)) : Holds (s.freeAll ms) rest := by
  induction ms generalizing s with
  | nil => exact h
  | cons m ms ih =>
    rw [freeAll_cons]
    have hf := h.free (List.mem_cons_self m _)
    rw [List.cons_append, List.erase_cons_head] at hf
    exact ih hf

/-- Duplicating a held mbuf into the ring adds a holder and a reference together. -/
theorem ringEnqueue (h : Holds s held) {m : Nat} (hm : m ∈ held) :
    Holds ((s.refcntInc m).ringEnqueue m) held := by
  have hc : 0 < held.count m := List.count_pos_iff.2 hm
  have hh : ∀ x, ((s.refcntInc m).ringEnqueue m).holders x = s.holders x + if x = m then 1 else 0 := by
    intro x
    by_cases hx : x = m
    · subst hx; simp [Dataplane.ringEnqueue, Dataplane.refcntInc, holders]; omega
    · simp [Dataplane.ringEnqueue, Dataplane.refcntInc, holders, hx]
  refine ⟨fun x => ?_, fun x => ?_, h.freed_nodup, h.doubleFree_eq, fun x hx => ?_⟩
  · rw [hh]
    by_cases hx : x = m
    · subst hx; simp [Dataplane.ringEnqueue, Dataplane.refcntInc, Pool.refcntInc, h.refcnt_eq]; omega
    · simp [Dataplane.ringEnqueue, Dataplane.refcntInc, Pool.refcntInc, hx,
        Function.update_noteq hx, h.refcnt_eq]
  · rw [hh]
    by_cases hx : x = m
    · subst hx
      have : x ∉ s.pool.freed := fun hf => by have := ((h.mem_freed x).1 hf).2; omega
      simp [Dataplane.ringEnqueue, Dataplane.refcntInc, Pool.refcntInc, this]
    · simpa [hx] using h.mem_freed x
  · rw [hh] at hx
    by_cases hxm : x = m
    · subst hxm; exact h.lt_nextId x (by omega)
    · exact h.lt_nextId x (by simpa [hxm] using hx)

/-- An RX burst adds its fresh mbufs to the burst arrays. -/
theorem rxBurst (h : Holds s held) (waiting : List Frame) :
    Holds (s.rxBurst waiting).2 (held ++ (s.rxBurst waiting).1) := by
  obtain ⟨k, hk⟩ : ∃ k, (waiting.take BURST_SIZE).length = k := ⟨_, rfl⟩
  simp only [Dataplane.rxBurst, hk]
  have hc : ∀ x, (held ++ List.range' s.nextId k).count x =
      held.count x + if s.nextId ≤ x ∧ x < s.nextId + k then 1 else 0 := fun x => by
    rw [List.count_append, List.count_eq_of_nodup (List.nodup_range' _ _)]
    simp [List.mem_range'_1]
  have hfresh : ∀ x, s.nextId ≤ x → s.holders x + held.count x = 0 := fun x hx => by
    by_contra hne; have := h.lt_nextId x (by omega); omega
  refine ⟨fun x => ?_, fun x => ?_, h.freed_nodup, h.doubleFree_eq, fun x hx => ?_⟩ <;>
    rw [hc] at * <;> have hr := h.refcnt_eq x <;> have hm := h.mem_freed x
  · show (if _ then 1 else _) = s.holders x + _
    split_ifs with hf
    · have := hfresh x hf.1; omega
    · omega
  · show _ ↔ _ < s.nextId + k ∧ s.holders x + _ = 0
    rw [hm]
    split_ifs with hf
    · have := hfresh x hf.1; omega
    · by_cases hn : s.nextId ≤ x
      · have := hfresh x hn; omega
      · omega
  · change 0 < s.holders x + _ at hx
    show x < s.nextId + k
    split_ifs at hx with hf
    · omega
    · have := h.lt_nextId x (by omega); omega

/-- A TX burst moves the accepted prefix of the batch from the burst array to the queue. -/
theorem txBurst {batch : List Nat} (h : Holds s batch) (port : Port) (accepted : Nat) :
    Holds (s.txBurst port accepted batch).2 (batch.drop (s.txBurst port accepted batch).1) := by
  have hc : ∀ x, batch.count x = (batch.take (min accepted batch.length)).count x +
      (batch.drop (min accepted batch.length)).count x := fun x => by
    rw [← List.count_append, List.take_append_drop]
  have hh := holders_txBurst (s := s) port accepted batch
  refine ⟨fun x => ?_, fun x => ?_, ?_, ?_, fun x hx => ?_⟩ <;>
    simp only [pool_txBurst, nextId_txBurst, hh, txBurst_fst] at *
  · rw [h.refcnt_eq, hc]; omega
  · rw [h.mem_freed, hc]; omega
  · exact h.freed_nodup
  · exact h.doubleFree_eq
  · exact h.lt_nextId x (by rw [hc]; omega)

/-- The free loop over a whole burst array. -/
theorem freeAll_all {ms : List Nat} (h : Holds s ms) : Holds (s.freeAll ms) [] :=
  Holds.freeAll (by rwa [List.append_nil])

/-- The free loop over what a driver refused leaves no burst array alive. -/
theorem refused {batch : List Nat} {n : Nat} (h : Holds s (batch.drop n)) :
    Holds (if n < batch.length then s.freeAll (batch.drop n) else s) [] := by
  split_ifs with hn
  · exact Holds.freeAll (by simpa using h)
  · rwa [List.drop_eq_nil_of_le (by omega)] at h

end Holds

end AeroGateway.Forwarding
