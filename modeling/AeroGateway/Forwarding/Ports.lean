import Mathlib.Data.List.Infix
import AeroGateway.Forwarding.Loop
import AeroGateway.Market.Json

/-!
# The port mapping

`init_port_mapping` walks the Ethernet devices in port order: a device whose driver name
contains `net_virtio_user` becomes the virtual (kernel) port, any other the physical port, each
overwriting what an earlier device set. It exits when no physical port was found, and only
warns when no virtual port was found. The forwarding loop takes the virtual port as present
when `virt_port_id != RTE_MAX_ETHPORTS`.

So the physical port is the last non-virtio device and the virtual port the last virtio-user
one; and when no device is virtio-user, the bridge never moves a frame: no run of the loop
hands anything to the kernel or transmits anything on the physical port.
-/

namespace AeroGateway.Forwarding

open Market

/-- `RTE_MAX_ETHPORTS` of the default DPDK build. -/
def RTE_MAX_ETHPORTS : Nat := 32

/-- A device `RTE_ETH_FOREACH_DEV` yields: its port id and `dev_info.driver_name`. -/
structure EthDev where
  portId : Nat
  driverName : Bytes
  deriving DecidableEq, Repr

/-- `strstr(dev_info.driver_name, "net_virtio_user")` finds the name. -/
def isVirtioUser (d : EthDev) : Bool := decide (bytesOf "net_virtio_user" <:+: d.driverName)

/-- `phy_port_id` and `virt_port_id`, and the loop's `found_phy` and `found_virt`. -/
structure PortScan where
  phyPortId : Nat
  virtPortId : Nat
  foundPhy : Bool
  foundVirt : Bool
  deriving DecidableEq, Repr

/-- Both ids at `RTE_MAX_ETHPORTS`, nothing found. -/
def PortScan.init : PortScan := ⟨RTE_MAX_ETHPORTS, RTE_MAX_ETHPORTS, false, false⟩

/-- One pass of the loop body. -/
def scanPort (s : PortScan) (d : EthDev) : PortScan :=
  if isVirtioUser d then { s with virtPortId := d.portId, foundVirt := true }
  else { s with phyPortId := d.portId, foundPhy := true }

/-- `init_port_mapping`; `none` where it calls `rte_exit`. -/
def initPortMapping (devs : List EthDev) : Option PortScan :=
  let s := devs.foldl scanPort PortScan.init
  if s.foundPhy then some s else none

/-- `virt_port_id != RTE_MAX_ETHPORTS`, the forwarding loop's test for the virtual port. -/
def PortScan.virtPresent (s : PortScan) : Bool := s.virtPortId != RTE_MAX_ETHPORTS

/-- The id of the last device that `p` picks, or `dflt`. -/
def lastPortId (p : EthDev → Bool) (devs : List EthDev) (dflt : Nat) : Nat :=
  (((devs.filter p).getLast?).map EthDev.portId).getD dflt

/-! ## What the scan finds -/

theorem lastPortId_cons (p : EthDev → Bool) (d : EthDev) (devs : List EthDev) (dflt : Nat) :
    lastPortId p (d :: devs) dflt = lastPortId p devs (if p d then d.portId else dflt) := by
  unfold lastPortId
  by_cases hp : p d
  · rw [List.filter_cons_of_pos hp, List.getLast?_cons, if_pos hp]
    cases (devs.filter p).getLast? <;> rfl
  · rw [List.filter_cons_of_neg hp, if_neg hp]

/-- The scan leaves each id at the last device of its kind and records whether there was
one. -/
theorem foldl_scanPort (devs : List EthDev) (s : PortScan) :
    devs.foldl scanPort s =
      ⟨lastPortId (fun d => !isVirtioUser d) devs s.phyPortId,
        lastPortId isVirtioUser devs s.virtPortId,
        s.foundPhy || devs.any (fun d => !isVirtioUser d), s.foundVirt || devs.any isVirtioUser⟩ := by
  induction devs generalizing s with
  | nil => simp [lastPortId]
  | cons d devs ih =>
    rw [List.foldl_cons, ih, lastPortId_cons, lastPortId_cons]
    cases hv : isVirtioUser d <;> simp [scanPort, hv]

/-- `init_port_mapping` exits exactly when every device is virtio-user; otherwise the
physical port is the last other device, an earlier one being left unused, and the virtual
port the last virtio-user device, if any. -/
theorem initPortMapping_eq (devs : List EthDev) :
    initPortMapping devs =
      if devs.any (fun d => !isVirtioUser d) then
        some ⟨lastPortId (fun d => !isVirtioUser d) devs RTE_MAX_ETHPORTS,
          lastPortId isVirtioUser devs RTE_MAX_ETHPORTS, true, devs.any isVirtioUser⟩
      else none := by
  simp only [initPortMapping, foldl_scanPort]
  cases devs.any (fun d => !isVirtioUser d) <;> rfl

theorem lastPortId_mem {p : EthDev → Bool} {devs : List EthDev} {dflt : Nat}
    (h : devs.any p = true) : ∃ d ∈ devs, p d ∧ lastPortId p devs dflt = d.portId := by
  obtain ⟨d, hd⟩ : ∃ d, (devs.filter p).getLast? = some d := by
    refine Option.isSome_iff_exists.mp (Option.ne_none_iff_isSome.mp fun hn => ?_)
    obtain ⟨x, hx, hpx⟩ := List.any_eq_true.mp h
    rw [List.getLast?_eq_none_iff] at hn
    exact List.not_mem_nil x (hn ▸ List.mem_filter.mpr ⟨hx, hpx⟩)
  have hm := List.mem_filter.mp (List.mem_of_getLast?_eq_some hd)
  exact ⟨d, hm.1, hm.2, by simp [lastPortId, hd]⟩

theorem lastPortId_of_none {p : EthDev → Bool} {devs : List EthDev} {dflt : Nat}
    (h : devs.any p = false) : lastPortId p devs dflt = dflt := by
  have hf : devs.filter p = [] := List.filter_eq_nil_iff.mpr fun d hd hp =>
    by simp only [List.any_eq_false] at h; exact absurd hp (by simpa using h d hd)
  simp [lastPortId, hf]

/-- With port ids below `RTE_MAX_ETHPORTS`, as DPDK hands them out, the loop sees a virtual
port exactly when some device is virtio-user. -/
theorem virtPresent_initPortMapping {devs : List EthDev} {s : PortScan}
    (hid : ∀ d ∈ devs, d.portId < RTE_MAX_ETHPORTS) (hs : initPortMapping devs = some s) :
    s.virtPresent = devs.any isVirtioUser := by
  simp only [initPortMapping, foldl_scanPort] at hs
  split_ifs at hs
  cases hs
  simp only [PortScan.virtPresent, PortScan.init]
  cases hv : devs.any isVirtioUser
  · simp [lastPortId_of_none hv]
  · obtain ⟨d, hd, -, he⟩ := @lastPortId_mem _ _ RTE_MAX_ETHPORTS hv
    have := hid d hd
    simp only [he, bne_iff_ne, ne_eq]
    omega

/-- A physical device and a virtio-user one, the layout the gateway is deployed with. -/
def ixgbeAndVirtio : List EthDev := [⟨0, bytesOf "net_ixgbe"⟩, ⟨1, bytesOf "net_virtio_user"⟩]

theorem virtPresent_initPortMapping_ixgbe :
    (∀ d ∈ ixgbeAndVirtio, d.portId < RTE_MAX_ETHPORTS) ∧
      initPortMapping ixgbeAndVirtio = some ⟨0, 1, true, true⟩ ∧
      PortScan.virtPresent ⟨0, 1, true, true⟩ = ixgbeAndVirtio.any isVirtioUser :=
  have hid : ∀ d ∈ ixgbeAndVirtio, d.portId < RTE_MAX_ETHPORTS := by decide
  have hm : initPortMapping ixgbeAndVirtio = some ⟨0, 1, true, true⟩ := by decide
  ⟨hid, hm, virtPresent_initPortMapping hid hm⟩

/-! ## Without a virtual port -/

/-- Nothing crossed the bridge: both TX queues and the loop's kernel and egress counters are
as they were. -/
structure Unbridged (s s' : Dataplane) : Prop where
  virtTx : s'.virtTx = s.virtTx
  phyTx : s'.phyTx = s.phyTx
  tx_virt_total : s'.tx_virt_total = s.tx_virt_total
  rx_virt_total : s'.rx_virt_total = s.rx_virt_total
  tx_phy_total : s'.tx_phy_total = s.tx_phy_total

theorem Unbridged.refl (s : Dataplane) : Unbridged s s := ⟨rfl, rfl, rfl, rfl, rfl⟩

theorem Unbridged.trans {s₁ s₂ s₃ : Dataplane} (h₁ : Unbridged s₁ s₂) (h₂ : Unbridged s₂ s₃) :
    Unbridged s₁ s₃ :=
  ⟨h₂.1.trans h₁.1, h₂.2.trans h₁.2, h₂.3.trans h₁.3, h₂.4.trans h₁.4, h₂.5.trans h₁.5⟩

variable {classify : Frame → TrafficType}

theorem unbridged_classifyBurst (ringRoom : Nat → Bool) (pkts kernelTx : List Nat)
    (s : Dataplane) : Unbridged s (classifyBurst classify ringRoom pkts kernelTx s).2 := by
  induction pkts generalizing kernelTx s with
  | nil => exact .refl s
  | cons m ms ih =>
    simp only [classifyBurst]
    split_ifs
    · refine Unbridged.trans ?_ (ih _ _)
      exact ⟨rfl, rfl, rfl, rfl, rfl⟩
    · refine Unbridged.trans ?_ (ih _ _)
      exact ⟨rfl, rfl, rfl, rfl, rfl⟩
    · exact ih _ _

theorem unbridged_ingressBurst (w : Wire) (s : Dataplane) :
    Unbridged s (ingressBurst classify w s).2.2 := by
  simp only [ingressBurst]
  split_ifs
  · refine Unbridged.trans ?_ (unbridged_classifyBurst _ _ _ _)
    exact ⟨rfl, rfl, rfl, rfl, rfl⟩
  · exact ⟨rfl, rfl, rfl, rfl, rfl⟩

/-- With no virtual port an iteration frees the kernel batch and bridges nothing back. -/
theorem unbridged_forwardIteration (w : Wire) (s : Dataplane) :
    Unbridged s (forwardIteration classify false w s) := by
  have hb : Unbridged s (ingressBurst classify w s).2.2 := unbridged_ingressBurst w s
  show Unbridged s (ingress classify false w s)
  unfold ingress
  dsimp only
  rw [if_neg Bool.false_ne_true]
  split_ifs
  · exact hb.trans ⟨rfl, rfl, rfl, rfl, rfl⟩
  · exact hb

theorem unbridged_forwardRun (ws : List Wire) (s : Dataplane) :
    Unbridged s (forwardRun classify false ws s) := by
  induction ws generalizing s with
  | nil => exact .refl s
  | cons w ws ih => exact (unbridged_forwardIteration w s).trans (ih _)

/-- When no device is virtio-user, `init_port_mapping` leaves the loop without a virtual port,
and then no run of the loop transmits a frame on either port: the exception path to the
kernel, and the way back out of it, are both dead. -/
theorem no_virtio_port_never_bridges {devs : List EthDev} {ports : PortScan}
    (hm : initPortMapping devs = some ports) (hv : devs.any isVirtioUser = false)
    (classify : Frame → TrafficType) (ws : List Wire) (s : Dataplane) :
    ports.virtPresent = false ∧ Unbridged s (forwardRun classify ports.virtPresent ws s) := by
  have hp : ports.virtPresent = false := by
    simp only [initPortMapping, foldl_scanPort] at hm
    split_ifs at hm
    cases hm
    simp [PortScan.virtPresent, PortScan.init, lastPortId_of_none hv]
  exact ⟨hp, hp ▸ unbridged_forwardRun ws s⟩

/-- One physical device, `net_ixgbe`, and no virtio-user one. -/
def ixgbeOnly : List EthDev := [⟨0, bytesOf "net_ixgbe"⟩]

theorem no_virtio_port_never_bridges_ixgbe :
    initPortMapping ixgbeOnly = some ⟨0, RTE_MAX_ETHPORTS, true, false⟩ ∧
      ixgbeOnly.any isVirtioUser = false ∧
      (PortScan.virtPresent ⟨0, RTE_MAX_ETHPORTS, true, false⟩ = false ∧
        Unbridged Dataplane.init
          (forwardRun (fun _ => .STANDARD) (PortScan.virtPresent ⟨0, RTE_MAX_ETHPORTS, true, false⟩)
            [] Dataplane.init)) :=
  have hm : initPortMapping ixgbeOnly = some ⟨0, RTE_MAX_ETHPORTS, true, false⟩ := by decide
  have hv : ixgbeOnly.any isVirtioUser = false := by decide
  ⟨hm, hv, no_virtio_port_never_bridges hm hv _ [] Dataplane.init⟩

end AeroGateway.Forwarding
