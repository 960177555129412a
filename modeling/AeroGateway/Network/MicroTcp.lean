import Mathlib.Algebra.Group.Nat.Basic
import Mathlib.Data.List.ReduceOption
import AeroGateway.Forwarding.Classifier

/-!
# The userspace TCP

`MicroTcp` keeps the sequence numbers of one client connection and the bytes received in order.
`process_rx` checks that a frame holds its Ethernet, IPv4 and TCP headers, then takes the
payload length from the IPv4 total length, without comparing it with the frame. An in-order
segment advances `rcv_nxt_` by that length and is acknowledged, whether its bytes go into
`rx_buffer_` or are dropped at the 10 MB cap; a peer's acknowledgment moves `snd_una_` whenever
it is greater, compared as an unsigned integer.

The model carries ghost data: the peer's initial sequence number, the FINs counted into
`rcv_nxt_`, every accepted segment with whether it was kept and whether it lay inside its frame,
and what `extract_rx_data` returned. Over every run, `rcv_nxt_` counts the peer's SYN, every
accepted segment and every FIN, and what was extracted followed by the buffer is the kept
segments' bytes.

`rte_pktmbuf_alloc` can fail: the pool is shared with the NIC, so what it answers is the
environment's, given as the list `mbufPool`. A failed allocation makes `create_tcp_packet`
return a null pointer before `update_snd_nxt`: `connect` has already moved to `SYN_SENT`,
`send_data` returns the null pointer, and `process_rx` pushes it into the vector it returns.
Checksums and the header template are not modelled.
-/

namespace AeroGateway.Network

open Forwarding

/-- `MicroTcp::TcpState`. -/
inductive TcpState
  | CLOSED
  | SYN_SENT
  | ESTABLISHED
  | FIN_WAIT_1
  | FIN_WAIT_2
  | TIME_WAIT
  deriving DecidableEq, Repr

/-- `RTE_TCP_FIN_FLAG`. -/
def RTE_TCP_FIN_FLAG : UInt8 := 0x01

/-- `RTE_TCP_SYN_FLAG`. -/
def RTE_TCP_SYN_FLAG : UInt8 := 0x02

/-- `RTE_TCP_PSH_FLAG`. -/
def RTE_TCP_PSH_FLAG : UInt8 := 0x08

/-- `RTE_TCP_ACK_FLAG`. -/
def RTE_TCP_ACK_FLAG : UInt8 := 0x10

/-- `MicroTcp::MAX_RX_BUFFER_SIZE`. -/
def MAX_RX_BUFFER_SIZE : Nat := 10 * 1024 * 1024

/-- `rte_be_to_cpu_32` of the 32-bit field at `off`. -/
def be32 (buf : Nat → UInt8) (off : Nat) : Nat := be16 buf off * 65536 + be16 buf (off + 2)

/-- The addresses and ports `MicroTcp` was made with: its own, then its peer's. -/
structure Endpoints where
  srcIp : UInt32
  srcPort : UInt16
  dstIp : UInt32
  dstPort : UInt16
  deriving DecidableEq, Repr

/-- A segment `create_tcp_packet` builds. -/
structure Segment where
  flags : UInt8
  seq : UInt32
  ack : UInt32
  payload : List UInt8
  deriving DecidableEq, Repr

/-- An in-order segment `process_rx` accepted: the bytes its payload pointer reaches, whether
they went into `rx_buffer_`, and whether they lie inside the frame. -/
structure Accepted where
  payload : List UInt8
  kept : Bool
  inFrame : Bool
  deriving DecidableEq, Repr

/-- `MicroTcp`'s connection state, with ghost data. -/
structure MicroTcp where
  /-- `state_`. -/
  state : TcpState
  /-- `iss_`. -/
  iss : UInt32
  /-- `snd_una_`. -/
  sndUna : UInt32
  /-- `snd_nxt_`. -/
  sndNxt : UInt32
  /-- `rcv_nxt_`. -/
  rcvNxt : UInt32
  /-- `rx_buffer_`. -/
  rxBuffer : List UInt8
  /-- Ghost: the peer's initial sequence number, from the SYN-ACK. -/
  irs : UInt32
  /-- Ghost: the FINs counted into `rcv_nxt_`. -/
  fins : Nat
  /-- Ghost: the in-order segments accepted, in order. -/
  accepted : List Accepted
  /-- Ghost: the bytes `extract_rx_data` returned, in order. -/
  extracted : List UInt8
  /-- What `rte_pktmbuf_alloc(mbuf_pool_)` answers to the allocations still to come: `false`
  is a null pointer, and past the list every allocation succeeds. -/
  mbufPool : List Bool
  deriving DecidableEq, Repr

namespace MicroTcp

/-- The constructor: `CLOSED`, `snd_una_ = 0`, `snd_nxt_ = iss_ = rte_rand()`, over a pool
that answers `mbufPool`. -/
def init (iss : UInt32) (mbufPool : List Bool) : MicroTcp :=
  ⟨.CLOSED, iss, 0, iss, 0, [], 0, 0, [], [], mbufPool⟩

variable (t : MicroTcp)

/-- `update_snd_nxt`. -/
def updateSndNxt (sentLen : UInt32) : MicroTcp := { t with sndNxt := t.sndNxt + sentLen }

/-- What `create_tcp_packet` adds to `snd_nxt_`: the payload's length, or one for a SYN or a
FIN without payload. -/
def sentLen (flags : UInt8) (payload : List UInt8) : UInt32 :=
  if payload.length > 0 then UInt32.ofNat payload.length
  else if flags &&& RTE_TCP_SYN_FLAG != 0 || flags &&& RTE_TCP_FIN_FLAG != 0 then 1 else 0

/-- Whether `rte_pktmbuf_alloc` hands out an mbuf to the next allocation. -/
def allocOk : Bool := t.mbufPool.headD true

/-- `create_tcp_packet`: a null pointer when the allocation fails, with only the pool moved on;
otherwise a SYN carries `iss_` and no acknowledgment, any other segment `snd_nxt_` and
`rcv_nxt_`, and then `snd_nxt_` advances. -/
def createTcpPacket (flags : UInt8) (payload : List UInt8) : MicroTcp × Option Segment :=
  let t' := { t with mbufPool := t.mbufPool.tail }
  if t.allocOk then
    let seg : Segment :=
      if flags &&& RTE_TCP_SYN_FLAG != 0 then ⟨flags, t.iss, 0, payload⟩
      else ⟨flags, t.sndNxt, t.rcvNxt, payload⟩
    (t'.updateSndNxt (sentLen flags payload), some seg)
  else (t', none)

/-- `connect`: from `CLOSED`, `SYN_SENT`, then the SYN `create_tcp_packet` builds, if any. -/
def connect : MicroTcp × Option Segment :=
  if t.state ≠ .CLOSED then (t, none)
  else createTcpPacket { t with state := .SYN_SENT } RTE_TCP_SYN_FLAG []

/-- `send_data(data, len)`: in `ESTABLISHED`, the `len` bytes at `data` with PSH and ACK. -/
def sendData (len : UInt16) (data : Nat → UInt8) : MicroTcp × Option Segment :=
  if t.state ≠ .ESTABLISHED then (t, none)
  else t.createTcpPacket (RTE_TCP_PSH_FLAG ||| RTE_TCP_ACK_FLAG) ((List.range len.toNat).map data)

/-- `extract_rx_data`: the buffer, which is cleared. -/
def extractRxData : MicroTcp × List UInt8 :=
  ({ t with rxBuffer := [], extracted := t.extracted ++ t.rxBuffer }, t.rxBuffer)

/-- `create_tcp_packet` moves the pool on, and `snd_nxt_` only when the allocation succeeds. -/
theorem createTcpPacket_fst (flags : UInt8) (payload : List UInt8) :
    (t.createTcpPacket flags payload).1 = { t with
      sndNxt := if t.allocOk then t.sndNxt + sentLen flags payload else t.sndNxt
      mbufPool := t.mbufPool.tail } := by
  unfold createTcpPacket updateSndNxt; split <;> rfl

/-- The segment `create_tcp_packet` returns, when the allocation succeeds. -/
theorem createTcpPacket_snd (flags : UInt8) (payload : List UInt8) :
    (t.createTcpPacket flags payload).2 = if t.allocOk then
      some (if flags &&& RTE_TCP_SYN_FLAG != 0 then ⟨flags, t.iss, 0, payload⟩
        else ⟨flags, t.sndNxt, t.rcvNxt, payload⟩)
    else none := by
  unfold createTcpPacket; split <;> rfl

@[simp] theorem state_createTcpPacket (flags : UInt8) (payload : List UInt8) :
    (t.createTcpPacket flags payload).1.state = t.state := by
  rw [createTcpPacket_fst]

@[simp] theorem iss_createTcpPacket (flags : UInt8) (payload : List UInt8) :
    (t.createTcpPacket flags payload).1.iss = t.iss := by
  rw [createTcpPacket_fst]

end MicroTcp

/-- `parse_tcp_packet`: the IPv4 header length and the TCP header length, when the frame holds
an Ethernet header with EtherType IPv4, a TCP/IPv4 header of at least 20 bytes and a TCP
header of at least 20 bytes. -/
def parseTcpPacket (m : Mbuf) : Option (Nat × Nat) :=
  if m.dataLen < 14 then none
  else if be16 m.buf 12 ≠ RTE_ETHER_TYPE_IPV4 then none
  else if m.dataLen < 14 + 20 then none
  else if m.buf 23 ≠ IPPROTO_TCP then none
  else
    let ihl := (m.buf 14 &&& 0xF).toNat * 4
    if ihl < 20 ∨ m.dataLen < 14 + ihl + 20 then none
    else
      let tcpOff := (m.buf (14 + ihl + 12) >>> 4).toNat * 4
      if tcpOff < 20 ∨ m.dataLen < 14 + ihl + tcpOff then none
      else some (ihl, tcpOff)

namespace MicroTcp

variable (t : MicroTcp)

/-- `tx_pkts.push_back(create_tcp_packet(RTE_TCP_ACK_FLAG, nullptr, 0))`: an acknowledgment, or
the null pointer of a failed allocation. -/
def pushAck : MicroTcp × List (Option Segment) :=
  ((t.createTcpPacket RTE_TCP_ACK_FLAG []).1, [(t.createTcpPacket RTE_TCP_ACK_FLAG []).2])

/-- The `SYN_SENT` case of `process_rx`: a SYN-ACK that acknowledges the SYN establishes the
connection. -/
def onSynSent (seq ack : UInt32) (flags : UInt8) : MicroTcp × List (Option Segment) :=
  if flags &&& RTE_TCP_SYN_FLAG ≠ 0 ∧ flags &&& RTE_TCP_ACK_FLAG ≠ 0 ∧ ack = t.iss + 1 then
    pushAck { t with rcvNxt := seq + 1, sndUna := ack, state := .ESTABLISHED, irs := seq }
  else (t, [])

/-- The data part of the `ESTABLISHED` case: in-order data is buffered below the cap, counted
into `rcv_nxt_` and acknowledged; an older segment is acknowledged again; a later one dropped. -/
def onData (m : Mbuf) (payloadOff tcpDataLen : Nat) (seq : UInt32) :
    MicroTcp × List (Option Segment) :=
  if tcpDataLen > 0 then
    if seq = t.rcvNxt then
      let payload := (List.range tcpDataLen).map fun i => m.buf (payloadOff + i)
      let kept := !(t.rxBuffer.length + tcpDataLen > MAX_RX_BUFFER_SIZE)
      pushAck { t with
        rxBuffer := if kept then t.rxBuffer ++ payload else t.rxBuffer
        rcvNxt := t.rcvNxt + UInt32.ofNat tcpDataLen
        accepted :=
          t.accepted ++ [Accepted.mk payload kept (decide (payloadOff + tcpDataLen ≤ m.dataLen))] }
    else if seq < t.rcvNxt then t.pushAck
    else (t, [])
  else (t, [])

/-- The `ESTABLISHED` case of `process_rx`: the data, then the acknowledgment, then a FIN. -/
def onEstablished (m : Mbuf) (payloadOff tcpDataLen : Nat) (seq ack : UInt32) (flags : UInt8) :
    MicroTcp × List (Option Segment) :=
  let d := t.onData m payloadOff tcpDataLen seq
  let t := if ack > d.1.sndUna then { d.1 with sndUna := ack } else d.1
  if flags &&& RTE_TCP_FIN_FLAG ≠ 0 then
    let a := pushAck { t with rcvNxt := t.rcvNxt + 1, state := .FIN_WAIT_1, fins := t.fins + 1 }
    ({ a.1 with state := .FIN_WAIT_2 }, d.2 ++ a.2)
  else (t, d.2)

/-- The `FIN_WAIT_2` case of `process_rx`: a FIN is counted and acknowledged. -/
def onFinWait2 (flags : UInt8) : MicroTcp × List (Option Segment) :=
  if flags &&& RTE_TCP_FIN_FLAG ≠ 0 then
    let a := pushAck { t with rcvNxt := t.rcvNxt + 1, fins := t.fins + 1 }
    ({ a.1 with state := .TIME_WAIT }, a.2)
  else (t, [])

@[simp] theorem state_pushAck : t.pushAck.1.state = t.state := state_createTcpPacket t _ _

/-- `process_rx`: a frame for this connection from its peer, whose total length covers the
headers, goes to the case of the current state. The vector holds what each `create_tcp_packet`
returned, a null pointer included. -/
def processRx (ep : Endpoints) (m : Mbuf) : MicroTcp × List (Option Segment) :=
  match parseTcpPacket m with
  | none => (t, [])
  | some (ihl, tcpOff) =>
    let tcp := 14 + ihl
    if be32 m.buf 30 ≠ ep.srcIp.toNat ∨ be16 m.buf (tcp + 2) ≠ ep.srcPort.toNat then (t, [])
    else if be32 m.buf 26 ≠ ep.dstIp.toNat ∨ be16 m.buf tcp ≠ ep.dstPort.toNat then (t, [])
    else
      let ipLen := be16 m.buf 16
      if ipLen < ihl + tcpOff then (t, [])
      else
        let tcpDataLen := ipLen - ihl - tcpOff
        let seq := UInt32.ofNat (be32 m.buf (tcp + 4))
        let ack := UInt32.ofNat (be32 m.buf (tcp + 8))
        let flags := m.buf (tcp + 13)
        match t.state with
        | .SYN_SENT => t.onSynSent seq ack flags
        | .ESTABLISHED => t.onEstablished m (tcp + tcpOff) tcpDataLen seq ack flags
        | .FIN_WAIT_2 => t.onFinWait2 flags
        | _ => (t, [])

end MicroTcp

/-- A call on the connection. -/
inductive TcpAction
  | connect
  | processRx (m : Mbuf)
  | sendData (len : UInt16) (data : Nat → UInt8)
  | extractRxData

namespace MicroTcp

variable (ep : Endpoints)

/-- One call, its results dropped. -/
def step : TcpAction → MicroTcp → MicroTcp
  | .connect, t => t.connect.1
  | .processRx m, t => (t.processRx ep m).1
  | .sendData len data, t => (t.sendData len data).1
  | .extractRxData, t => t.extractRxData.1

/-- The states reachable from the constructor with some initial sequence number. -/
inductive Reachable : MicroTcp → Prop
  | init (iss : UInt32) (mbufPool : List Bool) : Reachable (init iss mbufPool)
  | step {t : MicroTcp} (a : TcpAction) : Reachable t → Reachable (step ep a t)

/-- The calls of a run, one after another. -/
def run (acts : List TcpAction) (t : MicroTcp) : MicroTcp := acts.foldl (fun t a => step ep a t) t

theorem run_append (acts acts' : List TcpAction) (t : MicroTcp) :
    run ep (acts ++ acts') t = run ep acts' (run ep acts t) :=
  List.foldl_append _ _ _ _

theorem run_singleton (a : TcpAction) (t : MicroTcp) : run ep [a] t = step ep a t := rfl

/-! ## The receive side over every run -/

/-- The bytes of the accepted segments that went into the buffer. -/
def keptBytes (as : List Accepted) : List UInt8 := (as.filter (·.kept)).flatMap (·.payload)

/-- The bytes of the accepted segments, kept or not. -/
def acceptedBytes (as : List Accepted) : List UInt8 := as.flatMap (·.payload)

/-- What `rcv_nxt_` and the buffers account for: the extracted bytes and the buffer are the
kept bytes; once established, `rcv_nxt_` is the peer's ISN plus its SYN, the accepted
segments and the FINs, modulo 2^32; before, nothing was accepted; and the buffer is within the
cap. -/
structure RxAccounted (t : MicroTcp) : Prop where
  delivered : t.extracted ++ t.rxBuffer = keptBytes t.accepted
  rcvNxt_eq : t.state ≠ .CLOSED → t.state ≠ .SYN_SENT →
    t.rcvNxt.toNat = (t.irs.toNat + 1 + (acceptedBytes t.accepted).length + t.fins) % 2 ^ 32
  before_open : t.state = .CLOSED ∨ t.state = .SYN_SENT → t.accepted = [] ∧ t.fins = 0
  rxBuffer_le : t.rxBuffer.length ≤ MAX_RX_BUFFER_SIZE

theorem toNat_add_ofNat (a : UInt32) (n : Nat) :
    (a + UInt32.ofNat n).toNat = (a.toNat + n) % 2 ^ 32 := by
  show (a.toNat + n % 2 ^ 32) % 2 ^ 32 = _
  omega

theorem ofNat_toNat32 (x : UInt32) : UInt32.ofNat x.toNat = x :=
  UInt32.eq_of_toBitVec_eq (BitVec.eq_of_toNat_eq (Nat.mod_eq_of_lt x.toBitVec.isLt))

variable {t : MicroTcp}

/-- Building a segment, or failing to, touches nothing of the receive side. -/
theorem RxAccounted.createTcpPacket (h : RxAccounted t) (flags : UInt8) (payload : List UInt8) :
    RxAccounted (t.createTcpPacket flags payload).1 := by
  rw [createTcpPacket_fst]; exact ⟨h.1, h.2, h.3, h.4⟩

theorem RxAccounted.pushAck (h : RxAccounted t) : RxAccounted t.pushAck.1 := h.createTcpPacket _ _

theorem RxAccounted.onSynSent (h : RxAccounted t) (hs : t.state = .SYN_SENT) (seq ack : UInt32)
    (flags : UInt8) : RxAccounted (t.onSynSent seq ack flags).1 := by
  unfold MicroTcp.onSynSent
  split_ifs
  · obtain ⟨ha, hf⟩ := h.before_open (.inr hs)
    refine RxAccounted.pushAck ?_
    refine ⟨h.delivered, fun _ _ => ?_, fun h' => by simp at h', h.rxBuffer_le⟩
    simp only [ha, hf, acceptedBytes, List.flatMap_nil, List.length_nil, Nat.add_zero]
    exact toNat_add_ofNat seq 1
  · exact h

theorem keptBytes_append (as : List Accepted) (a : Accepted) :
    keptBytes (as ++ [a]) = keptBytes as ++ if a.kept then a.payload else [] := by
  cases h : a.kept <;> simp [keptBytes, h]

theorem acceptedBytes_append (as : List Accepted) (a : Accepted) :
    acceptedBytes (as ++ [a]) = acceptedBytes as ++ a.payload := by
  simp [acceptedBytes]

theorem RxAccounted.onData (h : RxAccounted t) (hs : t.state = .ESTABLISHED) (m : Mbuf)
    (payloadOff tcpDataLen : Nat) (seq : UInt32) :
    RxAccounted (t.onData m payloadOff tcpDataLen seq).1 ∧
      (t.onData m payloadOff tcpDataLen seq).1.state = .ESTABLISHED := by
  unfold MicroTcp.onData
  split_ifs with hlen hseq hdup
  · refine ⟨RxAccounted.pushAck ?_, by rw [state_pushAck]; exact hs⟩
    generalize hpay : (List.range tcpDataLen).map (fun i => m.buf (payloadOff + i)) = payload
    have hp : payload.length = tcpDataLen := by rw [← hpay]; simp
    generalize hk : (!decide (t.rxBuffer.length + tcpDataLen > MAX_RX_BUFFER_SIZE)) = kept
    refine ⟨?_, fun _ _ => ?_, fun h' => by simp [hs] at h', ?_⟩ <;> dsimp only
    · rw [keptBytes_append, ← h.delivered]
      cases kept <;> simp
    · rw [acceptedBytes_append, List.length_append, hp, toNat_add_ofNat,
        h.rcvNxt_eq (by simp [hs]) (by simp [hs])]
      omega
    · cases kept
      · exact h.rxBuffer_le
      · simp only [Bool.not_eq_true', decide_eq_false_iff_not, not_lt] at hk
        simp only [if_true, List.length_append, hp]
        exact hk
  · exact ⟨h.pushAck, by rw [state_pushAck]; exact hs⟩
  · exact ⟨h, hs⟩
  · exact ⟨h, hs⟩

theorem RxAccounted.setState (h : RxAccounted t) (hopen : t.state ≠ .CLOSED ∧ t.state ≠ .SYN_SENT)
    (st : TcpState) (hst : st ≠ .CLOSED ∧ st ≠ .SYN_SENT) : RxAccounted { t with state := st } :=
  ⟨h.delivered, fun _ _ => h.rcvNxt_eq hopen.1 hopen.2,
    fun h' => (h'.elim hst.1 hst.2).elim, h.rxBuffer_le⟩

/-- A FIN takes one sequence number. -/
theorem RxAccounted.fin (h : RxAccounted t) (hopen : t.state ≠ .CLOSED ∧ t.state ≠ .SYN_SENT) :
    RxAccounted { t with rcvNxt := t.rcvNxt + 1, fins := t.fins + 1 } := by
  refine ⟨h.delivered, fun _ _ => ?_, fun h' => ((h'.elim hopen.1 hopen.2).elim), h.rxBuffer_le⟩
  dsimp only
  rw [show (1 : UInt32) = UInt32.ofNat 1 from rfl, toNat_add_ofNat, h.rcvNxt_eq hopen.1 hopen.2]
  omega

theorem RxAccounted.onEstablished (h : RxAccounted t) (hs : t.state = .ESTABLISHED) (m : Mbuf)
    (payloadOff tcpDataLen : Nat) (seq ack : UInt32) (flags : UInt8) :
    RxAccounted (t.onEstablished m payloadOff tcpDataLen seq ack flags).1 := by
  obtain ⟨h₁, hs₁⟩ := h.onData hs m payloadOff tcpDataLen seq
  dsimp only [MicroTcp.onEstablished]
  generalize (t.onData m payloadOff tcpDataLen seq).1 = u at h₁ hs₁ ⊢
  have h₂ : RxAccounted (if ack > u.sndUna then { u with sndUna := ack } else u) ∧
      (if ack > u.sndUna then { u with sndUna := ack } else u).state = .ESTABLISHED := by
    split_ifs
    · exact ⟨⟨h₁.1, h₁.2, h₁.3, h₁.4⟩, hs₁⟩
    · exact ⟨h₁, hs₁⟩
  generalize (if ack > u.sndUna then { u with sndUna := ack } else u) = v at h₂ ⊢
  obtain ⟨h₂, hs₂⟩ := h₂
  have hopen : v.state ≠ .CLOSED ∧ v.state ≠ .SYN_SENT := by simp [hs₂]
  split_ifs
  · have hw1 : TcpState.FIN_WAIT_1 ≠ .CLOSED ∧ TcpState.FIN_WAIT_1 ≠ .SYN_SENT := by decide
    exact (((h₂.fin hopen).setState hopen .FIN_WAIT_1 hw1).pushAck).setState
      (by rw [state_pushAck]; exact hw1) .FIN_WAIT_2 (by decide)
  · exact h₂

theorem RxAccounted.onFinWait2 (h : RxAccounted t) (hs : t.state = .FIN_WAIT_2) (flags : UInt8) :
    RxAccounted (t.onFinWait2 flags).1 := by
  have hopen : t.state ≠ .CLOSED ∧ t.state ≠ .SYN_SENT := by simp [hs]
  unfold MicroTcp.onFinWait2
  split_ifs
  · exact (h.fin hopen).pushAck.setState (by rw [state_pushAck]; exact hopen)
      .TIME_WAIT (by decide)
  · exact h

theorem RxAccounted.processRx (h : RxAccounted t) (ep : Endpoints) (m : Mbuf) :
    RxAccounted (t.processRx ep m).1 := by
  unfold MicroTcp.processRx
  split
  · exact h
  · dsimp only
    split_ifs
    · exact h
    · exact h
    · exact h
    · split
      · exact h.onSynSent ‹_› _ _ _
      · exact h.onEstablished ‹_› _ _ _ _ _ _
      · exact h.onFinWait2 ‹_› _
      · exact h

theorem RxAccounted.connect (h : RxAccounted t) : RxAccounted t.connect.1 := by
  unfold MicroTcp.connect
  split_ifs with hc
  · exact h
  · have hc : t.state = .CLOSED := not_not.mp hc
    obtain ⟨ha, hf⟩ := h.before_open (.inl hc)
    refine RxAccounted.createTcpPacket ?_ _ _
    exact ⟨h.delivered, fun _ h' => absurd rfl h', fun _ => ⟨ha, hf⟩, h.rxBuffer_le⟩

theorem RxAccounted.sendData (h : RxAccounted t) (len : UInt16) (data : Nat → UInt8) :
    RxAccounted (t.sendData len data).1 := by
  unfold MicroTcp.sendData
  split_ifs
  · exact h
  · exact h.createTcpPacket _ _

theorem RxAccounted.extractRxData (h : RxAccounted t) : RxAccounted t.extractRxData.1 :=
  ⟨by simpa [MicroTcp.extractRxData] using h.delivered, h.rcvNxt_eq, h.before_open, Nat.zero_le _⟩

theorem RxAccounted.step (h : RxAccounted t) : ∀ a, RxAccounted (step ep a t)
  | .connect => h.connect
  | .processRx m => h.processRx ep m
  | .sendData len data => h.sendData len data
  | .extractRxData => h.extractRxData

end MicroTcp

/-! ## The connection only moves forward -/

/-- How far the handshake and the close have gone. -/
def TcpState.rank : TcpState → Nat
  | .CLOSED => 0
  | .SYN_SENT => 1
  | .ESTABLISHED => 2
  | .FIN_WAIT_1 => 3
  | .FIN_WAIT_2 => 4
  | .TIME_WAIT => 5

theorem TcpState.rank_eq_zero {s : TcpState} : s.rank = 0 ↔ s = .CLOSED := by
  cases s <;> decide

/-- A segment that asks to open a connection. -/
def Segment.isSyn (s : Segment) : Bool := s.flags &&& RTE_TCP_SYN_FLAG != 0

namespace MicroTcp

variable (ep : Endpoints) {t : MicroTcp}

/-- The segments one call returns; a null pointer is no segment. -/
def stepOut : TcpAction → MicroTcp → List Segment
  | .connect, t => t.connect.2.toList
  | .processRx m, t => (t.processRx ep m).2.reduceOption
  | .sendData len data, t => (t.sendData len data).2.toList
  | .extractRxData, _ => []

/-- The segments of a run's calls, in order. -/
def runOut : List TcpAction → MicroTcp → List Segment
  | [], _ => []
  | a :: acts, t => stepOut ep a t ++ runOut acts (step ep a t)

/-- The SYNs still to come: one while the connection is `CLOSED`, none after. -/
def synBudget (t : MicroTcp) : Nat := if t.state = .CLOSED then 1 else 0

theorem flags_createTcpPacket {flags : UInt8} {payload : List UInt8} {s : Segment}
    (h : s ∈ (t.createTcpPacket flags payload).2) : s.flags = flags := by
  rw [createTcpPacket_snd, Option.mem_def] at h
  split at h
  · cases h; split <;> rfl
  · cases h

theorem flags_pushAck {s : Segment} (h : s ∈ t.pushAck.2.reduceOption) :
    s.flags = RTE_TCP_ACK_FLAG := by
  simp only [pushAck, List.reduceOption_singleton, Option.mem_toList] at h
  exact flags_createTcpPacket h

theorem state_onData (t : MicroTcp) (m : Mbuf) (payloadOff tcpDataLen : Nat) (seq : UInt32) :
    (t.onData m payloadOff tcpDataLen seq).1.state = t.state := by
  unfold onData
  split_ifs <;> simp

theorem flags_onData {s : Segment} (h : s ∈ (t.onData m payloadOff tcpDataLen seq).2.reduceOption) :
    s.flags = RTE_TCP_ACK_FLAG := by
  unfold onData at h
  split_ifs at h
  · exact flags_pushAck h
  · exact flags_pushAck h
  · exact absurd h (List.not_mem_nil _)
  · exact absurd h (List.not_mem_nil _)

/-- Every segment `process_rx` returns only acknowledges. -/
theorem flags_processRx {s : Segment} (h : s ∈ (t.processRx ep m).2.reduceOption) :
    s.flags = RTE_TCP_ACK_FLAG := by
  unfold processRx at h
  split at h
  · exact absurd h (List.not_mem_nil _)
  dsimp only at h
  split_ifs at h <;> try exact absurd h (List.not_mem_nil _)
  split at h
  · unfold onSynSent at h
    split_ifs at h
    · exact flags_pushAck h
    · exact absurd h (List.not_mem_nil _)
  · dsimp only [onEstablished] at h
    split_ifs at h <;> first
      | exact flags_onData h
      | rw [List.reduceOption_append, List.mem_append] at h
        exact h.elim flags_onData flags_pushAck
  · unfold onFinWait2 at h
    split_ifs at h
    · exact flags_pushAck h
    · exact absurd h (List.not_mem_nil _)
  · exact absurd h (List.not_mem_nil _)

/-- `process_rx` moves the connection forward or leaves it where it was. -/
theorem rank_processRx (t : MicroTcp) (m : Mbuf) :
    t.state.rank ≤ (t.processRx ep m).1.state.rank := by
  unfold processRx
  split
  · exact le_rfl
  dsimp only
  split_ifs <;> try exact le_rfl
  split <;> rename_i hs
  · unfold onSynSent
    split_ifs <;> simp [hs, TcpState.rank]
  · dsimp only [onEstablished]
    split_ifs <;> simp [hs, TcpState.rank, state_onData]
  · unfold onFinWait2
    split_ifs <;> simp [hs, TcpState.rank]
  · exact le_rfl

theorem state_sendData (t : MicroTcp) (len : UInt16) (data : Nat → UInt8) :
    (t.sendData len data).1.state = t.state := by
  unfold sendData
  split_ifs <;> simp

theorem flags_sendData {s : Segment} (h : s ∈ (t.sendData len data).2.toList) :
    s.flags = RTE_TCP_PSH_FLAG ||| RTE_TCP_ACK_FLAG := by
  unfold sendData at h
  split_ifs at h
  · exact absurd h (List.not_mem_nil _)
  · exact flags_createTcpPacket (Option.mem_toList.mp h)

theorem countP_isSyn_eq_zero {l : List Segment} {f : UInt8} (hf : f &&& RTE_TCP_SYN_FLAG = 0)
    (h : ∀ s ∈ l, s.flags = f) : l.countP Segment.isSyn = 0 :=
  List.countP_eq_zero.mpr fun s hs => by simp [Segment.isSyn, h s hs, hf]

/-- A call sends a SYN only from `CLOSED`, and leaves `CLOSED` when it does; no call returns to
`CLOSED`. -/
theorem synBudget_step (a : TcpAction) (t : MicroTcp) :
    (stepOut ep a t).countP Segment.isSyn + synBudget (step ep a t) ≤ synBudget t := by
  cases a with
  | connect =>
    by_cases h : t.state = .CLOSED
    · have hlen : (stepOut ep .connect t).length ≤ 1 := by
        simp only [stepOut]; cases t.connect.2 <;> simp
      have hst : (step ep .connect t).state = .SYN_SENT := by simp [step, connect, h]
      have := List.countP_le_length (p := Segment.isSyn) (l := stepOut ep .connect t)
      simp only [synBudget, hst, h, if_true, reduceCtorEq, if_false]
      omega
    · simp [stepOut, step, connect, synBudget, h]
  | processRx m =>
    have hsyn : (t.processRx ep m).2.reduceOption.countP Segment.isSyn = 0 :=
      countP_isSyn_eq_zero (by decide) fun _ hs => flags_processRx ep hs
    have hr := rank_processRx ep t m
    simp only [stepOut, hsyn, step, synBudget, Nat.zero_add]
    split_ifs with h₁ h₂ <;> simp only [← TcpState.rank_eq_zero] at * <;> omega
  | sendData len data =>
    have hsyn : (t.sendData len data).2.toList.countP Segment.isSyn = 0 :=
      countP_isSyn_eq_zero (by decide) fun _ hs => flags_sendData hs
    simp only [stepOut, hsyn, step, synBudget, state_sendData, Nat.zero_add, le_refl]
  | extractRxData => simp [stepOut, step, extractRxData, synBudget]

theorem synBudget_run (acts : List TcpAction) :
    ∀ t, (runOut ep acts t).countP Segment.isSyn + synBudget (run ep acts t) ≤ synBudget t := by
  induction acts with
  | nil => simp [runOut, run]
  | cons a acts ih =>
    intro t
    have h₁ := synBudget_step ep a t
    have h₂ := ih (step ep a t)
    simp only [runOut, List.countP_append, run, List.foldl_cons] at h₂ ⊢
    omega

/-- Over every run from the constructor at most one SYN goes out: no call brings the
connection back to `CLOSED`, so a `connect` after the first finds it open and sends nothing. -/
theorem syn_at_most_once (iss : UInt32) (mbufPool : List Bool) (acts : List TcpAction) :
    (runOut ep acts (init iss mbufPool)).countP Segment.isSyn ≤ 1 := by
  have := synBudget_run ep acts (init iss mbufPool)
  have hb : synBudget (init iss mbufPool) = 1 := rfl
  omega

theorem runOut_append (acts acts' : List TcpAction) :
    ∀ t, runOut ep (acts ++ acts') t = runOut ep acts t ++ runOut ep acts' (run ep acts t) := by
  induction acts with
  | nil => simp [runOut, run]
  | cons a acts ih => intro t; simp [runOut, ih, run]

/-- The connection went from `t` to `t'` by some run of calls, which returned `out`. -/
def RunsTo (t t' : MicroTcp) (out : List Segment) : Prop :=
  ∃ acts, run ep acts t = t' ∧ runOut ep acts t = out

theorem RunsTo.refl (t : MicroTcp) : RunsTo ep t t [] := ⟨[], rfl, rfl⟩

theorem RunsTo.of_step (a : TcpAction) (t : MicroTcp) :
    RunsTo ep t (step ep a t) (stepOut ep a t) :=
  ⟨[a], rfl, List.append_nil _⟩

theorem RunsTo.trans {t₁ t₂ t₃ : MicroTcp} {o₁ o₂ : List Segment} :
    RunsTo ep t₁ t₂ o₁ → RunsTo ep t₂ t₃ o₂ → RunsTo ep t₁ t₃ (o₁ ++ o₂)
  | ⟨as, h₁, h₁'⟩, ⟨bs, h₂, h₂'⟩ =>
    ⟨as ++ bs, by rw [run_append, h₁, h₂], by rw [runOut_append, h₁', h₁, h₂']⟩

theorem RunsTo.congr_left {s t t' : MicroTcp} {out : List Segment} (h : RunsTo ep t t' out)
    (e : s = t) : RunsTo ep s t' out :=
  e ▸ h

/-- The SYNs a run sends and those still to come after it are no more than before it. -/
theorem RunsTo.synBudget_le {t t' : MicroTcp} {out : List Segment} (h : RunsTo ep t t' out) :
    out.countP Segment.isSyn + synBudget t' ≤ synBudget t := by
  obtain ⟨acts, rfl, rfl⟩ := h
  exact synBudget_run ep acts t

/-! ## The transmit stream -/

end MicroTcp

/-- The sequence space a segment takes, as `create_tcp_packet` counts it into `snd_nxt_`. -/
def Segment.seqLen (s : Segment) : UInt32 := MicroTcp.sentLen s.flags s.payload

/-- Each segment starts where the one before it ended, the first at `n`. -/
def Contiguous : UInt32 → List Segment → Prop
  | _, [] => True
  | n, s :: ss => s.seq = n ∧ Contiguous (n + s.seqLen) ss

/-- Where a stream that starts at `n` ends. -/
def streamEnd (n : UInt32) (out : List Segment) : UInt32 := out.foldl (fun n s => n + s.seqLen) n

theorem streamEnd_append (n : UInt32) (a b : List Segment) :
    streamEnd n (a ++ b) = streamEnd (streamEnd n a) b :=
  List.foldl_append _ _ _ _

theorem contiguous_append :
    ∀ {n : UInt32} {a b : List Segment}, Contiguous n a → Contiguous (streamEnd n a) b →
      Contiguous n (a ++ b)
  | _, [], _, _, hb => hb
  | _, _ :: _, _, ⟨hs, ha⟩, hb => ⟨hs, contiguous_append ha hb⟩

namespace MicroTcp

variable (ep : Endpoints) {t : MicroTcp}

/-- The segments that took `t` to `t'` start at its `snd_nxt_`, follow one another, and end at
the new `snd_nxt_`. -/
def Emits (t t' : MicroTcp) (out : List Segment) : Prop :=
  Contiguous t.sndNxt out ∧ t'.sndNxt = streamEnd t.sndNxt out

theorem Emits.refl (t : MicroTcp) : Emits t t [] := ⟨trivial, rfl⟩

theorem Emits.trans {t₁ t₂ t₃ : MicroTcp} {o₁ o₂ : List Segment} (h₁ : Emits t₁ t₂ o₁)
    (h₂ : Emits t₂ t₃ o₂) : Emits t₁ t₃ (o₁ ++ o₂) :=
  ⟨contiguous_append h₁.1 (h₁.2 ▸ h₂.1), by rw [h₂.2, h₁.2, streamEnd_append]⟩

/-- While the connection is `CLOSED`, nothing has been sent: `snd_nxt_` is `iss_`. -/
def SynAtIss (t : MicroTcp) : Prop := t.state = .CLOSED → t.sndNxt = t.iss

theorem processRx_of_closed (m : Mbuf) (h : t.state = .CLOSED) : t.processRx ep m = (t, []) := by
  unfold processRx
  split
  · rfl
  dsimp only
  split_ifs <;> try rfl
  rw [h]

theorem SynAtIss.step (h : SynAtIss t) : ∀ a, SynAtIss (step ep a t)
  | .connect => by
    show SynAtIss t.connect.1
    unfold SynAtIss connect
    split_ifs with hc
    · exact h
    · intro hs
      simp at hs
  | .processRx m => by
    intro hs
    by_cases hc : t.state = .CLOSED
    · show (t.processRx ep m).1.sndNxt = (t.processRx ep m).1.iss
      rw [processRx_of_closed ep m hc]
      exact h hc
    · have hr := rank_processRx ep t m
      rw [show (t.processRx ep m).1.state = .CLOSED from hs] at hr
      exact absurd (TcpState.rank_eq_zero.mp (Nat.le_zero.mp hr)) hc
  | .sendData len data => by
    intro hs
    have hc : t.state = .CLOSED := state_sendData t len data ▸ hs
    show (t.sendData len data).1.sndNxt = (t.sendData len data).1.iss
    rw [sendData, if_pos (by rw [hc]; decide)]
    exact h hc
  | .extractRxData => h

/-- `a` comes after `b` in 32-bit serial-number order. -/
def serialGt (a b : UInt32) : Bool := a != b && (a - b).toNat < 2 ^ 31

/-- The bytes of a 32-bit field, most significant first. -/
def be32Bytes (x : Nat) : List UInt8 :=
  [(x / 2 ^ 24).toUInt8, (x / 2 ^ 16).toUInt8, (x / 2 ^ 8).toUInt8, x.toUInt8]

/-- A frame from the peer: an Ethernet header, a 20-byte IPv4 header with total length
`ipLen`, a 20-byte TCP header with the flags, sequence and acknowledgment numbers, then the
payload. -/
def peerFrame (ep : Endpoints) (flags : UInt8) (seq ack ipLen : Nat) (payload : List UInt8) :
    List UInt8 :=
  List.replicate 12 0 ++ [0x08, 0x00, 0x45, 0, (ipLen / 256).toUInt8, ipLen.toUInt8, 0, 0, 0x40, 0,
    64, 6, 0, 0] ++ be32Bytes ep.dstIp.toNat ++ be32Bytes ep.srcIp.toNat ++
    [(ep.dstPort.toNat / 256).toUInt8, ep.dstPort.toNat.toUInt8,
      (ep.srcPort.toNat / 256).toUInt8, ep.srcPort.toNat.toUInt8] ++
    be32Bytes seq ++ be32Bytes ack ++ [0x50, flags, 0xFF, 0xFF, 0, 0, 0, 0] ++ payload

/-- A client on 10.0.0.1:40000 connected to 10.0.0.2:443. -/
def clientEp : Endpoints := ⟨0x0A000001, 40000, 0x0A000002, 443⟩

/-- A frame of fewer than 2^16 bytes as its own data room, zero past its end. -/
def frameMbuf (frame : List UInt8) (h : frame.length < 2 ^ 16) : Mbuf :=
  ⟨(frame.getD · 0), frame.length, h⟩

/-- The peer's SYN-ACK to a SYN sent with ISS 1000: its ISN is 5000. -/
def synAck : Mbuf := frameMbuf (peerFrame clientEp 0x12 5000 1001 40 []) (by decide)

/-- A segment without data that acknowledges 1000 bytes never sent. -/
def ackAhead : Mbuf := frameMbuf (peerFrame clientEp 0x10 5001 2001 40 []) (by decide)

/-- A 54-byte frame whose total length announces 100 bytes of data, over a data room that still
holds `A`s from an earlier packet. -/
def overlongSegment : Mbuf :=
  ⟨fun i => if i < 54 then (peerFrame clientEp 0x18 5001 1001 140 []).getD i 0 else 0x41, 54,
    by decide⟩

/-- A full-size segment from the peer with ACK only, in a frame of 65535 bytes, the most
`data_len` holds: total length 65521 and 65481 bytes of `B`. -/
def fullBase : Mbuf :=
  ⟨fun i => if i < 54 then (peerFrame clientEp 0x10 0 1001 65521 []).getD i 0 else 0x42, 65535,
    by decide⟩

/-- The full-size segment with sequence number `seq`. -/
def fullSegment (seq : Nat) : Mbuf :=
  ⟨fun i => if 38 ≤ i ∧ i < 42 then (be32Bytes seq).getD (i - 38) 0 else fullBase.buf i, 65535,
    by decide⟩

/-- `k` full-size segments in order from sequence number `seq`. -/
def fullSegments (seq k : Nat) : List TcpAction :=
  (List.range k).map fun j => .processRx (fullSegment ((seq + j * 65481) % 2 ^ 32))

/-- In `ESTABLISHED`, a frame for this connection whose total length covers its headers goes to
the `ESTABLISHED` case with the fields its headers hold. -/
theorem processRx_of_established (ep : Endpoints) (m : Mbuf) {ihl tcpOff : Nat}
    (hp : parseTcpPacket m = some (ihl, tcpOff))
    (hdst : be32 m.buf 30 = ep.srcIp.toNat ∧ be16 m.buf (14 + ihl + 2) = ep.srcPort.toNat)
    (hsrc : be32 m.buf 26 = ep.dstIp.toNat ∧ be16 m.buf (14 + ihl) = ep.dstPort.toNat)
    (hlen : ihl + tcpOff ≤ be16 m.buf 16) (hs : t.state = .ESTABLISHED) :
    t.processRx ep m = t.onEstablished m (14 + ihl + tcpOff) (be16 m.buf 16 - ihl - tcpOff)
      (UInt32.ofNat (be32 m.buf (14 + ihl + 4))) (UInt32.ofNat (be32 m.buf (14 + ihl + 8)))
      (m.buf (14 + ihl + 13)) := by
  simp only [processRx, hp, hdst, hsrc, ne_eq, not_true_eq_false, or_self, if_false,
    Nat.not_lt.mpr hlen, hs]

theorem fullSegment_dataLen (seq : Nat) : (fullSegment seq).dataLen = 65535 := rfl

theorem fullSegment_buf {seq i : Nat} (h : i < 38 ∨ 42 ≤ i) :
    (fullSegment seq).buf i = fullBase.buf i :=
  if_neg (by omega)

theorem parseTcpPacket_of_bytes {m : Mbuf} (hlen : 54 ≤ m.dataLen) (h12 : m.buf 12 = 0x08)
    (h13 : m.buf 13 = 0) (h14 : m.buf 14 = 0x45) (h23 : m.buf 23 = 6) (h46 : m.buf 46 = 0x50) :
    parseTcpPacket m = some (20, 20) := by
  have hihl : (m.buf 14 &&& 0xF).toNat * 4 = 20 := by rw [h14]; decide
  have hoff : (m.buf (14 + 20 + 12) >>> 4).toNat * 4 = 20 := by
    rw [show 14 + 20 + 12 = 46 from rfl, h46]; decide
  simp only [parseTcpPacket, be16, h12, h13, h23, hihl, hoff]
  rw [if_neg (by omega), if_neg (by decide), if_neg (by omega), if_neg (by decide),
    if_neg (by omega), if_neg (by omega)]

theorem be32_be32Bytes {buf : Nat → UInt8} {off x : Nat}
    (h : [buf off, buf (off + 1), buf (off + 2), buf (off + 3)] = be32Bytes x) :
    be32 buf off = x % 2 ^ 32 := by
  simp only [be32Bytes, List.cons.injEq, and_true] at h
  obtain ⟨h0, h1, h2, h3⟩ := h
  have ht : ∀ n : Nat, n.toUInt8.toNat = n % 256 := fun _ => rfl
  simp only [be32, be16, h0, h1, h2, h3, show off + 2 + 1 = off + 3 by omega, ht]
  -- the bytes in base 256, so that omega divides by 256 only
  rw [show x / 2 ^ 16 = x / 2 ^ 8 / 256 by omega, show x / 2 ^ 24 = x / 2 ^ 8 / 256 / 256 by omega]
  omega

theorem parse_fullSegment (seq : Nat) : parseTcpPacket (fullSegment seq) = some (20, 20) :=
  have hb : ∀ i, i < 38 ∨ 42 ≤ i → (fullSegment seq).buf i = fullBase.buf i :=
    fun _ => fullSegment_buf
  parseTcpPacket_of_bytes (by rw [fullSegment_dataLen]; decide)
    ((hb 12 (by omega)).trans (by decide)) ((hb 13 (by omega)).trans (by decide))
    ((hb 14 (by omega)).trans (by decide)) ((hb 23 (by omega)).trans (by decide))
    ((hb 46 (by omega)).trans (by decide))

theorem payload_fullSegment (seq : Nat) :
    (List.range 65481).map (fun i => (fullSegment seq).buf (54 + i)) =
      List.replicate 65481 0x42 := by
  rw [List.map_congr_left (g := fun _ => 0x42) fun i _ => ?_, List.map_const', List.length_range]
  rw [fullSegment_buf (by omega)]
  exact if_neg (by omega)

/-- A full segment whose sequence number is `rcv_nxt_`, in `ESTABLISHED`: its 65481 bytes are
accepted and counted into `rcv_nxt_`, and kept only if the buffer stays within the cap. -/
theorem processRx_fullSegment (hs : t.state = .ESTABLISHED) :
    let t' := (t.processRx clientEp (fullSegment t.rcvNxt.toNat)).1
    let kept := !(t.rxBuffer.length + 65481 > MAX_RX_BUFFER_SIZE)
    t'.state = .ESTABLISHED ∧ t'.rcvNxt = t.rcvNxt + UInt32.ofNat 65481 ∧
      t'.rxBuffer = (if kept then t.rxBuffer ++ List.replicate 65481 0x42 else t.rxBuffer) ∧
      t'.accepted = t.accepted ++ [⟨List.replicate 65481 0x42, kept, true⟩] ∧
      t'.irs = t.irs ∧ t'.extracted = t.extracted := by
  have hbytes : ∀ i, i < 38 ∨ 42 ≤ i → (fullSegment t.rcvNxt.toNat).buf i = fullBase.buf i :=
    fun _ => fullSegment_buf
  have hdst : be32 (fullSegment t.rcvNxt.toNat).buf 30 = clientEp.srcIp.toNat ∧
      be16 (fullSegment t.rcvNxt.toNat).buf (14 + 20 + 2) = clientEp.srcPort.toNat := by
    simp (disch := omega) only [be32, be16, hbytes]; decide
  have hsrc : be32 (fullSegment t.rcvNxt.toNat).buf 26 = clientEp.dstIp.toNat ∧
      be16 (fullSegment t.rcvNxt.toNat).buf (14 + 20) = clientEp.dstPort.toNat := by
    simp (disch := omega) only [be32, be16, hbytes]; decide
  have hlen : be16 (fullSegment t.rcvNxt.toNat).buf 16 = 65521 := by
    simp (disch := omega) only [be16, hbytes]; decide
  have hack : be32 (fullSegment t.rcvNxt.toNat).buf (14 + 20 + 8) = 1001 := by
    simp (disch := omega) only [be32, be16, hbytes]; decide
  have hflags : (fullSegment t.rcvNxt.toNat).buf (14 + 20 + 13) = 0x10 := by
    rw [hbytes _ (by omega)]; decide
  have hseq : be32 (fullSegment t.rcvNxt.toNat).buf (14 + 20 + 4) = t.rcvNxt.toNat :=
    (@be32_be32Bytes (fullSegment t.rcvNxt.toNat).buf (14 + 20 + 4) t.rcvNxt.toNat
      (by simp only [fullSegment, be32Bytes]; rfl)).trans (Nat.mod_eq_of_lt t.rcvNxt.toBitVec.isLt)
  rw [processRx_of_established clientEp _ (parse_fullSegment _) hdst hsrc (by rw [hlen]; decide) hs,
    hlen, hseq, hack, hflags, ofNat_toNat32]
  simp only [onEstablished, onData, show 65521 - 20 - 20 = 65481 from rfl,
    if_pos (show 65481 > 0 by decide), if_true, payload_fullSegment, fullSegment_dataLen]
  rw [if_neg (by decide)]
  have hin : decide (14 + 20 + 20 + 65481 ≤ 65535) = true := by decide
  split_ifs <;> refine ⟨?_, ?_, ?_, ?_, ?_, ?_⟩ <;> simp only [pushAck, createTcpPacket_fst, hs, hin]

theorem run_fullSegments_succ (seq k : Nat) :
    run clientEp (fullSegments seq (k + 1)) t =
      ((run clientEp (fullSegments seq k) t).processRx clientEp
        (fullSegment ((seq + k * 65481) % 2 ^ 32))).1 := by
  rw [fullSegments, List.range_succ, List.map_append, List.map_singleton, ← fullSegments,
    run_append, run_singleton, step]

/-- Full segments in order below the cap: each is kept and counted. -/
theorem run_fullSegments (hs : t.state = .ESTABLISHED) (seq : Nat) (hseq : t.rcvNxt.toNat = seq)
    (k : Nat) (hk : t.rxBuffer.length + k * 65481 ≤ MAX_RX_BUFFER_SIZE) :
    let u := run clientEp (fullSegments seq k) t
    u.state = .ESTABLISHED ∧ u.rcvNxt.toNat = (seq + k * 65481) % 2 ^ 32 ∧
      u.rxBuffer = t.rxBuffer ++ List.replicate (k * 65481) 0x42 ∧ u.irs = t.irs ∧
      u.extracted = t.extracted := by
  subst hseq
  induction k with
  | zero =>
    exact ⟨hs, (Nat.mod_eq_of_lt t.rcvNxt.toBitVec.isLt).symm, (List.append_nil _).symm, rfl, rfl⟩
  | succ k ih =>
    obtain ⟨hs', hr, hb, hi, he⟩ := ih (by omega)
    rw [run_fullSegments_succ]
    generalize run clientEp (fullSegments t.rcvNxt.toNat k) t = u at hs' hr hb hi he
    rw [← hr]
    obtain ⟨hs'', hr', hb', -, hi', he'⟩ := processRx_fullSegment hs'
    have hkept : (!decide (u.rxBuffer.length + 65481 > MAX_RX_BUFFER_SIZE)) = true := by
      simp only [hb, List.length_append, List.length_replicate, Bool.not_eq_true',
        decide_eq_false_iff_not, not_lt]
      omega
    refine ⟨hs'', ?_, ?_, hi'.trans hi, he'.trans he⟩
    · rw [hr', toNat_add_ofNat, hr]; omega
    · rw [hb', hkept, if_pos rfl, hb, List.append_assoc, ← List.replicate_add, Nat.add_one_mul]

/-- Past the cap: once `k` full segments have filled the buffer, one more is counted into
`rcv_nxt_` and dropped. -/
theorem run_fullSegments_past_cap (hs : t.state = .ESTABLISHED) (seq : Nat)
    (hseq : t.rcvNxt.toNat = seq) (k : Nat)
    (hk : t.rxBuffer.length + k * 65481 ≤ MAX_RX_BUFFER_SIZE)
    (hcap : MAX_RX_BUFFER_SIZE < t.rxBuffer.length + (k + 1) * 65481) :
    let u := run clientEp (fullSegments seq (k + 1)) t
    u.rcvNxt.toNat = (seq + (k + 1) * 65481) % 2 ^ 32 ∧
      u.rxBuffer = t.rxBuffer ++ List.replicate (k * 65481) 0x42 ∧ u.irs = t.irs ∧
      u.extracted = t.extracted := by
  obtain ⟨hs', hr, hb, hi, he⟩ := run_fullSegments hs seq hseq k hk
  rw [run_fullSegments_succ]
  generalize run clientEp (fullSegments seq k) t = u at hs' hr hb hi he
  rw [← hr]
  obtain ⟨-, hr', hb', -, hi', he'⟩ := processRx_fullSegment hs'
  have hdrop : (!decide (u.rxBuffer.length + 65481 > MAX_RX_BUFFER_SIZE)) = false := by
    simp only [hb, List.length_append, List.length_replicate, Bool.not_eq_false', decide_eq_true_eq]
    omega
  refine ⟨?_, ?_, hi'.trans hi, he'.trans he⟩
  · rw [hr', toNat_add_ofNat, hr]; omega
  · rw [hb', hdrop, if_neg Bool.false_ne_true, hb]

/-- The handshake from ISS 1000 with the peer's ISN 5000. -/
theorem run_handshake : run clientEp [.connect, .processRx synAck] (init 1000 []) =
    ⟨.ESTABLISHED, 1000, 1001, 1001, 5001, [], 5000, 0, [], [], []⟩ := by decide

/-- Runs from the constructor: right after `connect` with ISS 2^31, and after the peer
acknowledges 1000 bytes never sent, `snd_una_` is past `snd_nxt_`; a 54-byte frame announcing
100 bytes of data puts 100 bytes from past its end into `rx_buffer_`; and after 161 full
segments, each in a 65535-byte frame, `rcv_nxt_` covers all of them while 160 were kept and none
extracted. -/
theorem acked_bytes_lost_or_outside_frame :
    (let t := run clientEp [.connect] (init 0x80000000 []); serialGt t.sndUna t.sndNxt) ∧
    (let t := run clientEp [.connect, .processRx synAck, .processRx ackAhead] (init 1000 []);
      serialGt t.sndUna t.sndNxt) ∧
    (let t := run clientEp [.connect, .processRx synAck, .processRx overlongSegment] (init 1000 []);
      overlongSegment.dataLen = 54 ∧ t.rxBuffer = List.replicate 100 0x41) ∧
    (let t := run clientEp ([.connect, .processRx synAck] ++ fullSegments 5001 161) (init 1000 []);
      (∀ seq, (fullSegment seq).dataLen = 65535) ∧ t.irs = 5000 ∧ t.extracted = [] ∧
        t.rxBuffer.length = 160 * 65481 ∧ t.rcvNxt.toNat = 5001 + 161 * 65481) := by
  refine ⟨by decide, by decide, by decide, ?_⟩
  obtain ⟨hr, hb, hi, he⟩ := run_fullSegments_past_cap
    (t := ⟨.ESTABLISHED, 1000, 1001, 1001, 5001, [], 5000, 0, [], [], []⟩) rfl 5001 rfl 160 (by decide)
    (by decide)
  rw [run_append, run_handshake]
  refine ⟨fullSegment_dataLen, hi, he, ?_, ?_⟩
  · rw [hb, List.nil_append, List.length_replicate]
  · exact hr.trans (by decide)

end MicroTcp

end AeroGateway.Network
