import AeroGateway.Forwarding.Mbuf

/-!
# The HFT classifier

`HftClassifier::classify` reads the EtherType at bytes 12 and 13, the IPv4 protocol at byte
23, the IHL in the low nibble of byte 14 and the two TCP ports at `14 + 4 * IHL`, through
pointers into the mbuf's data room. It compares no offset with `data_len` and does not check
IHL ≥ 5. An mbuf is therefore its whole data room, every byte of which those pointers reach,
together with the frame's length.

`documentedVerdict` is the documented rule, read from the frame's own bytes only. Every frame
that satisfies it is classified HFT, and a frame that holds every header the classifier reads
is classified by the rule. A frame that stops short of those headers is classified by whatever
an earlier packet left in the buffer.
-/

namespace AeroGateway.Forwarding

/-- An mbuf as the classifier sees it: the data room from `rte_pktmbuf_mtod` on, and the
frame's length `data_len`. -/
structure Mbuf where
  buf : Nat → UInt8
  dataLen : Nat
  /-- `data_len` is a `uint16_t`. -/
  dataLen_lt : dataLen < 2 ^ 16

/-- `RTE_ETHER_TYPE_IPV4`. -/
def RTE_ETHER_TYPE_IPV4 : Nat := 0x0800

/-- `IPPROTO_TCP`. -/
def IPPROTO_TCP : UInt8 := 6

/-- `IPPROTO_UDP`. -/
def IPPROTO_UDP : UInt8 := 17

@[simp] theorem IPPROTO_TCP_ne_UDP : IPPROTO_TCP ≠ IPPROTO_UDP := by decide

/-- `rte_be_to_cpu_16` of the 16-bit field at `off`. -/
def be16 (buf : Nat → UInt8) (off : Nat) : Nat := (buf off).toNat * 256 + (buf (off + 1)).toNat

namespace Mbuf

/-- `rte_be_to_cpu_16(eth_hdr->ether_type)`. -/
def etherType (m : Mbuf) : Nat := be16 m.buf 12

/-- `ip_hdr->next_proto_id`. -/
def nextProtoId (m : Mbuf) : UInt8 := m.buf 23

/-- Where `tcp_hdr` points: `(ip_hdr->version_ihl & 0xf) * 4` bytes past the IPv4 header. -/
def tcpOffset (m : Mbuf) : Nat := 14 + (m.buf 14 &&& 0xF).toNat * 4

/-- `rte_be_to_cpu_16(tcp_hdr->src_port)`. -/
def srcPort (m : Mbuf) : Nat := be16 m.buf m.tcpOffset

/-- `rte_be_to_cpu_16(tcp_hdr->dst_port)`. -/
def dstPort (m : Mbuf) : Nat := be16 m.buf (m.tcpOffset + 2)

/-- The frame: the first `data_len` bytes of the data room. -/
def frame (m : Mbuf) : List UInt8 := (List.range m.dataLen).map m.buf

end Mbuf

/-- `HftClassifier::classify`, without its debug printing. -/
def classify (m : Mbuf) : TrafficType :=
  if m.etherType ≠ RTE_ETHER_TYPE_IPV4 then .STANDARD
  else if m.nextProtoId = IPPROTO_UDP then .STANDARD
  else if m.nextProtoId = IPPROTO_TCP then
    if m.srcPort = 8443 ∨ m.dstPort = 8443 then .HFT
    else if m.srcPort = 443 ∨ m.dstPort = 443 then .HFT
    else .STANDARD
  else .STANDARD

/-- The documented rule on a frame's bytes: an Ethernet header with EtherType IPv4, a whole
IPv4 header with IHL ≥ 5 and protocol TCP, and a TCP source or destination port field inside
the frame that holds 443 or 8443 give HFT; everything else, truncated and malformed frames
included, gives STANDARD. -/
def documentedVerdict (frame : List UInt8) : TrafficType :=
  let b := fun i => frame.getD i 0
  let ihl := (b 14 &&& 0xF).toNat
  let tcp := 14 + 4 * ihl
  let hftPort := fun off => off + 2 ≤ frame.length ∧ (be16 b off = 443 ∨ be16 b off = 8443)
  if be16 b 12 = RTE_ETHER_TYPE_IPV4 ∧ 5 ≤ ihl ∧ tcp ≤ frame.length ∧ b 23 = IPPROTO_TCP ∧
      (hftPort tcp ∨ hftPort (tcp + 2)) then .HFT
  else .STANDARD

/-! ## Reading the frame -/

theorem length_frame (m : Mbuf) : m.frame.length = m.dataLen := by
  simp [Mbuf.frame]

/-- Inside the frame, its bytes are the data room's. -/
theorem getD_frame {m : Mbuf} {i : Nat} (h : i < m.dataLen) : m.frame.getD i 0 = m.buf i := by
  simp [Mbuf.frame, List.getD_eq_getElem?_getD, h]

/-- A 16-bit field inside the frame reads the same from the frame as from the data room. -/
theorem be16_frame {m : Mbuf} {off : Nat} (h : off + 2 ≤ m.dataLen) :
    be16 (m.frame.getD · 0) off = be16 m.buf off := by
  simp only [be16, getD_frame (show off < m.dataLen by omega),
    getD_frame (show off + 1 < m.dataLen by omega)]

/-- The frame holds every header byte `classify` reads, with an IHL of at least 5 when it
reads the TCP ports. -/
def HeadersInFrame (m : Mbuf) : Prop :=
  14 ≤ m.dataLen ∧ (m.etherType = RTE_ETHER_TYPE_IPV4 → 24 ≤ m.dataLen ∧
    (m.nextProtoId = IPPROTO_TCP → 5 ≤ (m.buf 14 &&& 0xF).toNat ∧ m.tcpOffset + 4 ≤ m.dataLen))

/-- Every frame the documented rule calls HFT is classified HFT, whatever the buffer holds
past it. -/
theorem classify_of_documentedVerdict (m : Mbuf) (h : documentedVerdict m.frame = .HFT) :
    classify m = .HFT := by
  unfold documentedVerdict at h
  dsimp only at h
  split_ifs at h with hrule
  obtain ⟨hether, hihl, htcp, hproto, hport⟩ := hrule
  rw [length_frame] at htcp hport
  rw [getD_frame (show 14 < m.dataLen by omega)] at hihl htcp hport
  rw [be16_frame (show 12 + 2 ≤ m.dataLen by omega)] at hether
  rw [getD_frame (show 23 < m.dataLen by omega)] at hproto
  have hoff : 14 + 4 * (m.buf 14 &&& 0xF).toNat = m.tcpOffset := by
    simp only [Mbuf.tcpOffset]; omega
  rw [hoff] at hport
  unfold classify
  simp only [Mbuf.etherType, hether, Mbuf.nextProtoId, hproto, ne_eq, not_true_eq_false,
    if_false, IPPROTO_TCP_ne_UDP, if_true]
  rcases hport with ⟨hin, hsrc⟩ | ⟨hin, hdst⟩
  · rw [be16_frame hin] at hsrc
    rcases hsrc with hsrc | hsrc <;> simp [Mbuf.srcPort, hsrc]
  · rw [be16_frame hin] at hdst
    rcases hdst with hdst | hdst <;> simp [Mbuf.dstPort, hdst]

/-- On a frame that holds every header byte the classifier reads, the verdict is the
documented one. -/
theorem classify_eq_documentedVerdict (m : Mbuf) (h : HeadersInFrame m) :
    classify m = documentedVerdict m.frame := by
  obtain ⟨h14, hip⟩ := h
  unfold documentedVerdict classify
  dsimp only
  rw [be16_frame (show 12 + 2 ≤ m.dataLen by omega), length_frame]
  by_cases he : m.etherType = RTE_ETHER_TYPE_IPV4
  case neg => rw [if_pos he, if_neg (fun h => he h.1)]
  obtain ⟨h24, htcp⟩ := hip he
  rw [getD_frame (show 23 < m.dataLen by omega), getD_frame (show 14 < m.dataLen by omega),
    if_neg (not_not.mpr he)]
  have hproto : m.buf 23 = m.nextProtoId := rfl
  by_cases hp : m.nextProtoId = IPPROTO_TCP
  case neg =>
    simp only [hproto, hp, false_and, and_false, if_false]
    split_ifs <;> rfl
  obtain ⟨hihl, hports⟩ := htcp hp
  have hoff : 14 + 4 * (m.buf 14 &&& 0xF).toNat = m.tcpOffset := by
    simp only [Mbuf.tcpOffset]; omega
  have hsrc : be16 m.buf m.tcpOffset = m.srcPort := rfl
  have hdst : be16 m.buf (m.tcpOffset + 2) = m.dstPort := rfl
  rw [hoff, be16_frame (show m.tcpOffset + 2 ≤ m.dataLen by omega),
    be16_frame (show m.tcpOffset + 2 + 2 ≤ m.dataLen by omega), hsrc, hdst]
  simp only [show be16 m.buf 12 = m.etherType from rfl, he, hihl, hproto, hp,
    IPPROTO_TCP_ne_UDP, show m.tcpOffset ≤ m.dataLen by omega,
    show m.tcpOffset + 2 ≤ m.dataLen by omega, show m.tcpOffset + 2 + 2 ≤ m.dataLen by omega,
    true_and, if_false, if_true]
  split_ifs <;> first | rfl | omega

/-! ## Frames that stop short -/

/-- An IPv4/TCP segment to port 443, with no payload. -/
def tcpTo443 : List UInt8 :=
  [0, 1, 2, 3, 4, 5, 6, 7, 8, 9, 10, 11, 0x08, 0x00,
   0x45, 0, 0, 40, 0, 0, 0x40, 0, 64, 6, 0, 0, 10, 0, 0, 1, 10, 0, 0, 2,
   0xC0, 0x00, 0x01, 0xBB, 0, 0, 0, 0, 0, 0, 0, 0, 0x50, 0x10, 0xFF, 0xFF, 0, 0, 0, 0]

/-- The whole segment in its mbuf. -/
def tcpTo443Mbuf : Mbuf := ⟨(tcpTo443.getD · 0), tcpTo443.length, by decide⟩

theorem classify_eq_documentedVerdict_tcpTo443 :
    HeadersInFrame tcpTo443Mbuf ∧ classify tcpTo443Mbuf = documentedVerdict tcpTo443Mbuf.frame :=
  have h : HeadersInFrame tcpTo443Mbuf := by unfold HeadersInFrame; decide
  ⟨h, classify_eq_documentedVerdict _ h⟩

/-- The segment's Ethernet header alone, over a buffer still holding the whole segment. -/
def staleMbuf : Mbuf := ⟨(tcpTo443.getD · 0), 14, by decide⟩

/-- The same Ethernet header over a zeroed buffer. -/
def zeroedMbuf : Mbuf := ⟨((tcpTo443.take 14).getD · 0), 14, by decide⟩

/-- A 54-byte frame with IHL 0 and total length 443: the classifier takes the version byte and
the total length for the TCP ports. -/
def ihlZero : List UInt8 := tcpTo443.set 14 0x40 |>.set 16 0x01 |>.set 17 0xBB

theorem verdict_read_past_frame :
    staleMbuf.frame = zeroedMbuf.frame ∧ classify staleMbuf = .HFT ∧
      classify zeroedMbuf = .STANDARD ∧ documentedVerdict staleMbuf.frame = .STANDARD ∧
      classify ⟨(ihlZero.getD · 0), 54, by decide⟩ = .HFT ∧ documentedVerdict ihlZero = .STANDARD := by
  decide

end AeroGateway.Forwarding
