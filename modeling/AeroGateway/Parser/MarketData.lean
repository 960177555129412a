import AeroGateway.Forwarding.Classifier
import AeroGateway.Market.Types
import Mathlib.Data.List.GetD

/-!
# The market-data packet parser

`MdParser::parse` looks for a book update in an mbuf: an Ethernet header with EtherType IPv4, an
IPv4 header with protocol UDP, a UDP header, the packed little-endian `MdHeader` with magic
`0xAABB` and message type 1, and a whole `MdBookUpdate`, to which it returns a pointer into the
mbuf. It compares `data_len` with the end of each header before it reads there, and it takes
the IPv4 header to be 20 bytes long: no IHL, port or length field is ever read. A frame is
therefore accepted exactly when it is at least 102 bytes long and five fields hold their values,
the result depends on the frame alone, and a frame built from headers and an update reads back
that update.
-/

namespace AeroGateway.Parser

open Forwarding Market

/-- `sizeof(struct rte_ether_hdr)`. -/
def ETHER_HDR_LEN : Nat := 14

/-- `sizeof(struct rte_ipv4_hdr)`, the header without options. -/
def IPV4_HDR_LEN : Nat := 20

/-- `sizeof(struct rte_udp_hdr)`. -/
def UDP_HDR_LEN : Nat := 8

/-- `sizeof(MdHeader)`, packed. -/
def MD_HEADER_LEN : Nat := 20

/-- `sizeof(MdBookUpdate)`, packed. -/
def MD_BOOK_UPDATE_LEN : Nat := 40

/-- The magic `parse` checks, `0xAABB`. -/
def MD_MAGIC : Nat := 0xAABB

/-- The message type `parse` handles, `0x0001`: a book update. -/
def MD_BOOK_UPDATE : Nat := 0x0001

/-- `rte_le_to_cpu_16` of the 16-bit field at `off`. -/
def le16 (buf : Nat → UInt8) (off : Nat) : Nat := (buf off).toNat + (buf (off + 1)).toNat * 256

/-- `MdParser::ParseResult`: `valid`, and the offset in the data room `update` points at, `none`
for `nullptr`. -/
structure ParseResult where
  valid : Bool
  update : Option Nat
  deriving DecidableEq, Repr

/-- `{.valid = false, .update = nullptr}`, the result of every failed check. -/
def ParseResult.invalid : ParseResult := ⟨false, none⟩

namespace MdParser

/-- `MdParser::parse`, without its commented-out debug printing; `none` is a null mbuf. -/
def parse : Option Mbuf → ParseResult
  | none => .invalid
  | some m =>
    if m.dataLen < ETHER_HDR_LEN then .invalid
    else if m.etherType ≠ RTE_ETHER_TYPE_IPV4 then .invalid
    else if m.dataLen < ETHER_HDR_LEN + IPV4_HDR_LEN then .invalid
    else if m.nextProtoId ≠ IPPROTO_UDP then .invalid
    else if m.dataLen < ETHER_HDR_LEN + IPV4_HDR_LEN + UDP_HDR_LEN then .invalid
    else
      let payloadOffset := ETHER_HDR_LEN + IPV4_HDR_LEN + UDP_HDR_LEN
      if m.dataLen < payloadOffset + MD_HEADER_LEN then .invalid
      else if le16 m.buf payloadOffset ≠ MD_MAGIC then .invalid
      else if le16 m.buf (payloadOffset + 2) ≠ MD_BOOK_UPDATE then .invalid
      else if m.dataLen < payloadOffset + MD_HEADER_LEN + MD_BOOK_UPDATE_LEN then .invalid
      else ⟨true, some (payloadOffset + MD_HEADER_LEN)⟩

end MdParser

/-! ## What is accepted -/

/-- The frame holds a whole update, and its EtherType, IPv4 protocol, magic and message type
have the values `parse` checks. -/
def Accepts (m : Mbuf) : Prop :=
  102 ≤ m.dataLen ∧ m.etherType = RTE_ETHER_TYPE_IPV4 ∧ m.nextProtoId = IPPROTO_UDP ∧
    le16 m.buf 42 = MD_MAGIC ∧ le16 m.buf 44 = MD_BOOK_UPDATE

instance (m : Mbuf) : Decidable (Accepts m) := inferInstanceAs (Decidable (_ ∧ _ ∧ _ ∧ _ ∧ _))

/-- The same conditions read from the frame's bytes. -/
def AcceptsFrame (frame : Bytes) : Prop :=
  102 ≤ frame.length ∧ be16 (frame.getD · 0) 12 = RTE_ETHER_TYPE_IPV4 ∧
    frame.getD 23 0 = IPPROTO_UDP ∧ le16 (frame.getD · 0) 42 = MD_MAGIC ∧
    le16 (frame.getD · 0) 44 = MD_BOOK_UPDATE

/-- A 16-bit little-endian field inside the frame reads the same from the frame as from the
data room. -/
theorem le16_frame {m : Mbuf} {off : Nat} (h : off + 2 ≤ m.dataLen) :
    le16 (m.frame.getD · 0) off = le16 m.buf off := by
  simp only [le16, getD_frame (show off < m.dataLen by omega),
    getD_frame (show off + 1 < m.dataLen by omega)]

theorem accepts_iff_frame (m : Mbuf) : Accepts m ↔ AcceptsFrame m.frame := by
  unfold Accepts AcceptsFrame Mbuf.etherType Mbuf.nextProtoId
  rw [length_frame]
  by_cases hl : 102 ≤ m.dataLen
  · rw [be16_frame (by omega), getD_frame (by omega), le16_frame (by omega),
      le16_frame (by omega)]
  · simp only [hl, false_and]

/-- `parse` accepts exactly the frames of `Accepts`, and then always points 62 bytes in, just
past the market-data header. -/
theorem parse_eq (m : Mbuf) :
    MdParser.parse (some m) = if Accepts m then ⟨true, some 62⟩ else .invalid := by
  unfold MdParser.parse
  dsimp only
  by_cases hA : Accepts m
  · obtain ⟨hl, he, hp, hm, ht⟩ := id hA
    have hk : ∀ k, k ≤ 102 → ¬m.dataLen < k := fun _ hk => by omega
    have hm' : ¬le16 m.buf (ETHER_HDR_LEN + IPV4_HDR_LEN + UDP_HDR_LEN) ≠ MD_MAGIC := not_not.mpr hm
    have ht' : ¬le16 m.buf (ETHER_HDR_LEN + IPV4_HDR_LEN + UDP_HDR_LEN + 2) ≠ MD_BOOK_UPDATE :=
      not_not.mpr ht
    rw [if_pos hA, if_neg (hk _ (by decide)), if_neg (not_not.mpr he), if_neg (hk _ (by decide)),
      if_neg (not_not.mpr hp), if_neg (hk _ (by decide)), if_neg (hk _ (by decide)), if_neg hm',
      if_neg ht', if_neg (hk _ (by decide))]
    rfl
  · rw [if_neg hA]
    unfold Accepts at hA
    refine ite_eq_left_iff.mpr fun h₁ => ite_eq_left_iff.mpr fun he => ite_eq_left_iff.mpr fun h₂ =>
      ite_eq_left_iff.mpr fun hp => ite_eq_left_iff.mpr fun h₃ => ite_eq_left_iff.mpr fun h₄ =>
      ite_eq_left_iff.mpr fun hm => ite_eq_left_iff.mpr fun ht => ite_eq_left_iff.mpr fun h₅ =>
      (hA ⟨?_, not_not.mp he, not_not.mp hp, not_not.mp hm, not_not.mp ht⟩).elim
    unfold ETHER_HDR_LEN IPV4_HDR_LEN UDP_HDR_LEN MD_HEADER_LEN MD_BOOK_UPDATE_LEN at h₅
    omega

/-- The parser reads nothing past `data_len`: two mbufs holding the same frame parse alike,
whatever their data rooms hold after it. -/
theorem parse_frame_only {m m' : Mbuf} (h : m.frame = m'.frame) :
    MdParser.parse (some m) = MdParser.parse (some m') := by
  rw [parse_eq, parse_eq, if_congr ((accepts_iff_frame m).trans (h ▸ accepts_iff_frame m').symm)
    rfl rfl]

/-! ## Building a frame and reading it back -/

/-- The low `w` bytes of `n`, least significant first: a `w`-byte field stored little-endian. -/
def leBytes : Nat → Nat → Bytes
  | 0, _ => []
  | w + 1, n => UInt8.ofNat n :: leBytes w (n / 256)

/-- The value of a little-endian field. -/
def leVal : Bytes → Nat
  | [] => 0
  | b :: bs => b.toNat + 256 * leVal bs

/-- `w` bytes of the data room from `off` on. -/
def window (buf : Nat → UInt8) (off w : Nat) : Bytes := (List.range w).map fun i => buf (off + i)

/-- `MdHeader`: magic and message type, then the sequence number and the timestamp. -/
structure MdHeader where
  magic : UInt16
  msgType : UInt16
  seqNum : UInt64
  timestamp : UInt64
  deriving DecidableEq, Repr

/-- The 20 bytes of the packed header, little-endian as the protocol specifies. -/
def MdHeader.bytes (h : MdHeader) : Bytes :=
  leBytes 2 h.magic.toNat ++ leBytes 2 h.msgType.toNat ++ leBytes 8 h.seqNum.toNat ++
    leBytes 8 h.timestamp.toNat

/-- `MdBookUpdate`: the null-padded symbol, price and quantity as `double`s, the side, and the
padding to 40 bytes. -/
@[ext] structure MdBookUpdate where
  symbol : Bytes
  price : Double
  quantity : Double
  side : UInt8
  padding : Bytes
  symbol_length : symbol.length = 16
  padding_length : padding.length = 7

/-- The 40 bytes of the packed update, the `double`s in the sender's little-endian order. -/
def MdBookUpdate.bytes (u : MdBookUpdate) : Bytes :=
  u.symbol ++ leBytes 8 u.price.bits.toNat ++ leBytes 8 u.quantity.bits.toNat ++ u.side :: u.padding

/-- The update the returned pointer designates: the 40 bytes from `off`. -/
def MdBookUpdate.read (buf : Nat → UInt8) (off : Nat) : MdBookUpdate where
  symbol := window buf off 16
  price := ⟨UInt64.ofNat (leVal (window buf (off + 16) 8))⟩
  quantity := ⟨UInt64.ofNat (leVal (window buf (off + 24) 8))⟩
  side := buf (off + 32)
  padding := window buf (off + 33) 7
  symbol_length := by simp [window]
  padding_length := by simp [window]

/-- A book-update frame: the Ethernet addresses, EtherType IPv4, a 20-byte IPv4 header, a UDP
header, the market-data header and the update, then whatever else the frame holds. -/
structure MdFrame where
  macs : Bytes
  ipv4 : Bytes
  udp : Bytes
  header : MdHeader
  update : MdBookUpdate
  trailer : Bytes
  macs_length : macs.length = 12
  ipv4_length : ipv4.length = 20
  udp_length : udp.length = 8

/-- The frame's bytes on the wire. -/
def MdFrame.bytes (f : MdFrame) : Bytes :=
  f.macs ++ [0x08, 0x00] ++ f.ipv4 ++ f.udp ++ f.header.bytes ++ f.update.bytes ++ f.trailer

@[simp] theorem length_leBytes (w n : Nat) : (leBytes w n).length = w := by
  induction w generalizing n with
  | zero => rfl
  | succ w ih => simp [leBytes, ih]

/-- A little-endian field reads back its value modulo `256 ^ w`. -/
theorem leVal_leBytes (w n : Nat) : leVal (leBytes w n) = n % 256 ^ w := by
  induction w generalizing n with
  | zero => simp [leBytes, leVal, Nat.mod_one]
  | succ w ih =>
    have hb : (UInt8.ofNat n).toNat = n % 256 := by simp [UInt8.toNat, UInt8.ofNat]
    rw [leBytes, leVal, ih, hb, Nat.pow_succ, Nat.mul_comm (256 ^ w), Nat.mod_mul]

@[simp] theorem length_window (buf : Nat → UInt8) (off w : Nat) : (window buf off w).length = w :=
  by simp [window]

theorem le16_eq_leVal (buf : Nat → UInt8) (off : Nat) : le16 buf off = leVal (window buf off 2) :=
  by simp [le16, window, leVal, List.range_succ]; omega

/-- Inside a list, a window of its bytes is the same stretch of the list. -/
theorem window_getD {l : Bytes} {off w : Nat} (h : off + w ≤ l.length) :
    window (l.getD · 0) off w = (l.drop off).take w := by
  apply List.ext_getElem (by simp; omega)
  intro i h₁ _
  simp only [window, List.getElem_map, List.getElem_range, List.getElem_take, List.getElem_drop]
  exact List.getD_eq_getElem _ _ (by simp at h₁; omega)

/-- Inside the frame, a window reads the same from the frame as from the data room. -/
theorem window_frame {m : Mbuf} {off w : Nat} (h : off + w ≤ m.dataLen) :
    window m.buf off w = window (m.frame.getD · 0) off w := by
  simp only [window]
  exact List.map_congr_left fun i hi =>
    (getD_frame (show off + i < m.dataLen by simp at hi; omega)).symm

@[simp] theorem MdBookUpdate.length_bytes (u : MdBookUpdate) : u.bytes.length = 40 := by
  simp [MdBookUpdate.bytes, u.symbol_length, u.padding_length]

@[simp] theorem MdHeader.length_bytes (h : MdHeader) : h.bytes.length = 20 := by
  simp [MdHeader.bytes]

theorem ofNat_leVal_leBytes (x : UInt64) : UInt64.ofNat (leVal (leBytes 8 x.toNat)) = x := by
  have hx : x.toNat < 256 ^ 8 := x.toBitVec.isLt
  rw [leVal_leBytes, Nat.mod_eq_of_lt hx]
  exact UInt64.toNat.inj (UInt64.toNat_ofNat_of_lt hx)

/-- The 40 bytes of an update read back as that update. -/
theorem MdBookUpdate.read_bytes (u : MdBookUpdate) (t : Bytes) :
    MdBookUpdate.read ((u.bytes ++ t).getD · 0) 0 = u := by
  have hw : ∀ off w, off + w ≤ 40 →
      window ((u.bytes ++ t).getD · 0) off w = (u.bytes.drop off).take w := fun off w h => by
    rw [window_getD (by simp; omega), List.drop_append_of_le_length (by simp; omega),
      List.take_append_of_le_length (by simp; omega)]
  have hb : u.bytes = u.symbol ++ (leBytes 8 u.price.bits.toNat ++
      (leBytes 8 u.quantity.bits.toNat ++ u.side :: u.padding)) := by
    simp [MdBookUpdate.bytes]
  have hs := u.symbol_length
  ext1
  · simp only [read, Nat.zero_add]
    rw [hw 0 16 (by omega), hb, List.drop_zero, List.take_left' hs]
  · simp only [read]
    rw [hw 16 8 (by omega), hb, List.drop_left' hs, List.take_left' (length_leBytes _ _),
      ofNat_leVal_leBytes]
  · simp only [read, Nat.zero_add]
    rw [hw 24 8 (by omega), hb, show 24 = 16 + 8 from rfl, ← List.drop_drop, List.drop_left' hs,
      List.drop_left' (length_leBytes _ _), List.take_left' (length_leBytes _ _),
      ofNat_leVal_leBytes]
  · simp only [read, Nat.zero_add]
    rw [List.getD_append _ _ _ _ (by simp), hb, List.getD_append_right _ _ _ _ (by omega), hs,
      List.getD_append_right _ _ _ _ (by simp), List.getD_append_right _ _ _ _ (by simp)]
    simp
  · simp only [read, Nat.zero_add]
    rw [hw 33 7 (by omega), hb, show 33 = 16 + (8 + (8 + 1)) from rfl, ← List.drop_drop,
      ← List.drop_drop, ← List.drop_drop, List.drop_left' hs, List.drop_left' (length_leBytes _ _),
      List.drop_left' (length_leBytes _ _), List.drop_one, List.tail_cons,
      List.take_of_length_le (by simp [u.padding_length])]

/-- The update the pointer designates reads the same through the frame as through the data
room, when the frame holds all of it. -/
theorem MdBookUpdate.read_frame {m : Mbuf} {off : Nat} (h : off + 40 ≤ m.dataLen) :
    MdBookUpdate.read m.buf off = MdBookUpdate.read (m.frame.getD · 0) off := by
  ext1 <;> simp (disch := omega) only [read, window_frame, getD_frame]

theorem MdBookUpdate.read_drop (l : Bytes) (a : Nat) :
    MdBookUpdate.read ((l.drop a).getD · 0) 0 = MdBookUpdate.read (l.getD · 0) a := by
  have hl : ∀ i, (l.drop a).getD i 0 = l.getD (a + i) 0 := fun i => by
    simp only [List.getD_eq_getElem?_getD, List.getElem?_drop]
  ext1 <;> simp only [read, window, hl, Nat.add_assoc, Nat.zero_add]

theorem MdFrame.bytes_eq (f : MdFrame) : f.bytes = f.macs ++ ([8, 0] ++ (f.ipv4 ++ (f.udp ++
    (f.header.bytes ++ (f.update.bytes ++ f.trailer))))) := by
  simp only [MdFrame.bytes, List.append_assoc]

theorem drop_etherType (l : Bytes) : ([8, 0] ++ l).drop 2 = l := rfl

theorem MdFrame.drop_header (f : MdFrame) :
    f.bytes.drop 42 = f.header.bytes ++ (f.update.bytes ++ f.trailer) := by
  rw [MdFrame.bytes_eq, show 42 = 12 + (2 + (20 + 8)) from rfl, ← List.drop_drop,
    List.drop_left' f.macs_length, ← List.drop_drop, ← List.drop_drop,
    drop_etherType, List.drop_left' f.ipv4_length,
    List.drop_left' f.udp_length]

theorem MdFrame.drop_update (f : MdFrame) : f.bytes.drop 62 = f.update.bytes ++ f.trailer := by
  rw [show 62 = 42 + 20 from rfl, ← List.drop_drop, MdFrame.drop_header,
    List.drop_left' (MdHeader.length_bytes _)]

theorem MdFrame.length_bytes (f : MdFrame) : f.bytes.length = 102 + f.trailer.length := by
  simp [MdFrame.bytes, f.macs_length, f.ipv4_length, f.udp_length]
  omega

/-- A 16-bit little-endian field read back. -/
theorem leVal_leBytes_two (x : UInt16) (rest : Bytes) :
    leVal ((leBytes 2 x.toNat ++ rest).take 2) = x.toNat := by
  rw [List.take_left' (length_leBytes _ _), leVal_leBytes]
  exact Nat.mod_eq_of_lt x.toBitVec.isLt

/-- A frame built from an IPv4 header that says UDP and a header with the magic and the
book-update type passes every check. -/
theorem MdFrame.acceptsFrame (f : MdFrame) (hproto : f.ipv4.getD 9 0 = IPPROTO_UDP)
    (hmagic : f.header.magic.toNat = MD_MAGIC) (htype : f.header.msgType.toNat = MD_BOOK_UPDATE) :
    AcceptsFrame f.bytes := by
  have hlen := f.length_bytes
  have hm := f.macs_length
  have hi := f.ipv4_length
  refine ⟨by omega, ?_, ?_, ?_, ?_⟩
  · simp [be16, MdFrame.bytes_eq, List.getD_eq_getElem?_getD, List.getElem?_append_right,
      List.getElem_append_right, hm]
    rfl
  · simpa [MdFrame.bytes_eq, List.getD_eq_getElem?_getD, List.getElem?_append_right,
      List.getElem?_append_left, List.getElem_append_right, List.getElem_append_left, hm, hi]
      using hproto
  · rw [le16_eq_leVal, window_getD (by omega), MdFrame.drop_header, MdHeader.bytes,
      List.append_assoc, List.append_assoc, List.append_assoc, leVal_leBytes_two, hmagic]
  · rw [le16_eq_leVal, window_getD (by omega), show 44 = 42 + 2 from rfl, ← List.drop_drop,
      MdFrame.drop_header, MdHeader.bytes, List.append_assoc, List.append_assoc, List.append_assoc,
      List.drop_left' (length_leBytes _ _), leVal_leBytes_two, htype]

/-- Round trip: an mbuf holding a frame built from an IPv4 header that says UDP, a header with
the magic and the book-update type, and any update, is accepted, and the pointer `parse`
returns reads back that update. -/
theorem parse_mdFrame (f : MdFrame) (hproto : f.ipv4.getD 9 0 = IPPROTO_UDP)
    (hmagic : f.header.magic.toNat = MD_MAGIC) (htype : f.header.msgType.toNat = MD_BOOK_UPDATE)
    (m : Mbuf) (hm : m.frame = f.bytes) :
    MdParser.parse (some m) = ⟨true, some 62⟩ ∧ MdBookUpdate.read m.buf 62 = f.update := by
  have hacc : Accepts m :=
    (accepts_iff_frame m).mpr (hm ▸ f.acceptsFrame hproto hmagic htype)
  refine ⟨by rw [parse_eq, if_pos hacc], ?_⟩
  rw [MdBookUpdate.read_frame (by have := hacc.1; omega), hm, ← MdBookUpdate.read_drop,
    MdFrame.drop_update, MdBookUpdate.read_bytes]

/-- An mbuf whose frame is the given bytes, fewer than 2^16, with nothing after them. -/
def mbufOfBytes (b : Bytes) (h : b.length < 2 ^ 16) : Mbuf := ⟨(b.getD · 0), b.length, h⟩

theorem frame_mbufOfBytes (b : Bytes) (h : b.length < 2 ^ 16) : (mbufOfBytes b h).frame = b := by
  apply List.ext_getElem (by simp [Mbuf.frame, mbufOfBytes])
  intro i h₁ h₂
  simp [Mbuf.frame, mbufOfBytes, List.getElem?_eq_getElem h₂]

/-- A bid update for `BTC` with price bits 1 and quantity bits 2. -/
def btcUpdate : MdBookUpdate :=
  ⟨[66, 84, 67, 0, 0, 0, 0, 0, 0, 0, 0, 0, 0, 0, 0, 0], ⟨1⟩, ⟨2⟩, 0, [0, 0, 0, 0, 0, 0, 0], rfl, rfl⟩

/-- `btcUpdate` in a frame with zeroed addresses and ports and sequence number 7. -/
def btcFrame : MdFrame :=
  ⟨List.replicate 12 0, [0x45, 0, 0, 0, 0, 0, 0, 0, 0, 17, 0, 0, 0, 0, 0, 0, 0, 0, 0, 0],
    List.replicate 8 0, ⟨0xAABB, 1, 7, 0⟩, btcUpdate, [], rfl, rfl, rfl⟩

/-- `btcFrame` parses, and its pointer reads back `btcUpdate`. -/
theorem parse_mdFrame_btc :
    btcFrame.ipv4.getD 9 0 = IPPROTO_UDP ∧ btcFrame.header.magic.toNat = MD_MAGIC ∧
      btcFrame.header.msgType.toNat = MD_BOOK_UPDATE ∧
      MdParser.parse (some (mbufOfBytes btcFrame.bytes (by decide))) = ⟨true, some 62⟩ ∧
      MdBookUpdate.read (mbufOfBytes btcFrame.bytes (by decide)).buf 62 = btcFrame.update :=
  ⟨rfl, rfl, rfl, parse_mdFrame btcFrame rfl rfl rfl _ (frame_mbufOfBytes _ _)⟩

end AeroGateway.Parser
