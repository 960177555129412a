import AeroGateway.Market.Types

/-!
# The UDP market feed

`UdpPublisher::serialize_and_send` builds one datagram per book: the packed 24-byte
`UdpMarketHeader`, big-endian, then the symbol bytes, then one 16-byte `UdpPriceLevel` per bid
and per ask. The header holds the symbol length as a `uint32_t` and the level counts as
`uint16_t`, each by an unchecked `static_cast`, so it carries the sizes modulo 2^32 and 2^16.
Read back by the section 4.8 layout, the datagram gives the book exactly when no size wraps;
when a level count wraps the reader takes the wrong records.
-/

namespace AeroGateway.Feed

open Market

/-- `UDP_FEED_MAGIC`. -/
def UDP_FEED_MAGIC : UInt32 := 0x48465444

/-- `UDP_FEED_VERSION`. -/
def UDP_FEED_VERSION : UInt16 := 1

/-- The low `w` bytes of `n`, most significant first: `htons`, `htonl` or `rte_cpu_to_be_64`
of a `w`-byte field. -/
def beBytes : Nat → Nat → Bytes
  | 0, _ => []
  | w + 1, n => beBytes w (n / 256) ++ [UInt8.ofNat n]

/-- `UdpMarketHeader`. -/
structure UdpMarketHeader where
  magic : UInt32
  version : UInt16
  msgType : UInt8
  exchangeId : UInt8
  timestampNs : UInt64
  symbolLen : UInt32
  bidCount : UInt16
  askCount : UInt16
  deriving DecidableEq, Repr

/-- The 24 bytes of the packed header, each field stored in network order. -/
def UdpMarketHeader.bytes (h : UdpMarketHeader) : Bytes :=
  beBytes 4 h.magic.toNat ++ beBytes 2 h.version.toNat ++ [h.msgType, h.exchangeId] ++
    beBytes 8 h.timestampNs.toNat ++ beBytes 4 h.symbolLen.toNat ++ beBytes 2 h.bidCount.toNat ++
    beBytes 2 h.askCount.toNat

/-- The header `serialize_and_send` fills; `nowNs` is the `steady_clock` reading. The sizes
go through `static_cast<uint32_t>` and `static_cast<uint16_t>`. -/
def header (book : ParsedOrderBook) (exchangeId : ExchangeId) (nowNs : UInt64) :
    UdpMarketHeader where
  magic := UDP_FEED_MAGIC
  version := UDP_FEED_VERSION
  msgType := if book.isSnapshot then 1 else 2
  exchangeId := exchangeId.val
  timestampNs := nowNs
  symbolLen := UInt32.ofNat book.instrument.length
  bidCount := UInt16.ofNat book.bids.length
  askCount := UInt16.ofNat book.asks.length

/-- A level on the wire: `price_int` and the bits of the size. -/
def wire (l : PriceLevel) : Nat × Nat := (l.priceInt.toNat, l.size.bits.toNat)

/-- A `UdpPriceLevel`: `price_int`, then the bits of the size, both big-endian. -/
def levelBytes (l : PriceLevel) : Bytes := beBytes 8 (wire l).1 ++ beBytes 8 (wire l).2

/-- The datagram `UdpPublisher::serialize_and_send` hands to `sendto`. -/
def serializeAndSend (book : ParsedOrderBook) (exchangeId : ExchangeId) (nowNs : UInt64) :
    Bytes :=
  (header book exchangeId nowNs).bytes ++ book.instrument ++
    book.bids.flatMap levelBytes ++ book.asks.flatMap levelBytes

/-! ## Reading a datagram by the section 4.8 layout -/

/-- A `w`-byte big-endian field, and the bytes after it. -/
def readBe (w : Nat) (d : Bytes) : Option (Nat × Bytes) :=
  if w ≤ d.length then some ((d.take w).foldl (fun acc b => acc * 256 + b.toNat) 0, d.drop w)
  else none

/-- The 24-byte header, and the bytes after it. -/
def readHeader (d : Bytes) : Option (UdpMarketHeader × Bytes) := do
  let (magic, d) ← readBe 4 d
  let (version, d) ← readBe 2 d
  let (msgType, d) ← readBe 1 d
  let (exchangeId, d) ← readBe 1 d
  let (timestampNs, d) ← readBe 8 d
  let (symbolLen, d) ← readBe 4 d
  let (bidCount, d) ← readBe 2 d
  let (askCount, d) ← readBe 2 d
  pure (⟨.ofNat magic, .ofNat version, .ofNat msgType, .ofNat exchangeId, .ofNat timestampNs,
    .ofNat symbolLen, .ofNat bidCount, .ofNat askCount⟩, d)

/-- `k` level records, and the bytes after them. -/
def readLevels : Nat → Bytes → Option (List (Nat × Nat) × Bytes)
  | 0, d => some ([], d)
  | k + 1, d => do
    let (price, d) ← readBe 8 d
    let (size, d) ← readBe 8 d
    let (ls, d) ← readLevels k d
    pure ((price, size) :: ls, d)

/-- A datagram read by the section 4.8 layout. -/
structure Datagram where
  header : UdpMarketHeader
  symbol : Bytes
  bids : List (Nat × Nat)
  asks : List (Nat × Nat)
  /-- What follows the last record the header announces. -/
  rest : Bytes
  deriving DecidableEq, Repr

/-- The header, `symbol_len` bytes of symbol, `bid_count` bids and `ask_count` asks. -/
def decode (d : Bytes) : Option Datagram := do
  let (h, d) ← readHeader d
  if h.symbolLen.toNat ≤ d.length then
    let (bids, d') ← readLevels h.bidCount.toNat (d.drop h.symbolLen.toNat)
    let (asks, d') ← readLevels h.askCount.toNat d'
    pure ⟨h, d.take h.symbolLen.toNat, bids, asks, d'⟩
  else none

/-! ## Read-back lemmas -/

@[simp] theorem length_beBytes (w n : Nat) : (beBytes w n).length = w := by
  induction w generalizing n with
  | zero => rfl
  | succ w ih => simp [beBytes, ih]

/-- The bytes of `n` read back most significant first give `n` modulo `256 ^ w`. -/
theorem foldl_beBytes (w n : Nat) :
    (beBytes w n).foldl (fun acc b => acc * 256 + b.toNat) 0 = n % 256 ^ w := by
  induction w generalizing n with
  | zero => simp [beBytes, Nat.mod_one]
  | succ w ih =>
    have hb : (UInt8.ofNat n).toNat = n % 256 := by simp [UInt8.toNat, UInt8.ofNat]
    rw [beBytes, List.foldl_append, ih, List.foldl_cons, List.foldl_nil, hb, Nat.pow_succ,
      Nat.mul_comm (256 ^ w), Nat.mod_mul]
    generalize n / 256 % 256 ^ w = a
    omega

@[simp] theorem readBe_beBytes (w n : Nat) (rest : Bytes) :
    readBe w (beBytes w n ++ rest) = some (n % 256 ^ w, rest) := by
  simp [readBe, List.take_append_of_le_length, List.drop_append_of_le_length, foldl_beBytes]

/-- Reading `k` records off the encoded levels gives the first `k` of them. -/
theorem readLevels_flatMap (k : Nat) (ls : List PriceLevel) (rest : Bytes) (hk : k ≤ ls.length) :
    readLevels k (ls.flatMap levelBytes ++ rest) =
      some ((ls.take k).map wire, (ls.drop k).flatMap levelBytes ++ rest) := by
  induction k generalizing ls with
  | zero => rfl
  | succ k ih =>
    obtain _ | ⟨l, ls⟩ := ls
    · cases hk
    · have ih' := ih ls (Nat.le_of_succ_le_succ hk)
      simp [readLevels, levelBytes, wire, ih']
      exact ⟨l.priceInt.toBitVec.isLt, l.size.bits.toBitVec.isLt⟩

@[simp] theorem readBe_one (b : UInt8) (rest : Bytes) :
    readBe 1 (b :: rest) = some (b.toNat, rest) := by
  simp [readBe]

/-- The packed header reads back as itself. -/
@[simp] theorem readHeader_bytes (h : UdpMarketHeader) (rest : Bytes) :
    readHeader (h.bytes ++ rest) = some (h, rest) := by
  have h2 : ∀ x : UInt16, x.toNat % 256 ^ 2 = x.toNat := fun x => Nat.mod_eq_of_lt x.toBitVec.isLt
  have h4 : ∀ x : UInt32, x.toNat % 256 ^ 4 = x.toNat := fun x => Nat.mod_eq_of_lt x.toBitVec.isLt
  have h8 : ∀ x : UInt64, x.toNat % 256 ^ 8 = x.toNat := fun x => Nat.mod_eq_of_lt x.toBitVec.isLt
  simp only [UdpMarketHeader.bytes, List.append_assoc, List.cons_append, List.nil_append]
  -- one field at a time: `dsimp` hands each value read to the rest of the `do` block
  rw [readHeader]
  iterate 8
    first | rw [readBe_beBytes] | rw [readBe_one]
    dsimp only [Option.bind_eq_bind, Option.some_bind]
  simp only [h2, h4, h8]
  congr
  all_goals first
    | exact UInt8.eq_of_toBitVec_eq (by simp [UInt8.ofNat, UInt8.toNat])
    | exact UInt16.eq_of_toBitVec_eq (by simp [UInt16.ofNat, UInt16.toNat])
    | exact UInt32.eq_of_toBitVec_eq (by simp [UInt32.ofNat, UInt32.toNat])
    | exact UInt64.eq_of_toBitVec_eq (by simp [UInt64.ofNat, UInt64.toNat])

/-- Any book whose instrument is shorter than 2^32 bytes reads back with the header it was
sent with and its symbol; the header counts are the level counts modulo 2^16, and the reader
takes that many records, bids first, from the records the datagram carries. -/
theorem decode_serializeAndSend (book : ParsedOrderBook) (exchangeId : ExchangeId)
    (nowNs : UInt64) (hs : book.instrument.length < 2 ^ 32) :
    let nb := book.bids.length % 2 ^ 16
    let na := book.asks.length % 2 ^ 16
    let levels := book.bids ++ book.asks
    decode (serializeAndSend book exchangeId nowNs) = some
      { header := header book exchangeId nowNs, symbol := book.instrument
        bids := (levels.take nb).map wire, asks := ((levels.drop nb).take na).map wire
        rest := ((levels.drop nb).drop na).flatMap levelBytes } := by
  intro nb na levels
  have hnb : nb ≤ levels.length := by simp only [nb, levels, List.length_append]; omega
  have hna : na ≤ (levels.drop nb).length := by
    simp only [na, nb, levels, List.length_drop, List.length_append]; omega
  have hlen : (UInt32.ofNat book.instrument.length).toNat = book.instrument.length :=
    Nat.mod_eq_of_lt hs
  have hrec : book.bids.flatMap levelBytes ++ book.asks.flatMap levelBytes =
      levels.flatMap levelBytes ++ [] := by simp [levels]
  have hcount : ∀ n, (UInt16.ofNat n).toNat = n % 2 ^ 16 := fun _ => rfl
  simp only [serializeAndSend, decode, List.append_assoc, readHeader_bytes, Option.bind_eq_bind,
    Option.some_bind, header, hlen, hcount, List.length_append, Nat.le_add_right, if_true,
    List.drop_left, List.take_left]
  rw [hrec, readLevels_flatMap _ _ _ hnb, Option.some_bind, readLevels_flatMap _ _ _ hna]
  simp only [Option.some_bind, List.append_nil]
  rfl

/-- A book of 65536 bids of price 1 and size bits 0, with no asks and an empty symbol. -/
def wideBook : ParsedOrderBook := ⟨[], List.replicate 65536 ⟨1, ⟨0⟩⟩, [], true⟩

/-- The datagram of `wideBook` carries its 65536 bid records under a header that counts none:
read back by the section 4.8 layout, it has no bids. -/
theorem wide_book_reads_back_without_bids :
    (decode (serializeAndSend wideBook .OKX 0)).map Datagram.bids = some [] ∧
      wideBook.bids.length = 65536 := by
  have hl : wideBook.bids.length = 65536 := List.length_replicate _ _
  refine ⟨?_, hl⟩
  rw [decode_serializeAndSend _ _ _ (by decide)]
  simp only [Option.map_some', hl, show 65536 % 2 ^ 16 = 0 from rfl, List.take_zero, List.map_nil]

/-- Read by the section 4.8 layout, the datagram of a book with fewer than 2^16 bids and fewer
than 2^16 asks, on an instrument shorter than 2^32 bytes, gives magic `0x48465444`, version 1,
message type 1 for a snapshot and 2 otherwise, the venue, the symbol, and exactly the bids then
the asks, each price and size bit pattern kept; the header counts are those of the symbol bytes
and records carried, and nothing follows them. -/
theorem decode_serializeAndSend_of_lt (book : ParsedOrderBook) (exchangeId : ExchangeId)
    (nowNs : UInt64) (hs : book.instrument.length < 2 ^ 32) (hb : book.bids.length < 2 ^ 16)
    (ha : book.asks.length < 2 ^ 16) :
    ∃ h, decode (serializeAndSend book exchangeId nowNs) = some
        { header := h, symbol := book.instrument, bids := book.bids.map wire
          asks := book.asks.map wire, rest := [] } ∧
      h.magic = 0x48465444 ∧ h.version = 1 ∧ h.msgType = (if book.isSnapshot then 1 else 2) ∧
      h.exchangeId = exchangeId.val ∧ h.symbolLen.toNat = book.instrument.length ∧
      h.bidCount.toNat = book.bids.length ∧ h.askCount.toNat = book.asks.length := by
  refine ⟨header book exchangeId nowNs, ?_, rfl, rfl, rfl, rfl, ?_, ?_, ?_⟩
  · rw [decode_serializeAndSend _ _ _ hs, Nat.mod_eq_of_lt hb, Nat.mod_eq_of_lt ha]
    simp
  · exact Nat.mod_eq_of_lt hs
  · exact Nat.mod_eq_of_lt hb
  · exact Nat.mod_eq_of_lt ha

/-- A one-bid, one-ask book on `BTC`. -/
def btcBook : ParsedOrderBook := ⟨[66, 84, 67], [⟨9500000000000, ⟨0x3FF0000000000000⟩⟩],
  [⟨9500100000000, ⟨0x4000000000000000⟩⟩], false⟩

/-- The read-back of `btcBook`'s datagram. -/
theorem decode_serializeAndSend_btc :
    btcBook.instrument.length < 2 ^ 32 ∧ btcBook.bids.length < 2 ^ 16 ∧
      btcBook.asks.length < 2 ^ 16 ∧
      ∃ h, decode (serializeAndSend btcBook .BYBIT 7) = some
          { header := h, symbol := btcBook.instrument, bids := btcBook.bids.map wire
            asks := btcBook.asks.map wire, rest := [] } ∧
        h.magic = 0x48465444 ∧ h.version = 1 ∧ h.msgType = (if btcBook.isSnapshot then 1 else 2) ∧
        h.exchangeId = ExchangeId.BYBIT.val ∧ h.symbolLen.toNat = btcBook.instrument.length ∧
        h.bidCount.toNat = btcBook.bids.length ∧ h.askCount.toNat = btcBook.asks.length :=
  ⟨by decide, by decide, by decide,
    decode_serializeAndSend_of_lt _ _ _ (by decide) (by decide) (by decide)⟩

end AeroGateway.Feed
