import AeroGateway.Feed.Udp

/-!
# WebSocket frames of the userspace stack

`WebSocketFramer::frame_message` and `WebSocketClient::generate_websocket_frame` build client
frames; `WebSocketClient::process_websocket_frame` parses a frame's header and unmasks its
payload. The host is little-endian: `rte_cpu_to_be_16` and `rte_cpu_to_be_64` swap bytes, a
`memcpy` of an integer stores its bytes least significant first, and a load through a
`uint16_t *` or `uint64_t *` reads them in that order. The framer copies the swapped length
into the buffer, which puts it in network order; the client pushes the bytes of the swapped
length from the most significant down, which puts it back in host order, so its extended
lengths read back swapped. The parser reads through a pointer to `len` bytes and checks the
frame's length in `size_t` arithmetic, modulo 2^64; a declared length near 2^64 wraps that sum
and the masking key is read past the end.
-/

namespace AeroGateway.Legacy

open Market Feed

/-! ## Integers and their bytes -/

/-- The low `w` bytes of `n`, least significant first: a `memcpy` of a `w`-byte integer. -/
def leBytes : Nat → Nat → Bytes
  | 0, _ => []
  | w + 1, n => UInt8.ofNat n :: leBytes w (n / 256)

/-- The integer whose bytes, least significant first, are `b`: a load through a pointer. -/
def leValue (b : Bytes) : Nat := b.foldr (fun x acc => x.toNat + 256 * acc) 0

/-- `rte_bswap16` and `rte_bswap64`, which are `rte_cpu_to_be_*` and `rte_be_to_cpu_*` on a
little-endian host: the `w`-byte integer with its bytes reversed. -/
def byteSwap (w n : Nat) : Nat := leValue (leBytes w n).reverse

@[simp] theorem length_leBytes (w n : Nat) : (leBytes w n).length = w := by
  induction w generalizing n with
  | zero => rfl
  | succ w ih => simp [leBytes, ih]

theorem leValue_leBytes (w n : Nat) : leValue (leBytes w n) = n % 256 ^ w := by
  induction w generalizing n with
  | zero => simp [leBytes, leValue, Nat.mod_one]
  | succ w ih =>
    have hb : (UInt8.ofNat n).toNat = n % 256 := by simp [UInt8.toNat, UInt8.ofNat]
    have ih' : leValue (leBytes w (n / 256)) = n / 256 % 256 ^ w := ih _
    simp only [leValue, leBytes, List.foldr_cons] at ih' ⊢
    rw [ih', hb, Nat.pow_succ, Nat.mul_comm (256 ^ w), Nat.mod_mul]

theorem leBytes_leValue : ∀ (b : Bytes), leBytes b.length (leValue b) = b
  | [] => rfl
  | x :: xs => by
    have hx : x.toNat < 256 := x.toBitVec.isLt
    have hv : leValue (x :: xs) = x.toNat + 256 * leValue xs := rfl
    have hlow : UInt8.ofNat (x.toNat + 256 * leValue xs) = x := by
      apply UInt8.eq_of_toBitVec_eq
      apply BitVec.eq_of_toNat_eq
      show (x.toNat + 256 * leValue xs) % 2 ^ 8 = x.toNat
      omega
    rw [List.length_cons, leBytes, hv, hlow,
      show (x.toNat + 256 * leValue xs) / 256 = leValue xs by omega, leBytes_leValue xs]

/-- Swapping a `w`-byte integer reverses its bytes. -/
theorem leBytes_byteSwap (w n : Nat) : leBytes w (byteSwap w n) = (leBytes w n).reverse := by
  have h := leBytes_leValue (leBytes w n).reverse
  rwa [List.length_reverse, length_leBytes] at h

/-- The big-endian bytes of `n` are its little-endian bytes reversed. -/
theorem beBytes_eq_reverse (w n : Nat) : beBytes w n = (leBytes w n).reverse := by
  induction w generalizing n with
  | zero => rfl
  | succ w ih => simp [beBytes, leBytes, ih]

/-- The byte `i` of `n`, counted from the least significant, is `(uint8_t)(n >> 8 * i)`. -/
theorem leBytes_eq_map (w x : Nat) :
    leBytes w x = (List.range w).map fun i => UInt8.ofNat (x / 2 ^ (i * 8)) := by
  induction w generalizing x with
  | zero => rfl
  | succ w ih =>
    rw [leBytes, ih, List.range_succ_eq_map, List.map_cons, List.map_map]
    congr 1
    · simp
    · refine List.map_congr_left fun i _ => ?_
      have h : 2 ^ ((i + 1) * 8) = 256 * 2 ^ (i * 8) := by
        rw [Nat.add_mul, Nat.one_mul, Nat.pow_add, Nat.mul_comm]
      show _ = UInt8.ofNat (x / 2 ^ ((i + 1) * 8))
      rw [h, Nat.div_div_eq_div_mul]

/-- Pushing `(uint8_t)(x >> 8 * i)` for `i` from `w - 1` down to 0 gives the big-endian bytes. -/
theorem map_shift_eq_beBytes (w x : Nat) :
    ((List.range w).reverse.map fun i => UInt8.ofNat (x / 2 ^ (i * 8))) = beBytes w x := by
  rw [beBytes_eq_reverse, leBytes_eq_map, List.map_reverse]

/-! ## Masking -/

/-- The four bytes of a masking key. -/
@[ext] structure MaskKey where
  bytes : Bytes
  length_eq : bytes.length = 4

namespace MaskKey

/-- `mask_key[i % 4]`. -/
def get (key : MaskKey) (i : Nat) : UInt8 := key.bytes.getD (i % 4) 0

/-- The key the framer copies from a `uint32_t`, least significant byte first. -/
def ofUInt32 (x : UInt32) : MaskKey := ⟨leBytes 4 x.toNat, length_leBytes 4 _⟩

end MaskKey

/-- The payload from index `i` on, each byte xor the key byte at its index. -/
def maskFrom (key : MaskKey) : Nat → Bytes → Bytes
  | _, [] => []
  | i, b :: bs => (b ^^^ key.get i) :: maskFrom key (i + 1) bs

@[simp] theorem length_maskFrom (key : MaskKey) (i : Nat) (p : Bytes) :
    (maskFrom key i p).length = p.length := by
  induction p generalizing i with
  | nil => rfl
  | cons b bs ih => simp [maskFrom, ih]

theorem getD_maskFrom (key : MaskKey) :
    ∀ (i : Nat) (p : Bytes) (j : Nat), j < p.length →
      (maskFrom key i p).getD j 0 = p.getD j 0 ^^^ key.get (i + j)
  | _, [], _, h => absurd h (Nat.not_lt_zero _)
  | i, b :: bs, 0, _ => rfl
  | i, b :: bs, j + 1, h => by
    rw [maskFrom, List.getD_cons_succ, getD_maskFrom key (i + 1) bs j (by simpa using h),
      List.getD_cons_succ, Nat.add_right_comm, Nat.add_assoc]

theorem xor_xor_cancel (b k : UInt8) : (b ^^^ k) ^^^ k = b := by
  apply UInt8.eq_of_toBitVec_eq
  show (b.toBitVec ^^^ k.toBitVec) ^^^ k.toBitVec = b.toBitVec
  rw [BitVec.xor_assoc, BitVec.xor_self, BitVec.xor_zero]

theorem byteSwap_byteSwap (w n : Nat) : byteSwap w (byteSwap w n) = n % 256 ^ w := by
  rw [byteSwap, leBytes_byteSwap, List.reverse_reverse, leValue_leBytes]

/-- The bytes `k` to `k + n - 1` of a list long enough to hold them. -/
theorem map_getD_range' (l : Bytes) :
    ∀ (k n : Nat), k + n ≤ l.length → (List.range' k n).map (l.getD · 0) = (l.drop k).take n
  | _, 0, _ => by simp
  | k, n + 1, h => by
    rw [List.range'_succ, List.map_cons, map_getD_range' l (k + 1) n (by omega),
      List.drop_eq_getElem_cons (show k < l.length by omega), List.take_succ_cons,
      List.getD_eq_getElem?_getD, List.getElem?_eq_getElem, Option.getD_some]

/-! ## Building frames -/

/-- `mask_bit`: the top bit of the second header byte, set for a masked frame. -/
def maskBit (mask : Bool) : UInt8 := if mask then 0x80 else 0

/-- The second header byte and the extended length `frame_message` writes: seven bits below 126
bytes, else 126 and the length as a `uint16_t`, else 127 and the length as a `uint64_t`, each
swapped by `rte_cpu_to_be_*` and copied into the buffer. -/
def framerLength (maskBit : UInt8) (payloadLen : Nat) : Bytes :=
  if payloadLen < 126 then [maskBit ||| UInt8.ofNat (payloadLen &&& 0x7F)]
  else if payloadLen ≤ 65535 then
    (maskBit ||| 126) :: leBytes 2 (byteSwap 2 (payloadLen % 2 ^ 16))
  else (maskBit ||| 127) :: leBytes 8 (byteSwap 8 (payloadLen % 2 ^ 64))

/-- `WebSocketFramer::frame_message`: the frame it writes into a buffer of `bufferLen` bytes, or
`none` when it returns 0 because the frame does not fit. `maskKey` is the `uint32_t` read from
the cycle counter. -/
def frameMessage (bufferLen : Nat) (payload : Bytes) (opcode : UInt8) (mask : Bool)
    (maskKey : UInt32) : Option Bytes :=
  let payloadLen := payload.length
  let headerLen := 2 + (if 126 ≤ payloadLen then if payloadLen ≤ 65535 then 2 else 8 else 0) +
    if mask then 4 else 0
  if bufferLen < (headerLen + payloadLen) % 2 ^ 64 then none
  else
    let key := MaskKey.ofUInt32 maskKey
    some ((0x80 ||| (opcode &&& 0x0F)) :: framerLength (maskBit mask) payloadLen ++
      if mask then key.bytes ++ maskFrom key 0 payload else payload)

/-- The second header byte and the extended length `generate_websocket_frame` pushes: for a
long payload, the bytes of `rte_cpu_to_be_16` or `rte_cpu_to_be_64` of the length, from the
most significant down. -/
def clientLength (payloadLen : Nat) : Bytes :=
  if payloadLen ≤ 125 then [0x80 ||| UInt8.ofNat payloadLen]
  else if payloadLen ≤ 0xFFFF then
    let len16 := byteSwap 2 (payloadLen % 2 ^ 16)
    [0x80 ||| 126, UInt8.ofNat (len16 / 2 ^ 8), UInt8.ofNat len16]
  else
    let len64 := byteSwap 8 (payloadLen % 2 ^ 64)
    (0x80 ||| 127) :: (List.range 8).reverse.map fun i => UInt8.ofNat (len64 / 2 ^ (i * 8))

/-- `WebSocketClient::generate_websocket_frame`: the frame bytes it hands to the TLS layer. The
client always masks, with four random key bytes. -/
def generateWebsocketFrame (payload : Bytes) (opcode : UInt8) (fin : Bool)
    (maskingKey : MaskKey) : Bytes :=
  ((if fin then 0x80 else 0) ||| (opcode &&& 0x0F)) :: clientLength payload.length ++
    maskingKey.bytes ++ maskFrom maskingKey 0 payload

/-! ## Parsing a frame -/

/-- What the header parsing and unmasking of `process_websocket_frame` produce. -/
structure DecodedFrame where
  fin : Bool
  opcode : UInt8
  /-- `unmasked_payload`. -/
  payload : Bytes
  /-- `offset` after the header and the masking key: where the payload starts. -/
  headerLen : Nat
  deriving DecidableEq, Repr

/-- libstdc++'s `std::string::max_size()` on a 64-bit host; `reserve` beyond it throws
`std::length_error`. -/
def STRING_MAX_SIZE : Nat := 2 ^ 62 - 1

/-- `rte_be_to_cpu_w(*(uint_t *)(data + offset))` on a little-endian host: the `w` bytes at
`offset` loaded as a little-endian integer, then swapped. -/
def beLoad (data : Nat → UInt8) (offset w : Nat) : Nat :=
  byteSwap w (leValue ((List.range' offset w).map data))

/-- The payload length and the offset after it, from the seven-bit length of the second byte,
with the indices read for an extended length; `none` when the extended length is past `len`. -/
def payloadLength (data : Nat → UInt8) (len payloadLenByte : Nat) :
    Option (Nat × Nat) × List Nat :=
  if payloadLenByte ≤ 125 then (some (payloadLenByte, 2), [])
  else if payloadLenByte = 126 then
    if len < 4 then (none, []) else (some (beLoad data 2 2, 4), List.range' 2 2)
  else if len < 10 then (none, [])
  else (some (beLoad data 2 8, 10), List.range' 2 8)

/-- The header parsing and unmasking of `WebSocketClient::process_websocket_frame` on `len`
bytes at `data`, which gives every byte the pointer reaches, inside the frame or past it: the
frame decoded, if it gets that far, and the indices it reads, in order. -/
def processWebsocketFrame (data : Nat → UInt8) (len : Nat) : Option DecodedFrame × List Nat :=
  if len < 2 then (none, []) else
  let fin := data 0 &&& 0x80 != 0
  let opcode := data 0 &&& 0x0F
  let masked := data 1 &&& 0x80 != 0
  match payloadLength data len (data 1 &&& 0x7F).toNat with
  | (none, reads) => (none, [0, 1] ++ reads)
  | (some (payloadLen, offset), reads) =>
    let reads := [0, 1] ++ reads
    if len < (offset + (if masked then 4 else 0) + payloadLen) % 2 ^ 64 then (none, reads)
    else
      let keyReads := if masked then List.range' offset 4 else []
      let key : MaskKey := ⟨(List.range' offset 4).map data, by simp⟩
      let offset := offset + if masked then 4 else 0
      if STRING_MAX_SIZE < payloadLen then (none, reads ++ keyReads)
      else
        (some ⟨fin, opcode, (List.range payloadLen).map fun i =>
            data (offset + i) ^^^ if masked then key.get i else 0, offset⟩,
          reads ++ keyReads ++ List.range' offset payloadLen)

/-! ## Well-formed frames -/

/-- The second header byte and the extended length RFC 6455 lays out for a payload of
`payloadLen` bytes: the mask bit over seven bits of length, or over 126 and two bytes, or over
127 and eight bytes, the extended length in network order. -/
def lengthField (masked : Bool) (payloadLen : Nat) : Bytes :=
  if payloadLen < 126 then [maskBit masked ||| UInt8.ofNat payloadLen]
  else if payloadLen < 2 ^ 16 then (maskBit masked ||| 126) :: beBytes 2 payloadLen
  else (maskBit masked ||| 127) :: beBytes 8 payloadLen

/-- What follows the length field: the masking key and the payload masked with it, or the
payload as it is. -/
def maskedBody : Option MaskKey → Bytes → Bytes
  | some key, payload => key.bytes ++ maskFrom key 0 payload
  | none, payload => payload

/-- The frame RFC 6455 lays out for a first byte, a masking key if any, and a payload. -/
def wellFormed (b0 : UInt8) (key : Option MaskKey) (payload : Bytes) : Bytes :=
  b0 :: lengthField key.isSome payload.length ++ maskedBody key payload

/-- The mask bit and the seven-bit length of a second header byte built from them. -/
theorem secondByte_bits (masked : Bool) (n : Nat) (h : n < 128) :
    ((maskBit masked ||| UInt8.ofNat n) &&& 0x80 != 0) = masked ∧
      ((maskBit masked ||| UInt8.ofNat n) &&& 0x7F).toNat = n := by
  have bits : ∀ x : Fin 128, ∀ m : Bool,
      ((maskBit m ||| UInt8.ofNat x.val) &&& 0x80 != 0) = m ∧
        ((maskBit m ||| UInt8.ofNat x.val) &&& 0x7F).toNat = x.val := by
    decide
  exact bits ⟨n, h⟩ masked

/-- FIN and the opcode of a first header byte built from them. -/
theorem firstByte_bits (fin : Bool) (opcode : UInt8) (h : opcode < 16) :
    (((if fin then (0x80 : UInt8) else 0) ||| (opcode &&& 0x0F)) &&& 0x80 != 0) = fin ∧
      ((if fin then (0x80 : UInt8) else 0) ||| (opcode &&& 0x0F)) &&& 0x0F = opcode := by
  have bits : ∀ x : Fin 16, ∀ f : Bool,
      (((if f then (0x80 : UInt8) else 0) ||| (UInt8.ofNat x.val &&& 0x0F)) &&& 0x80 != 0) = f ∧
        ((if f then (0x80 : UInt8) else 0) ||| (UInt8.ofNat x.val &&& 0x0F)) &&& 0x0F =
          UInt8.ofNat x.val := by
    decide
  have hlt : opcode.toNat < 16 := BitVec.lt_def.mp (UInt8.lt_def.mp h)
  have hof : UInt8.ofNat opcode.toNat = opcode :=
    UInt8.toNat.inj (by simp [UInt8.toNat, UInt8.ofNat])
  simpa only [hof] using bits ⟨opcode.toNat, hlt⟩ fin

theorem leValue_lt : ∀ b : Bytes, leValue b < 256 ^ b.length
  | [] => by simp [leValue]
  | x :: xs => by
    have hx : x.toNat < 256 := x.toBitVec.isLt
    have ih := leValue_lt xs
    show x.toNat + 256 * leValue xs < 256 ^ (xs.length + 1)
    rw [Nat.pow_succ]
    omega

theorem byteSwap_lt (w n : Nat) : byteSwap w n < 256 ^ w := by
  simpa using leValue_lt (leBytes w n).reverse

theorem getD_append_length (pre rest : Bytes) (i : Nat) :
    (pre ++ rest).getD (pre.length + i) 0 = rest.getD i 0 := by
  simp [List.getD_eq_getElem?_getD, List.getElem?_append_right]

/-- The bytes of `mid`, read back at their place in a frame. -/
theorem map_getD_range'_append (pre mid rest : Bytes) :
    (List.range' pre.length mid.length).map ((pre ++ mid ++ rest).getD · 0) = mid := by
  rw [map_getD_range' _ _ _ (by simp), List.append_assoc, List.drop_left, List.take_left' rfl]

/-- The extended length the decoder loads from a frame that holds it in network order. -/
theorem beLoad_beBytes (pre rest : Bytes) (w n : Nat) :
    beLoad ((pre ++ beBytes w n ++ rest).getD · 0) pre.length w = n % 256 ^ w := by
  have hload := map_getD_range'_append pre (beBytes w n) rest
  rw [length_beBytes] at hload
  rw [beLoad, hload, beBytes_eq_reverse, ← byteSwap, byteSwap_byteSwap]

theorem range'_append_range' {a b c d : Nat} (h : a + b = c) :
    List.range' a b ++ List.range' c d = List.range' a (b + d) := by
  subst h
  simp [Nat.add_comm d]

theorem length_lengthField (masked : Bool) (n : Nat) :
    (lengthField masked n).length = if n < 126 then 1 else if n < 2 ^ 16 then 3 else 9 := by
  unfold lengthField
  split_ifs <;> simp [beBytes_eq_reverse]

/-- An extended length field: the decoder reads the two or eight bytes after the second byte as
a network-order length. -/
theorem payloadLength_extended (b0 : UInt8) (masked : Bool) (code w n : Nat) (body : Bytes)
    (hw : code = 126 ∧ w = 2 ∨ code = 127 ∧ w = 8) :
    let frame := b0 :: (maskBit masked ||| UInt8.ofNat code) :: (beBytes w n ++ body)
    (frame.getD 1 0 &&& 0x80 != 0) = masked ∧
      payloadLength (frame.getD · 0) frame.length (frame.getD 1 0 &&& 0x7F).toNat =
        (some (n % 256 ^ w, 2 + w), List.range' 2 w) := by
  obtain ⟨hm, hc⟩ := secondByte_bits masked code (by omega)
  have hload : beLoad ((b0 :: (maskBit masked ||| UInt8.ofNat code) :: (beBytes w n ++ body)).getD · 0)
      2 w = n % 256 ^ w := beLoad_beBytes [b0, maskBit masked ||| UInt8.ofNat code] body w n
  refine ⟨hm, ?_⟩
  rcases hw with ⟨rfl, rfl⟩ | ⟨rfl, rfl⟩ <;>
  · simp only [List.getD_cons_succ, List.getD_cons_zero, hc, payloadLength, hload]
    simp

/-- The length field of a well-formed frame gives the decoder the mask bit and the payload
length, and the decoder reads exactly the extended length bytes to get it. -/
theorem payloadLength_lengthField (b0 : UInt8) (masked : Bool) (n : Nat) (body : Bytes)
    (hn : n < 2 ^ 64) :
    let frame := b0 :: lengthField masked n ++ body
    (frame.getD 1 0 &&& 0x80 != 0) = masked ∧
      payloadLength (frame.getD · 0) frame.length (frame.getD 1 0 &&& 0x7F).toNat =
        (some (n, 1 + (lengthField masked n).length),
          List.range' 2 ((lengthField masked n).length - 1)) := by
  dsimp only
  unfold lengthField
  split_ifs with h1 h2
  · obtain ⟨hm, hc⟩ := secondByte_bits masked n (by omega)
    exact ⟨hm, by simp [payloadLength, hc, show n ≤ 125 by omega]⟩
  · have h := payloadLength_extended b0 masked 126 2 n body (.inl ⟨rfl, rfl⟩)
    rwa [Nat.mod_eq_of_lt (show n < 256 ^ 2 by omega)] at h
  · have h := payloadLength_extended b0 masked 127 8 n body (.inr ⟨rfl, rfl⟩)
    rwa [Nat.mod_eq_of_lt (show n < 256 ^ 8 by omega)] at h

theorem xor_zero_right (b : UInt8) : b ^^^ 0 = b :=
  UInt8.eq_of_toBitVec_eq (BitVec.xor_zero (x := b.toBitVec))

/-- The decoder's loop over the bytes after a header `pre`, on a masked payload. -/
theorem unmask_maskFrom (pre : Bytes) (key : MaskKey) (payload : Bytes) (off : Nat)
    (hoff : pre.length = off) :
    (List.range payload.length).map (fun i =>
      (pre ++ maskFrom key 0 payload).getD (off + i) 0 ^^^ key.get i) = payload := by
  subst hoff
  refine List.ext_getElem (by simp) fun i _ h => ?_
  rw [List.getElem_map, List.getElem_range, getD_append_length, getD_maskFrom key 0 payload i h,
    Nat.zero_add, xor_xor_cancel, List.getD_eq_getElem?_getD, List.getElem?_eq_getElem h,
    Option.getD_some]

/-- The decoder's loop over the bytes after a header `pre`, on a payload sent in the clear. -/
theorem unmask_plain (pre payload : Bytes) (off : Nat) (hoff : pre.length = off) :
    (List.range payload.length).map (fun i => (pre ++ payload).getD (off + i) 0 ^^^ 0) =
      payload := by
  subst hoff
  refine List.ext_getElem (by simp) fun i _ h => ?_
  rw [List.getElem_map, List.getElem_range, getD_append_length, xor_zero_right,
    List.getD_eq_getElem?_getD, List.getElem?_eq_getElem h, Option.getD_some]

/-- The indices the decoder reads on a frame: the two header bytes, the extended length, the
masking key and the payload, one after another. -/
theorem reads_eq_range (fl k n : Nat) (h : 1 ≤ fl) :
    [0, 1] ++ List.range' 2 (fl - 1) ++ List.range' (1 + fl) k ++ List.range' (1 + fl + k) n =
      List.range (1 + fl + k + n) := by
  rw [show [0, 1] = List.range' 0 2 from rfl, range'_append_range' rfl,
    range'_append_range' (by omega), range'_append_range' (by omega), List.range_eq_range']
  congr 1
  omega

theorem processWebsocketFrame_wellFormed (b0 : UInt8) (key : Option MaskKey) (payload : Bytes)
    (hp : payload.length ≤ STRING_MAX_SIZE) :
    ∃ headerLen, processWebsocketFrame ((wellFormed b0 key payload).getD · 0)
        (wellFormed b0 key payload).length =
      (some ⟨b0 &&& 0x80 != 0, b0 &&& 0x0F, payload, headerLen⟩,
        List.range (wellFormed b0 key payload).length) ∧
      (wellFormed b0 key payload).length = headerLen + payload.length := by
  have hL : payload.length + 14 < 2 ^ 64 := by unfold STRING_MAX_SIZE at hp; omega
  obtain ⟨hm, hpl⟩ :=
    payloadLength_lengthField b0 key.isSome payload.length (maskedBody key payload) (by omega)
  have hfl := length_lengthField key.isSome payload.length
  unfold wellFormed processWebsocketFrame
  simp only [hpl, hm, if_neg (show ¬STRING_MAX_SIZE < payload.length by omega)]
  generalize lengthField key.isSome payload.length = field at hfl
  have hfl' : 1 ≤ field.length ∧ field.length ≤ 9 := by split_ifs at hfl <;> omega
  cases key with
  | none =>
    have hlen : (b0 :: (field ++ payload)).length = 1 + field.length + payload.length := by
      simp; omega
    have hread := unmask_plain (b0 :: field) payload (1 + field.length) (by simp; omega)
    have hrange := reads_eq_range field.length 0 payload.length hfl'.1
    simp only [List.cons_append] at hread
    simp only [List.range'_zero, List.append_nil, Nat.add_zero, List.cons_append,
      List.nil_append] at hrange
    refine ⟨1 + field.length, ?_, by simpa [maskedBody] using hlen⟩
    simp only [maskedBody, List.cons_append, hlen, Option.isSome_none, Bool.false_eq_true,
      if_false, Nat.add_zero, List.getD_cons_zero, hread, List.append_nil, List.nil_append,
      Nat.mod_eq_of_lt (show 1 + field.length + payload.length < 2 ^ 64 by omega),
      if_neg (show ¬ 1 + field.length + payload.length < 2 by omega), lt_irrefl, hrange]
  | some k =>
    have hlen : (b0 :: (field ++ (k.bytes ++ maskFrom k 0 payload))).length =
        1 + field.length + 4 + payload.length := by simp [k.length_eq]; omega
    have hkey := map_getD_range'_append (b0 :: field) k.bytes (maskFrom k 0 payload)
    have hread := unmask_maskFrom (b0 :: field ++ k.bytes) k payload (1 + field.length + 4)
      (by simp [k.length_eq]; omega)
    have hrange := reads_eq_range field.length 4 payload.length hfl'.1
    simp only [List.cons_append, List.append_assoc, List.length_cons, k.length_eq,
      Nat.add_comm field.length 1] at hkey hread
    refine ⟨1 + field.length + 4, ?_, by simp [maskedBody, k.length_eq]; omega⟩
    simp only [maskedBody, List.cons_append, hlen, Option.isSome_some, if_true,
      List.getD_cons_zero, List.append_nil, List.nil_append,
      Nat.mod_eq_of_lt (show 1 + field.length + 4 + payload.length < 2 ^ 64 by omega),
      if_neg (show ¬ 1 + field.length + 4 + payload.length < 2 by omega), lt_irrefl, if_false,
      MaskKey.get, hkey]
    simp only [MaskKey.get] at hread
    simp only [List.cons_append, List.nil_append] at hrange
    rw [hread, hrange]

/-! ## The framer and the client against the layout -/

theorem framerLength_eq_lengthField (mask : Bool) (n : Nat) (hn : n < 2 ^ 64) :
    framerLength (maskBit mask) n = lengthField mask n := by
  unfold framerLength lengthField
  split_ifs with h1 h2 h3 h3 <;> try omega
  · have h7 : n &&& 0x7F = n := by
      rw [show (0x7F : Nat) = 2 ^ 7 - 1 from rfl, Nat.and_pow_two_sub_one_eq_mod]; omega
    rw [h7]
  · rw [leBytes_byteSwap, ← beBytes_eq_reverse, Nat.mod_eq_of_lt h3]
  · rw [leBytes_byteSwap, ← beBytes_eq_reverse, Nat.mod_eq_of_lt hn]

/-- `frame_message` writes the well-formed frame of its payload, with FIN set and the masking key
it took from the cycle counter. -/
theorem frameMessage_eq_wellFormed {bufferLen : Nat} {payload : Bytes} {opcode : UInt8}
    {mask : Bool} {maskKey : UInt32} {frame : Bytes} (hp : payload.length < 2 ^ 64)
    (h : frameMessage bufferLen payload opcode mask maskKey = some frame) :
    frame = wellFormed (0x80 ||| (opcode &&& 0x0F))
      (if mask then some (MaskKey.ofUInt32 maskKey) else none) payload := by
  unfold frameMessage at h
  obtain ⟨-, h⟩ := Option.ite_none_left_eq_some.mp h
  cases Option.some.inj h
  cases mask <;> simp [wellFormed, maskedBody, framerLength_eq_lengthField _ _ hp]

/-- Every frame `frame_message` writes decodes to FIN set, its opcode and its payload; its
length is the decoder's header length plus the payload's, and the decoder reads its bytes and
no others. -/
theorem processWebsocketFrame_frameMessage {bufferLen : Nat} {payload : Bytes} {opcode : UInt8}
    {mask : Bool} {maskKey : UInt32} {frame : Bytes} (hop : opcode < 16)
    (hp : payload.length ≤ STRING_MAX_SIZE)
    (h : frameMessage bufferLen payload opcode mask maskKey = some frame) :
    ∃ headerLen, processWebsocketFrame (frame.getD · 0) frame.length =
        (some ⟨true, opcode, payload, headerLen⟩, List.range frame.length) ∧
      frame.length = headerLen + payload.length := by
  have hb := firstByte_bits true opcode hop
  simp only [if_true] at hb
  rw [frameMessage_eq_wellFormed (by unfold STRING_MAX_SIZE at hp; omega) h]
  obtain ⟨headerLen, hdec, hlen⟩ := processWebsocketFrame_wellFormed (0x80 ||| (opcode &&& 0x0F))
    (if mask then some (MaskKey.ofUInt32 maskKey) else none) payload hp
  rw [hb.1, hb.2] at hdec
  exact ⟨headerLen, hdec, hlen⟩

/-- Below 126 bytes the client's frame is the well-formed one, masked with its key. -/
theorem generateWebsocketFrame_short (payload : Bytes) (opcode : UInt8) (fin : Bool)
    (key : MaskKey) (hp : payload.length ≤ 125) :
    generateWebsocketFrame payload opcode fin key =
      wellFormed ((if fin then 0x80 else 0) ||| (opcode &&& 0x0F)) (some key) payload := by
  simp [generateWebsocketFrame, wellFormed, clientLength, lengthField, maskedBody, maskBit, hp,
    show payload.length < 126 by omega]

/-- From 126 bytes on, the client pushes the bytes of the already swapped length most significant
first: the network-order bytes of the length byte-swapped. -/
theorem clientLength_extended (n : Nat) (h1 : 125 < n) (hn : n < 2 ^ 64) :
    clientLength n = if n ≤ 0xFFFF then (maskBit true ||| 126) :: beBytes 2 (byteSwap 2 n)
      else (maskBit true ||| 127) :: beBytes 8 (byteSwap 8 n) := by
  rw [clientLength, if_neg (by omega)]
  dsimp only
  split_ifs with h2
  · rw [Nat.mod_eq_of_lt (show n < 2 ^ 16 by omega)]; rfl
  · rw [Nat.mod_eq_of_lt hn, map_shift_eq_beBytes]; rfl

/-- The decoder reads the length of a client frame of 126 bytes or more byte-swapped. -/
theorem payloadLength_generateWebsocketFrame (payload : Bytes) (opcode : UInt8) (fin : Bool)
    (key : MaskKey) (h1 : 125 < payload.length) (hp : payload.length < 2 ^ 64) :
    let frame := generateWebsocketFrame payload opcode fin key
    let w := if payload.length ≤ 0xFFFF then 2 else 8
    (frame.getD 1 0 &&& 0x80 != 0) = true ∧
      payloadLength (frame.getD · 0) frame.length (frame.getD 1 0 &&& 0x7F).toNat =
        (some (byteSwap w payload.length, 2 + w), List.range' 2 w) := by
  dsimp only
  unfold generateWebsocketFrame
  rw [clientLength_extended _ h1 hp]
  by_cases hw : payload.length ≤ 0xFFFF
  · rw [if_pos hw, if_pos hw]
    have h := payloadLength_extended ((if fin then 0x80 else 0) ||| (opcode &&& 0x0F)) true 126 2
      (byteSwap 2 payload.length) (key.bytes ++ maskFrom key 0 payload) (.inl ⟨rfl, rfl⟩)
    rw [Nat.mod_eq_of_lt (byteSwap_lt 2 _)] at h
    simpa only [List.cons_append, List.append_assoc] using h
  · rw [if_neg hw, if_neg hw]
    have h := payloadLength_extended ((if fin then 0x80 else 0) ||| (opcode &&& 0x0F)) true 127 8
      (byteSwap 8 payload.length) (key.bytes ++ maskFrom key 0 payload) (.inr ⟨rfl, rfl⟩)
    rw [Nat.mod_eq_of_lt (byteSwap_lt 8 _)] at h
    simpa only [List.cons_append, List.append_assoc] using h

/-- The completeness check: a frame shorter than its header and its declared payload is
rejected. -/
theorem processWebsocketFrame_eq_none_of_lt {data : Nat → UInt8} {len payloadLen offset : Nat}
    {reads : List Nat}
    (hpl : payloadLength data len (data 1 &&& 0x7F).toNat = (some (payloadLen, offset), reads))
    (hlt : len < (offset + (if data 1 &&& 0x80 != 0 then 4 else 0) + payloadLen) % 2 ^ 64) :
    (processWebsocketFrame data len).1 = none := by
  unfold processWebsocketFrame
  split_ifs
  · rfl
  · rw [hpl]
    simp only [hlt, if_true]

/-- A 126-byte text message: the shortest payload framed with an extended length. -/
def text126 : Bytes := List.replicate 126 0x61

theorem client_frame_of_126_bytes_rejected (key : MaskKey) :
    (processWebsocketFrame ((generateWebsocketFrame text126 1 true key).getD · 0)
        (generateWebsocketFrame text126 1 true key).length).1 = none ∧
      ∃ frame headerLen, frameMessage 134 text126 1 true 0 = some frame ∧
        (processWebsocketFrame (frame.getD · 0) frame.length).1 = some ⟨true, 1, text126, headerLen⟩ := by
  have h126 : text126.length = 126 := by simp [text126]
  obtain ⟨hm, hpl⟩ := payloadLength_generateWebsocketFrame text126 1 true key (by omega) (by omega)
  have hlen : (generateWebsocketFrame text126 1 true key).length = 134 := by
    simp [generateWebsocketFrame, clientLength, key.length_eq, h126]
  simp only [h126, if_pos (show 126 ≤ 0xFFFF by decide)] at hpl
  refine ⟨processWebsocketFrame_eq_none_of_lt hpl ?_, ?_⟩
  · simp only [hm, hlen, if_true]
    decide
  · obtain ⟨frame, hf⟩ : ∃ frame, frameMessage 134 text126 1 true 0 = some frame := by
      simp [frameMessage, h126]
    obtain ⟨headerLen, hdec, -⟩ := processWebsocketFrame_frameMessage (by decide)
      (by simp [h126, STRING_MAX_SIZE]) hf
    exact ⟨frame, headerLen, hf, by rw [hdec]⟩

/-! ## What the decoder reads -/

/-- Reading the extended length stays inside the frame. -/
theorem payloadLength_reads_lt (data : Nat → UInt8) (len code : Nat) :
    ∀ i ∈ (payloadLength data len code).2, i < len := by
  unfold payloadLength
  split_ifs <;> simp [List.mem_range'_1] <;> omega

/-- What a seven-bit length code can declare: up to 16 bits, or the 64-bit length loaded at
byte 2 for code 127, with the header at most ten bytes. -/
theorem payloadLength_some {data : Nat → UInt8} {len code payloadLen offset : Nat}
    {reads : List Nat} (hcode : code < 128)
    (h : payloadLength data len code = (some (payloadLen, offset), reads)) :
    offset ≤ 10 ∧ (payloadLen < 2 ^ 16 ∨ code = 127 ∧ payloadLen = beLoad data 2 8) := by
  unfold payloadLength at h
  have h16 := byteSwap_lt 2 (leValue ((List.range' 2 2).map data))
  split_ifs at h <;> simp only [Prod.mk.injEq, Option.some.injEq] at h <;>
    obtain ⟨⟨rfl, rfl⟩, -⟩ := h
  · exact ⟨by omega, .inl (by omega)⟩
  · exact ⟨by omega, .inl h16⟩
  · exact ⟨by omega, .inr ⟨by omega, rfl⟩⟩

theorem lengthCode_lt (b : UInt8) : (b &&& 0x7F).toNat < 128 := by
  show (b.toBitVec &&& 0x7F).toNat < 128
  rw [BitVec.toNat_and]
  exact Nat.lt_of_le_of_lt Nat.and_le_right (by decide)

/-- Without a wrap-around of the completeness check, the decoder reads inside the frame: on
`len` bytes whose 64-bit length field, if any, declares under `2 ^ 64 - 14` bytes, it reads no
index at or past `len`. -/
theorem processWebsocketFrame_reads_lt (data : Nat → UInt8) (len : Nat) (hlen : len < 2 ^ 64)
    (hwrap : (data 1 &&& 0x7F).toNat = 127 → beLoad data 2 8 + 14 < 2 ^ 64) :
    ∀ i ∈ (processWebsocketFrame data len).2, i < len := by
  by_cases h2 : len < 2
  · simp [processWebsocketFrame, h2]
  rw [processWebsocketFrame, if_neg h2]
  have hpl := payloadLength_reads_lt data len (data 1 &&& 0x7F).toNat
  rcases hp : payloadLength data len (data 1 &&& 0x7F).toNat with ⟨_ | ⟨payloadLen, offset⟩, reads⟩
  · rw [hp] at hpl
    intro i hi
    simp only [List.mem_append, List.mem_cons, List.mem_singleton, List.not_mem_nil,
      or_false] at hi
    rcases hi with (rfl | rfl) | hi
    · omega
    · omega
    · exact hpl i hi
  · rw [hp] at hpl
    obtain ⟨hoff, hdecl⟩ := payloadLength_some (lengthCode_lt (data 1)) hp
    have hsum : offset + 4 + payloadLen < 2 ^ 64 := by
      rcases hdecl with hdecl | ⟨hc, hL⟩
      · omega
      · have := hwrap hc; omega
    generalize (data 1 &&& 0x80 != 0) = masked
    intro i hi
    simp only at hi hpl
    have hk : offset + (if masked then 4 else 0) + payloadLen < 2 ^ 64 := by split <;> omega
    rw [Nat.mod_eq_of_lt hk] at hi
    by_cases hr : i ∈ reads
    · exact hpl i hr
    cases masked <;> simp only [Bool.false_eq_true, if_false, if_true] at hi <;>
      split_ifs at hi <;> simp [List.mem_range'_1, hr] at hi <;> omega

/-- A masked frame header declaring `2 ^ 64 - 14` payload bytes: the completeness check sums to
`2 ^ 64`, which wraps to 0. -/
def wrappingHeader : Bytes := [0x81, 0xFF, 0xFF, 0xFF, 0xFF, 0xFF, 0xFF, 0xFF, 0xFF, 0xF2]

theorem masking_key_read_past_header :
    wrappingHeader.length = 10 ∧
      (processWebsocketFrame (wrappingHeader.getD · 0) wrappingHeader.length).2 = List.range 14 := by
  decide

end AeroGateway.Legacy
