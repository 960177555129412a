import Mathlib.Data.List.GetD
import AeroGateway.Network.MicroTcp
import AeroGateway.Market.Json

/-!
# TLS records on the legacy client's connection

While its TLS handshake runs, `WebSocketClient::process_rx` cuts the bytes `MicroTcp` buffered
into TLS records: a type from 20 to 23, two version bytes and a 16-bit length, then the body.
Each whole record is written to the TLS socket after the socket's pending output is flushed,
and the handshake is pumped at most ten times after it. The loop stops at the first short
header, bad type or short body, or once the handshake completes, and the bytes from there on
are dropped: the buffer is local to the call. A stream of records splits back into those
records, a record cut short is never fed, and the loop feeds the socket the records at the
front of the buffer in order, all of them unless the handshake completed first.

`TlsSocket` (implemented in `boost_websocket_client.cpp`) wraps an OpenSSL client over two
memory BIOs: `do_handshake` is `SSL_do_handshake`, `encrypt` and `decrypt` are `SSL_write` and
`SSL_read`, `write_encrypted` and `read_encrypted` move bytes into the read BIO and out of the
write BIO. OpenSSL is not modelled, so the socket is a state with the calls the client makes on
it, and every result holds for every such socket. A `while (read_encrypted(buf) > 0)` loop is
the list of chunks the socket hands out.
-/

namespace AeroGateway.Legacy

open Market Network

/-- The calls the client makes on its `TlsSocket`, over the socket's state `σ`. -/
structure TlsSocket (σ : Type) where
  /-- `do_handshake`: 1 once the handshake is complete, 0 to be called again, -1 on error. -/
  doHandshake : σ → Int × σ
  /-- `set_hostname`, for SNI. -/
  setHostname : σ → String → σ
  /-- The chunks successive `read_encrypted` calls return, until one returns 0. -/
  drainEncrypted : σ → List Bytes × σ
  /-- `write_encrypted`: bytes from the wire into the socket's read BIO. -/
  writeEncrypted : σ → Bytes → σ
  /-- `encrypt`: its return value and the records for the wire. -/
  encrypt : σ → Bytes → Int × Bytes × σ
  /-- `decrypt`: its return value and the plaintext. -/
  decrypt : σ → Bytes → Int × Bytes × σ

/-- The connection under the client: its `MicroTcp`, its TLS socket, and, as ghost data, the
records written to the socket and the upgrade requests generated. -/
structure Link (σ : Type) where
  tcp : MicroTcp
  tls : σ
  fed : List Bytes
  requests : List String

/-- `MAX_PUMPS`. -/
def MAX_PUMPS : Nat := 10

/-- The upgrade request `generate_websocket_handshake` writes for `ws_path_`, `ws_host_` and
`ws_key_`. -/
def handshakeRequest (path host key : String) : String :=
  "GET " ++ path ++ " HTTP/1.1\r\n" ++ "Host: " ++ host ++ "\r\n" ++ "Upgrade: websocket\r\n" ++
    "Connection: Upgrade\r\n" ++ "Sec-WebSocket-Key: " ++ key ++ "\r\n" ++
    "Sec-WebSocket-Version: 13\r\n" ++ "\r\n"

namespace Link

variable {σ : Type} (E : TlsSocket σ)

/-- `tcp_client_.send_data(buf.data(), buf.size())`: the size narrowed to `uint16_t`, and a
segment when the connection is established. -/
def sendData (l : Link σ) (b : Bytes) : Link σ × List Segment :=
  let (tcp, seg) := l.tcp.sendData (UInt16.ofNat b.length) (b.getD · 0)
  ({ l with tcp }, seg.toList)

/-- Chunks handed to `send_data` one after another. -/
def sendAll : Link σ → List Bytes → Link σ × List Segment
  | l, [] => (l, [])
  | l, b :: bs =>
    let (l, out₁) := l.sendData b
    let (l, out₂) := sendAll l bs
    (l, out₁ ++ out₂)

/-- A `while (tls_socket_.read_encrypted(buf) > 0)` loop: what the socket has to send goes
out. -/
def flush (l : Link σ) : Link σ × List Segment :=
  let (chunks, tls) := E.drainEncrypted l.tls
  sendAll { l with tls } chunks

/-- The pump after a record with `n` of the `MAX_PUMPS` calls left: `do_handshake` and a
flush, again while it returns 0, and the last value it returned. -/
def pump : Nat → Link σ → Link σ × List Segment × Int
  | 0, l => (l, [], 0)
  | n + 1, l =>
    let (hs, tls) := E.doHandshake l.tls
    let (l, out) := flush E { l with tls }
    if hs = 0 ∧ 0 < n then
      let (l, out', hs') := pump n l
      (l, out ++ out', hs')
    else (l, out, hs)

/-- One record of the feed loop: the socket's pending output flushed, the record written to
it, and the handshake pumped. -/
def feed (record : Bytes) (l : Link σ) : Link σ × List Segment × Int :=
  let (l, out₁) := flush E l
  let l := { l with tls := E.writeEncrypted l.tls record, fed := l.fed ++ [record] }
  let (l, out₂, hs) := pump E MAX_PUMPS l
  (l, out₁ ++ out₂, hs)

/-- `generate_websocket_handshake`: the request, encrypted, on one segment; nothing when
`encrypt` fails. -/
def generateWebsocketHandshake (request : String) (l : Link σ) : Link σ × List Segment :=
  let (ret, enc, tls) := E.encrypt l.tls (bytesOf request)
  let l := { l with tls, requests := l.requests ++ [request] }
  if ret ≤ 0 then (l, []) else sendData l enc

@[simp] theorem fed_sendData (l : Link σ) (b : Bytes) : (l.sendData b).1.fed = l.fed := rfl

@[simp] theorem fed_sendAll : ∀ (l : Link σ) (bs : List Bytes), (sendAll l bs).1.fed = l.fed
  | _, [] => rfl
  | l, b :: bs => (fed_sendAll (l.sendData b).1 bs).trans (fed_sendData l b)

@[simp] theorem fed_flush (l : Link σ) : (flush E l).1.fed = l.fed := fed_sendAll _ _

@[simp] theorem fed_pump : ∀ (n : Nat) (l : Link σ), (pump E n l).1.fed = l.fed
  | 0, _ => rfl
  | n + 1, l => by
    simp only [pump]
    split_ifs
    · exact (fed_pump n _).trans (fed_flush E _)
    · exact fed_flush E _

@[simp] theorem fed_feed (record : Bytes) (l : Link σ) :
    (feed E record l).1.fed = l.fed ++ [record] := by
  simp [feed]

@[simp] theorem fed_generateWebsocketHandshake (request : String) (l : Link σ) :
    (generateWebsocketHandshake E request l).1.fed = l.fed := by
  simp only [generateWebsocketHandshake]
  split_ifs <;> rfl

/-! The link reaches its connection only through `send_data`, so every call on it is a run of
`MicroTcp` calls that returns the call's segments. -/

section Runs

variable (ep : Endpoints)

theorem runsTo_sendData (l : Link σ) (b : Bytes) :
    MicroTcp.RunsTo ep l.tcp (l.sendData b).1.tcp (l.sendData b).2 :=
  MicroTcp.RunsTo.of_step ep (.sendData _ _) l.tcp

theorem runsTo_sendAll : ∀ (l : Link σ) (bs : List Bytes),
    MicroTcp.RunsTo ep l.tcp (sendAll l bs).1.tcp (sendAll l bs).2
  | l, [] => MicroTcp.RunsTo.refl ep l.tcp
  | l, b :: bs => (runsTo_sendData ep l b).trans ep (runsTo_sendAll (l.sendData b).1 bs)

theorem runsTo_flush (l : Link σ) : MicroTcp.RunsTo ep l.tcp (flush E l).1.tcp (flush E l).2 :=
  runsTo_sendAll ep { l with tls := (E.drainEncrypted l.tls).2 } (E.drainEncrypted l.tls).1

theorem runsTo_pump : ∀ (n : Nat) (l : Link σ),
    MicroTcp.RunsTo ep l.tcp (pump E n l).1.tcp (pump E n l).2.1
  | 0, l => MicroTcp.RunsTo.refl ep l.tcp
  | n + 1, l => by
    have hf := runsTo_flush E ep { l with tls := (E.doHandshake l.tls).2 }
    simp only [pump]
    split_ifs
    · exact hf.trans ep (runsTo_pump n _)
    · exact hf

theorem runsTo_feed (record : Bytes) (l : Link σ) :
    MicroTcp.RunsTo ep l.tcp (feed E record l).1.tcp (feed E record l).2.1 :=
  (runsTo_flush E ep l).trans ep (runsTo_pump E ep MAX_PUMPS
    { (flush E l).1 with tls := E.writeEncrypted (flush E l).1.tls record
                         fed := (flush E l).1.fed ++ [record] })

theorem runsTo_generateWebsocketHandshake (request : String) (l : Link σ) :
    MicroTcp.RunsTo ep l.tcp (generateWebsocketHandshake E request l).1.tcp
      (generateWebsocketHandshake E request l).2 := by
  simp only [generateWebsocketHandshake]
  split_ifs
  · exact MicroTcp.RunsTo.refl ep l.tcp
  · exact runsTo_sendData ep { l with tls := (E.encrypt l.tls (bytesOf request)).2.2
                                      requests := l.requests ++ [request] }
      (E.encrypt l.tls (bytesOf request)).2.1

end Runs

end Link

/-! ## Cutting the buffer into records -/

/-- The record header at `offset`, as the feed loop reads it: the record's size when five
bytes are left, the type is one of 20 to 23, and the body the length gives is all there. -/
def recordSize (d : Bytes) (offset : Nat) : Option Nat :=
  if d.length - offset < 5 then none
  else
    let type := d.getD offset 0
    let length := (d.getD (offset + 3) 0).toNat * 256 + (d.getD (offset + 4) 0).toNat
    if type < 20 ∨ type > 23 then none
    else if offset + (5 + length) > d.length then none
    else some (5 + length)

theorem recordSize_bounds {d : Bytes} {offset size : Nat} (h : recordSize d offset = some size) :
    5 ≤ size ∧ offset + size ≤ d.length := by
  simp only [recordSize] at h
  split_ifs at h with h₁ h₂ h₃
  cases h
  omega

/-- The whole records the feed loop walks from `offset`, up to the first place it stops. -/
def records (d : Bytes) (offset : Nat) : List Bytes :=
  if offset < d.length then
    match _hr : recordSize d offset with
    | none => []
    | some size => (d.drop offset).take size :: records d (offset + size)
  else []
termination_by d.length - offset
decreasing_by have := (recordSize_bounds _hr).1; omega

variable {σ : Type} (E : TlsSocket σ)

/-- The feed loop from `offset`: each whole record goes to the socket after a flush, and the
handshake is pumped; when it completes, the upgrade request goes out and the loop stops with
the state to become `WS_HANDSHAKE_SENT` (the `Bool`). -/
def feedRecords (request : String) (d : Bytes) (offset : Nat) (l : Link σ) :
    Link σ × List Segment × Bool :=
  if offset < d.length then
    match _hr : recordSize d offset with
    | none => (l, [], false)
    | some size =>
      let (l, out₁, hs) := Link.feed E ((d.drop offset).take size) l
      if hs = 1 then
        let (l, out₂) := Link.generateWebsocketHandshake E request l
        (l, out₁ ++ out₂, true)
      else
        let (l, out₂, done) := feedRecords request d (offset + size) l
        (l, out₁ ++ out₂, done)
  else (l, [], false)
termination_by d.length - offset
decreasing_by have := (recordSize_bounds _hr).1; omega

/-- The feed loop over records already cut out: the same calls on the socket, record by
record. -/
def feedList (request : String) : List Bytes → Link σ → Link σ × List Segment × Bool
  | [], l => (l, [], false)
  | record :: rs, l =>
    let (l, out₁, hs) := Link.feed E record l
    if hs = 1 then
      let (l, out₂) := Link.generateWebsocketHandshake E request l
      (l, out₁ ++ out₂, true)
    else
      let (l, out₂, done) := feedList request rs l
      (l, out₁ ++ out₂, done)

theorem feedRecords_eq_feedList (request : String) (d : Bytes) :
    ∀ offset (l : Link σ), feedRecords E request d offset l = feedList E request (records d offset) l := by
  intro offset l
  obtain ⟨n, hn⟩ : ∃ n, d.length - offset = n := ⟨_, rfl⟩
  induction n using Nat.strong_induction_on generalizing offset l with
  | _ n ih =>
    rw [feedRecords, records]
    split_ifs with hlt
    · split
      · rfl
      · rename_i size hr
        have hb := (recordSize_bounds hr).1
        simp only [feedList]
        rw [ih _ (by omega) (offset + size) _ rfl]
    · rfl

/-- The loop feeds the socket a prefix of the records, all of them unless the handshake
completed on one. -/
theorem fed_feedList (request : String) :
    ∀ (rs : List Bytes) (l : Link σ), ∃ k ≤ rs.length,
      (feedList E request rs l).1.fed = l.fed ++ rs.take k ∧
      ((feedList E request rs l).2.2 = false → k = rs.length)
  | [], l => ⟨0, le_rfl, by simp [feedList], fun _ => rfl⟩
  | record :: rs, l => by
    simp only [feedList]
    split_ifs
    · exact ⟨1, by simp, by simp, by simp⟩
    · obtain ⟨k, hk, hfed, hdone⟩ := fed_feedList request rs (Link.feed E record l).1
      refine ⟨k + 1, by simpa using hk, by simp [hfed], fun h => by simp [hdone h]⟩

theorem runsTo_feedList (ep : Endpoints) (request : String) :
    ∀ (rs : List Bytes) (l : Link σ),
      MicroTcp.RunsTo ep l.tcp (feedList E request rs l).1.tcp (feedList E request rs l).2.1
  | [], l => MicroTcp.RunsTo.refl ep l.tcp
  | record :: rs, l => by
    simp only [feedList]
    split_ifs
    · exact (Link.runsTo_feed E ep record l).trans ep
        (Link.runsTo_generateWebsocketHandshake E ep request _)
    · exact (Link.runsTo_feed E ep record l).trans ep (runsTo_feedList ep request rs _)

theorem runsTo_feedRecords (ep : Endpoints) (request : String) (d : Bytes) (offset : Nat)
    (l : Link σ) : MicroTcp.RunsTo ep l.tcp (feedRecords E request d offset l).1.tcp
      (feedRecords E request d offset l).2.1 := by
  rw [feedRecords_eq_feedList]
  exact runsTo_feedList E ep request _ l

/-! ## Records on the wire -/

/-- A TLS record as the loop reads it: a type from 20 to 23, two version bytes, and a body of
fewer than 2^16 bytes. -/
structure TlsRecord where
  type : UInt8
  version : UInt8 × UInt8
  body : Bytes
  type_ge : 20 ≤ type
  type_le : type ≤ 23
  body_lt : body.length < 2 ^ 16

/-- The record's bytes: the type, the version, the body's length in network order, the
body. -/
def TlsRecord.bytes (r : TlsRecord) : Bytes :=
  r.type :: r.version.1 :: r.version.2 :: UInt8.ofNat (r.body.length / 256) ::
    UInt8.ofNat r.body.length :: r.body

@[simp] theorem TlsRecord.length_bytes (r : TlsRecord) : r.bytes.length = 5 + r.body.length := by
  simp [TlsRecord.bytes]; omega

theorem recordSize_append_left (p d : Bytes) (offset : Nat) :
    recordSize (p ++ d) (p.length + offset) = recordSize d offset := by
  have hget : ∀ i, (p ++ d).getD (p.length + offset + i) 0 = d.getD (offset + i) 0 := fun i => by
    rw [List.getD_append_right _ _ _ _ (by omega)]; congr 1; omega
  have h0 := hget 0
  simp only [Nat.add_zero] at h0
  have hsub : p.length + d.length - (p.length + offset) = d.length - offset := by omega
  have hgt : ∀ x, p.length + offset + x > p.length + d.length ↔ offset + x > d.length :=
    fun x => by omega
  simp only [recordSize, List.length_append, hget 3, hget 4, h0, hsub, hgt]

theorem records_append_left (p d : Bytes) :
    ∀ offset, records (p ++ d) (p.length + offset) = records d offset := by
  intro offset
  obtain ⟨n, hn⟩ : ∃ n, d.length - offset = n := ⟨_, rfl⟩
  induction n using Nat.strong_induction_on generalizing offset with
  | _ n ih =>
    have hrs := recordSize_append_left p d offset
    rw [records, records]
    simp only [List.length_append, Nat.add_lt_add_iff_left]
    split_ifs with hlt
    · split
      · rename_i h₁
        split
        · rfl
        · rename_i size h₂
          rw [hrs] at h₁; cases h₁.symm.trans h₂
      · rename_i size h₁
        split
        · rename_i h₂
          rw [hrs] at h₁; cases h₁.symm.trans h₂
        · rename_i size' h₂
          rw [hrs] at h₁; cases h₁.symm.trans h₂
          have hb := (recordSize_bounds h₂).1
          rw [List.drop_append, Nat.add_assoc, ih _ (by omega) _ rfl]
    · rfl

theorem recordSize_bytes_append (r : TlsRecord) (rest : Bytes) :
    recordSize (r.bytes ++ rest) 0 = some r.bytes.length := by
  have hb : ∀ n, (UInt8.ofNat n).toNat = n % 256 := fun n => by simp [UInt8.toNat, UInt8.ofNat]
  have htype : ¬(r.type < 20 ∨ r.type > 23) := by
    have := r.type_ge; have := r.type_le
    simp only [UInt8.lt_def, UInt8.le_def, GT.gt, BitVec.lt_def, BitVec.le_def,
      UInt8.toBitVec_ofNat] at *
    omega
  have hlen := r.body_lt
  simp only [recordSize, TlsRecord.bytes, List.cons_append, List.getD_cons_succ,
    List.getD_cons_zero, List.length_cons, List.length_append, hb, htype, if_false]
  rw [if_neg (by omega), if_neg (by omega)]
  congr 1
  omega

/-- A record followed by anything is read as that record, then as what follows. -/
theorem records_bytes_append (r : TlsRecord) (rest : Bytes) :
    records (r.bytes ++ rest) 0 = r.bytes :: records rest 0 := by
  rw [records, if_pos (by simp only [List.length_append, TlsRecord.length_bytes]; omega)]
  split <;> rename_i h <;> rw [recordSize_bytes_append] at h <;> cases h
  rw [List.drop_zero, List.take_left' rfl, Nat.zero_add, ← Nat.add_zero r.bytes.length,
    records_append_left]

/-- A stream of records splits back into those records; what follows them is read on its own. -/
theorem records_flatMap_append (rs : List TlsRecord) (rest : Bytes) :
    records (rs.flatMap TlsRecord.bytes ++ rest) 0 = rs.map TlsRecord.bytes ++ records rest 0 := by
  induction rs with
  | nil => rfl
  | cons r rs ih => rw [List.flatMap_cons, List.append_assoc, records_bytes_append, ih]; rfl

/-- A record cut short, by a segment boundary or a full buffer, is no record: the loop stops
before it. -/
theorem records_prefix (r : TlsRecord) {p : Bytes} (hp : p <+: r.bytes)
    (hlt : p.length < r.bytes.length) : records p 0 = [] := by
  rw [records]
  split_ifs with h0
  · split
    · rfl
    · rename_i size h
      obtain ⟨t, ht⟩ := hp
      have hget : ∀ i < p.length, p.getD i 0 = r.bytes.getD i 0 := fun i hi => by
        rw [← ht, List.getD_append _ _ _ _ hi]
      have hsize := recordSize_bounds h
      have hb : ∀ n, (UInt8.ofNat n).toNat = n % 256 := fun n => by simp [UInt8.toNat, UInt8.ofNat]
      have hbody := r.body_lt
      simp only [recordSize] at h
      split_ifs at h
      cases h
      rw [hget 3 (by omega), hget 4 (by omega)] at hsize
      simp only [TlsRecord.bytes, List.getD_cons_succ, List.getD_cons_zero, hb] at hsize
      rw [TlsRecord.length_bytes] at hlt
      omega
  · rfl

/-- On a buffer of whole records followed by the start of one more, the loop feeds the socket
the whole records in order, all of them unless the handshake completed on one, and never the
start of the last. -/
theorem feedRecords_whole_records (request : String) (rs : List TlsRecord) (r : TlsRecord)
    {p : Bytes} (hp : p <+: r.bytes) (hlt : p.length < r.bytes.length) (l : Link σ) :
    ∃ k ≤ rs.length,
      (feedRecords E request (rs.flatMap TlsRecord.bytes ++ p) 0 l).1.fed =
        l.fed ++ (rs.map TlsRecord.bytes).take k ∧
      ((feedRecords E request (rs.flatMap TlsRecord.bytes ++ p) 0 l).2.2 = false →
        k = rs.length) := by
  rw [feedRecords_eq_feedList, records_flatMap_append, records_prefix r hp hlt, List.append_nil]
  simpa using fed_feedList E request (rs.map TlsRecord.bytes) l

/-- A socket that never completes its handshake and has nothing to send. -/
def silentSocket : TlsSocket Unit :=
  ⟨fun _ => (0, ()), fun _ _ => (), fun _ => ([], ()), fun _ _ => (), fun _ _ => (0, [], ()),
    fun _ _ => (0, [], ())⟩

/-- An application-data record with a two-byte body. -/
def appDataRecord : TlsRecord := ⟨23, (3, 3), [1, 2], by decide, by decide, by decide⟩

theorem feedRecords_whole_records_two : ([0x17, 3] : Bytes) <+: appDataRecord.bytes ∧
    ([0x17, 3] : Bytes).length < appDataRecord.bytes.length ∧
    ∃ k ≤ 2, (feedRecords silentSocket "" ([appDataRecord, appDataRecord].flatMap TlsRecord.bytes ++
        [0x17, 3]) 0 ⟨MicroTcp.init 0 [], (), [], []⟩).1.fed =
        ([appDataRecord, appDataRecord].map TlsRecord.bytes).take k ∧
      ((feedRecords silentSocket "" ([appDataRecord, appDataRecord].flatMap TlsRecord.bytes ++
        [0x17, 3]) 0 ⟨MicroTcp.init 0 [], (), [], []⟩).2.2 = false → k = 2) :=
  ⟨⟨[3, 0, 2, 1, 2], rfl⟩, by decide,
    feedRecords_whole_records silentSocket "" [appDataRecord, appDataRecord] appDataRecord
      ⟨[3, 0, 2, 1, 2], rfl⟩ (by decide) ⟨MicroTcp.init 0 [], (), [], []⟩⟩

end AeroGateway.Legacy
