import AeroGateway.Market.Json
import AeroGateway.Market.Numeric

/-!
# The fast-path JSON parser

`JsonParser` reads OKX and Bybit order-book messages with simdjson's on-demand API. Each lookup
in an object searches on from where the last one in that object stopped, wrapping round; a
failed `.value()` throws a `simdjson_error`, which the parser catches and records as an invalid
result. OKX messages give one update per level of every element of `data`, Bybit messages one
per level of `data.b` and `data.a`; a level is deleted when its quantity compares equal to zero.
-/

namespace AeroGateway.Market

/-- `MessageType`. -/
inductive MessageType
  | SNAPSHOT
  | UPDATE
  | UNKNOWN
  deriving DecidableEq, Repr

/-- The `error_msg` of an invalid result: a text of the parser's own, or a `simdjson_error` it
caught, whose text is not modelled. -/
inductive ParseError
  | message (text : String)
  | simdjson
  deriving DecidableEq, Repr

/-- `ParsedMarketData` with `valid` set; `symbol` is the C string its `char[32]` holds. The other
fields of an invalid result are not modelled: no caller reads them. -/
structure ParsedMarketData where
  exchange : ExchangeId
  msgType : MessageType
  symbol : Bytes
  timestampNs : UInt64
  updates : List OrderBookUpdate
  deriving DecidableEq, Repr

namespace JsonParser

/-- A `.value()` on an access that failed throws. -/
def orThrow {α : Type} : Option α → Except ParseError α
  | some a => .ok a
  | none => .error .simdjson

/-- The C string a `char` buffer of `n + 1` bytes holds after the copy of at most `n` bytes and
a NUL. -/
def truncated (n : Nat) (s : Bytes) : Bytes := cString (s.take n)

/-- `obj["key"].get_array()` from the cursor: the array, when the field is there and is one,
and the cursor after the lookup. -/
def optArray (fields : List (String × Json)) (pos : Nat) (key : String) :
    Option (List Json) × Nat :=
  match findFieldUnordered fields pos key with
  | some (v, pos') => (v.array?, pos')
  | none => (none, pos)

/-- A level's first two entries: reading past the end of a shorter array fails. -/
def levelPair (item : Json) : Option (Json × Json) :=
  match item.array? with
  | some (p :: s :: _) => some (p, s)
  | _ => none

/-- The message type `action` names. -/
def okxMsgType (action : String) : Except ParseError MessageType :=
  if action = "snapshot" then .ok .SNAPSHOT
  else if action = "update" then .ok .UPDATE
  else .error (.message "Unknown action type")

/-- The message type Bybit's `type` names. -/
def bybitMsgType (type : String) : Except ParseError MessageType :=
  if type = "snapshot" then .ok .SNAPSHOT
  else if type = "delta" then .ok .UPDATE
  else .error (.message "Unknown type")

variable (F : FloatOps)

/-- `parse_price_to_int`: `strtod` on at most 63 bytes, times 10^8, cast to `uint64_t`. -/
def parsePriceToInt (priceStr : Bytes) : UInt64 :=
  F.toUInt64 (F.mul (F.strtod (truncated 63 priceStr)).value priceScale)

/-- `parse_quantity`: `strtod` on at most 63 bytes. -/
def parseQuantity (qtyStr : Bytes) : Double :=
  (F.strtod (truncated 63 qtyStr)).value

/-- One level, an array whose first two entries are the price and size strings. -/
def level (side : Side) (item : Json) : Except ParseError OrderBookUpdate := do
  let (p, s) ← orThrow (levelPair item)
  let priceStr ← orThrow p.str?
  let sizeStr ← orThrow s.str?
  pure ⟨parsePriceToInt F (bytesOf priceStr), parseQuantity F (bytesOf sizeStr), side,
    (parseQuantity F (bytesOf sizeStr)).eqZero⟩

/-- The levels of one side, in order. -/
def levels (side : Side) : List Json → Except ParseError (List OrderBookUpdate)
  | [] => .ok []
  | item :: items => do
    let u ← level F side item
    let us ← levels side items
    pure (u :: us)

/-- A side whose lookup or `get_array()` failed is skipped. -/
def sideLevels (side : Side) : Option (List Json) → Except ParseError (List OrderBookUpdate)
  | none => .ok []
  | some items => levels F side items

/-- One element of OKX's `data`: its `ts` in milliseconds, read by `strtoull` from at most 31
bytes, and its bid then ask updates. -/
def okxDataElem (elem : Json) : Except ParseError (UInt64 × List OrderBookUpdate) := do
  let fields ← orThrow elem.fields?
  let (ts, pos) ← orThrow (findFieldUnordered fields 0 "ts")
  let tsStr ← orThrow ts.str?
  let bids := optArray fields pos "bids"
  let bidUpdates ← sideLevels F .BID bids.1
  let askUpdates ← sideLevels F .ASK (optArray fields bids.2 "asks").1
  pure ((strtoull (truncated 31 (bytesOf tsStr))).value, bidUpdates ++ askUpdates)

/-- The loop over OKX's `data`: every element's updates, and the timestamp of the last. -/
def okxData (acc : UInt64 × List OrderBookUpdate) :
    List Json → Except ParseError (UInt64 × List OrderBookUpdate)
  | [] => .ok acc
  | elem :: elems => do
    let (tsMs, us) ← okxDataElem F elem
    okxData (tsMs * 1000000, acc.2 ++ us) elems

/-- `parse_okx_message`: `action` must be `snapshot` or `update`; the symbol is `arg.instId`. -/
def parseOkxMessage (doc : Json) : Except ParseError ParsedMarketData := do
  let fields ← orThrow doc.fields?
  let (action, pos) ← orThrow (findFieldUnordered fields 0 "action")
  let msgType ← okxMsgType (← orThrow action.str?)
  let (arg, pos) ← orThrow (findFieldUnordered fields pos "arg")
  let argFields ← orThrow arg.fields?
  let (instId, _) ← orThrow (findFieldUnordered argFields 0 "instId")
  let instId ← orThrow instId.str?
  let (data, _) ← orThrow (findFieldUnordered fields pos "data")
  let items ← orThrow data.array?
  let (timestampNs, updates) ← okxData F (0, []) items
  pure ⟨.OKX, msgType, truncated 31 (bytesOf instId), timestampNs, updates⟩

/-- `parse_bybit_message`: `type` must be `snapshot` or `delta` and `ts` an unsigned integer;
the symbol is `data.s`. -/
def parseBybitMessage (doc : Json) : Except ParseError ParsedMarketData := do
  let fields ← orThrow doc.fields?
  let (type, pos) ← orThrow (findFieldUnordered fields 0 "type")
  let msgType ← bybitMsgType (← orThrow type.str?)
  let (ts, pos) ← orThrow (findFieldUnordered fields pos "ts")
  let tsMs ← orThrow ts.uint64?
  let (data, _) ← orThrow (findFieldUnordered fields pos "data")
  let dataFields ← orThrow data.fields?
  let (symbol, pos) ← orThrow (findFieldUnordered dataFields 0 "s")
  let symbol ← orThrow symbol.str?
  let bids := optArray dataFields pos "b"
  let bidUpdates ← sideLevels F .BID bids.1
  let askUpdates ← sideLevels F .ASK (optArray dataFields bids.2 "a").1
  pure ⟨.BYBIT, msgType, truncated 31 (bytesOf symbol), tsMs * 1000000, bidUpdates ++ askUpdates⟩

/-- `parse_packet`: the parser of the venue, or `Unknown exchange`. -/
def parsePacket (doc : Json) (exchange : ExchangeId) : Except ParseError ParsedMarketData :=
  if exchange = .OKX then parseOkxMessage F doc
  else if exchange = .BYBIT then parseBybitMessage F doc
  else .error (.message "Unknown exchange")

/-! ## Accepted messages -/

theorem bind_eq_ok {ε α β : Type} {x : Except ε α} {f : α → Except ε β} {b : β} :
    x >>= f = .ok b ↔ ∃ a, x = .ok a ∧ f a = .ok b := by
  cases x <;> simp [bind, Except.bind]

@[simp] theorem orThrow_eq_ok {α : Type} {o : Option α} {a : α} : orThrow o = .ok a ↔ o = some a := by
  cases o <;> simp [orThrow]

/-- A level accepted is an array led by a price string and a size string. -/
theorem level_eq_ok {side : Side} {item : Json} {u : OrderBookUpdate}
    (h : level F side item = .ok u) :
    ∃ p s, levelPair item = some (.string p, .string s) ∧
      u = ⟨parsePriceToInt F (bytesOf p), parseQuantity F (bytesOf s), side,
        (parseQuantity F (bytesOf s)).eqZero⟩ := by
  obtain ⟨⟨p, s⟩, hps, h⟩ := bind_eq_ok.mp h
  obtain ⟨ps, hp, h⟩ := bind_eq_ok.mp h
  obtain ⟨ss, hs, h⟩ := bind_eq_ok.mp h
  rw [orThrow_eq_ok] at hps
  rw [orThrow_eq_ok, Json.str?_eq_some] at hp hs
  subst hp hs
  cases h
  exact ⟨_, _, hps, rfl⟩

/-- An OKX `data` element accepted is an object whose bid and ask lookups gave its updates. -/
theorem okxDataElem_eq_ok {elem : Json} {r : UInt64 × List OrderBookUpdate}
    (h : okxDataElem F elem = .ok r) :
    ∃ fields pos pos' bidUpdates askUpdates, elem = .object fields ∧
      sideLevels F .BID (optArray fields pos "bids").1 = .ok bidUpdates ∧
      sideLevels F .ASK (optArray fields pos' "asks").1 = .ok askUpdates ∧
      r.2 = bidUpdates ++ askUpdates := by
  obtain ⟨fields, hf, h⟩ := bind_eq_ok.mp h
  obtain ⟨⟨ts, pos⟩, -, h⟩ := bind_eq_ok.mp h
  obtain ⟨_, -, h⟩ := bind_eq_ok.mp h
  obtain ⟨bidUpdates, hb, h⟩ := bind_eq_ok.mp h
  obtain ⟨askUpdates, ha, h⟩ := bind_eq_ok.mp h
  cases h
  exact ⟨fields, pos, _, bidUpdates, askUpdates, by simpa using hf, hb, ha, rfl⟩

/-- The message type a message accepted names. -/
theorem okxMsgType_eq_ok {action : String} {t : MessageType} (h : okxMsgType action = .ok t) :
    action = "snapshot" ∧ t = .SNAPSHOT ∨ action = "update" ∧ t = .UPDATE := by
  unfold okxMsgType at h
  split_ifs at h with h₁ h₂ <;> cases h
  · exact .inl ⟨h₁, rfl⟩
  · exact .inr ⟨h₂, rfl⟩

theorem bybitMsgType_eq_ok {type : String} {t : MessageType} (h : bybitMsgType type = .ok t) :
    type = "snapshot" ∧ t = .SNAPSHOT ∨ type = "delta" ∧ t = .UPDATE := by
  unfold bybitMsgType at h
  split_ifs at h with h₁ h₂ <;> cases h
  · exact .inl ⟨h₁, rfl⟩
  · exact .inr ⟨h₂, rfl⟩

/-- What `parse_okx_message` accepted: an object whose `action`, `arg.instId` and `data` gave
the message type, the symbol and, through the loop over `data`, the updates. -/
theorem parseOkxMessage_eq_ok {doc : Json} {r : ParsedMarketData}
    (h : parseOkxMessage F doc = .ok r) :
    ∃ fields action pos₁ arg pos₂ argFields instId items, doc = .object fields ∧
      findFieldUnordered fields 0 "action" = some (.string action, pos₁) ∧
      (action = "snapshot" ∧ r.msgType = .SNAPSHOT ∨ action = "update" ∧ r.msgType = .UPDATE) ∧
      findFieldUnordered fields pos₁ "arg" = some (arg, pos₂) ∧ arg = .object argFields ∧
      (findFieldUnordered argFields 0 "instId").map Prod.fst = some (.string instId) ∧
      (findFieldUnordered fields pos₂ "data").map Prod.fst = some (.array items) ∧
      r.symbol = truncated 31 (bytesOf instId) ∧
      ∃ ts, okxData F (0, []) items = .ok (ts, r.updates) := by
  obtain ⟨fields, hf, h⟩ := bind_eq_ok.mp h
  obtain ⟨⟨action, pos₁⟩, hact, h⟩ := bind_eq_ok.mp h
  obtain ⟨actionStr, hstr, h⟩ := bind_eq_ok.mp h
  obtain ⟨msgType, hmt, h⟩ := bind_eq_ok.mp h
  obtain ⟨⟨arg, pos₂⟩, harg, h⟩ := bind_eq_ok.mp h
  obtain ⟨argFields, haf, h⟩ := bind_eq_ok.mp h
  obtain ⟨⟨inst, _⟩, hinst, h⟩ := bind_eq_ok.mp h
  obtain ⟨instId, hid, h⟩ := bind_eq_ok.mp h
  obtain ⟨⟨data, _⟩, hdata, h⟩ := bind_eq_ok.mp h
  obtain ⟨items, hitems, h⟩ := bind_eq_ok.mp h
  obtain ⟨⟨ts, updates⟩, hups, h⟩ := bind_eq_ok.mp h
  cases h
  simp only [orThrow_eq_ok, Json.fields?_eq_some, Json.str?_eq_some, Json.array?_eq_some]
    at hf hact hstr harg haf hinst hid hdata hitems
  subst hf hstr haf hid hitems
  exact ⟨fields, actionStr, pos₁, _, pos₂, argFields, instId, items, rfl, hact,
    okxMsgType_eq_ok hmt, harg, rfl, by rw [hinst]; rfl, by rw [hdata]; rfl, rfl, ts, hups⟩

/-- What `parse_bybit_message` accepted: an object whose `type` and `data` gave the message type
and, from `data.s`, `data.b` and `data.a`, the symbol and the updates. -/
theorem parseBybitMessage_eq_ok {doc : Json} {r : ParsedMarketData}
    (h : parseBybitMessage F doc = .ok r) :
    ∃ fields type pos₁ pos₂ dataFields symbol pos₃ pos₄ bidUpdates askUpdates,
      doc = .object fields ∧
      findFieldUnordered fields 0 "type" = some (.string type, pos₁) ∧
      (type = "snapshot" ∧ r.msgType = .SNAPSHOT ∨ type = "delta" ∧ r.msgType = .UPDATE) ∧
      (findFieldUnordered fields pos₂ "data").map Prod.fst = some (.object dataFields) ∧
      (findFieldUnordered dataFields 0 "s").map Prod.fst = some (.string symbol) ∧
      r.symbol = truncated 31 (bytesOf symbol) ∧
      sideLevels F .BID (optArray dataFields pos₃ "b").1 = .ok bidUpdates ∧
      sideLevels F .ASK (optArray dataFields pos₄ "a").1 = .ok askUpdates ∧
      r.updates = bidUpdates ++ askUpdates := by
  obtain ⟨fields, hf, h⟩ := bind_eq_ok.mp h
  obtain ⟨⟨type, pos₁⟩, htype, h⟩ := bind_eq_ok.mp h
  obtain ⟨typeStr, hstr, h⟩ := bind_eq_ok.mp h
  obtain ⟨msgType, hmt, h⟩ := bind_eq_ok.mp h
  obtain ⟨⟨ts, pos₂⟩, -, h⟩ := bind_eq_ok.mp h
  obtain ⟨_, -, h⟩ := bind_eq_ok.mp h
  obtain ⟨⟨data, _⟩, hdata, h⟩ := bind_eq_ok.mp h
  obtain ⟨dataFields, hdf, h⟩ := bind_eq_ok.mp h
  obtain ⟨⟨sym, pos₃⟩, hsym, h⟩ := bind_eq_ok.mp h
  obtain ⟨symbol, hs, h⟩ := bind_eq_ok.mp h
  obtain ⟨bidUpdates, hb, h⟩ := bind_eq_ok.mp h
  obtain ⟨askUpdates, ha, h⟩ := bind_eq_ok.mp h
  cases h
  simp only [orThrow_eq_ok, Json.fields?_eq_some, Json.str?_eq_some]
    at hf htype hstr hdata hdf hsym hs
  subst hf hstr hdf hs
  exact ⟨fields, typeStr, pos₁, pos₂, dataFields, symbol, pos₃, _, bidUpdates, askUpdates, rfl,
    htype, bybitMsgType_eq_ok hmt, by rw [hdata]; rfl, by rw [hsym]; rfl, rfl, hb, ha, rfl⟩

end JsonParser

end AeroGateway.Market
