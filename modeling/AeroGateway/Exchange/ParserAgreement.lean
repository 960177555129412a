import AeroGateway.Market.JsonParser
import AeroGateway.Market.OrderBook
import AeroGateway.Exchange.Adapter

/-!
# The fast-path parser against the adapters

On a message both accept, `JsonParser` and the venue adapter read the same snapshot flag and,
level by level, the same prices and sizes, once the message has no repeated key where the
on-demand cursor could find another field, OKX's `data` has one element at most, each price and
size string fits the 63-byte buffer, and each price times 10^8 truncates to the integer it
rounds to. The symbol is the same when it fits the 31-byte buffer with no NUL and, for Bybit,
`data.s` names the instrument of `topic`. The updates differ only in `is_delete`, set on a zero
size by one and on a size at most zero by the other, which `apply_update_internal` reads alike.
Without those conditions they part: a longer `instId` is cut, a second `data` element is read by
`JsonParser` alone, and Bybit's two instrument sources need not agree.
-/

namespace AeroGateway.Exchange

open Market JsonParser

/-- The update `JsonParser` makes of a level: deleted when its size compares equal to zero. -/
def asUpdate (side : Side) (l : PriceLevel) : OrderBookUpdate :=
  ⟨l.priceInt, l.size, side, l.size.eqZero⟩

/-- A `PriceLevel` as the `OrderBookLevel` `apply_update` takes. -/
def PriceLevel.toLevel (l : PriceLevel) : OrderBookLevel := ⟨l.priceInt, l.size⟩

/-- The entries of a side's array, when the lookup gave one. -/
def sideItems (v : Option Json) : List Json := (v.bind Json.array?).getD []

/-- The levels the OKX adapter reads: those of `data[0].bids` and `data[0].asks`. -/
def okxLevelItems (doc : Json) : List Json :=
  match doc.get "data" with
  | some (.array (item :: _)) => sideItems (item.get "bids") ++ sideItems (item.get "asks")
  | _ => []

/-- The levels the Bybit adapter reads: those of `data.b` and `data.a`. -/
def bybitLevelItems (doc : Json) : List Json :=
  match doc.get "data" with
  | some data => sideItems (data.get "b") ++ sideItems (data.get "a")
  | none => []

/-- Both parsers read a level alike: its price and size strings fit `JsonParser`'s 63-byte
buffer, and the price times 10^8 casts to the integer it rounds to. -/
def ReadAlike (F : FloatOps) (item : Json) : Prop :=
  ∀ p s, levelStrings item = some (p, s) →
    (bytesOf p).length ≤ 63 ∧ (bytesOf s).length ≤ 63 ∧
      F.toUInt64 (F.mul (F.strtod (cString (bytesOf p))).value priceScale) =
        F.toUInt64 (F.round (F.mul (F.strtod (cString (bytesOf p))).value priceScale))

/-- An OKX message both parsers read alike: no repeated key in the message or its `data`
element, at most one element, an `instId` that fits 31 bytes with no NUL, and levels read
alike. -/
structure OkxAlike (F : FloatOps) (doc : Json) (book : ParsedOrderBook) : Prop where
  keys_distinct : doc.keysDistinct = true
  data_le_one : ∀ items, doc.get "data" = some (.array items) →
    items.length ≤ 1 ∧ ∀ item ∈ items, item.keysDistinct = true
  instrument_short : book.instrument.length ≤ 31 ∧ 0 ∉ book.instrument
  levels_alike : ∀ item ∈ okxLevelItems doc, ReadAlike F item

/-- A Bybit message both parsers read alike: no repeated key in the message or its `data`,
`data.s` the instrument of `topic`, fitting 31 bytes with no NUL, and levels read alike. -/
structure BybitAlike (F : FloatOps) (doc : Json) (book : ParsedOrderBook) : Prop where
  keys_distinct : doc.keysDistinct = true
  data_keys_distinct : ∀ data, doc.get "data" = some data → data.keysDistinct = true
  symbol_eq : ∀ s, (doc.get "data").bind (·.get "s") = some (.string s) → bytesOf s = book.instrument
  instrument_short : book.instrument.length ≤ 31 ∧ 0 ∉ book.instrument
  levels_alike : ∀ item ∈ bybitLevelItems doc, ReadAlike F item

/-- The two results agree: the same instrument and snapshot flag, the levels in order, bids
then asks, each deleted exactly when its size is zero, which is at most zero; and fed to a
manager they make the same books. -/
structure Agree (exchange : ExchangeId) (r : ParsedMarketData) (book : ParsedOrderBook) :
    Prop where
  symbol_eq : r.symbol = book.instrument
  snapshot_eq : decide (r.msgType = .SNAPSHOT) = book.isSnapshot
  updates_eq : r.updates = book.bids.map (asUpdate .BID) ++ book.asks.map (asUpdate .ASK)
  delete_le_zero : ∀ u ∈ r.updates, u.isDelete = true → u.quantity.leZero = true
  manager_eq : ∀ m : OrderBookManager,
    m.applyUpdates exchange r.symbol r.updates (decide (r.msgType = .SNAPSHOT)) =
      m.applyUpdate exchange book.instrument (book.bids.map PriceLevel.toLevel)
        (book.asks.map PriceLevel.toLevel) book.isSnapshot

/-! ## Strings, lookups and levels -/

theorem cString_of_not_mem {b : Bytes} (h : 0 ∉ b) : cString b = b :=
  List.takeWhile_eq_self_iff.mpr fun _ hx => bne_iff_ne.mpr fun e => h (e ▸ hx)

theorem truncated_of_length_le {n : Nat} {b : Bytes} (h : b.length ≤ n) :
    truncated n b = cString b := by
  rw [truncated, List.take_of_length_le h]

theorem stod_eq_some {F : FloatOps} {b : Bytes} {x : Double} (h : F.stod b = some x) :
    x = (F.strtod (cString b)).value := by
  unfold FloatOps.stod at h
  dsimp only at h
  split at h
  · cases h; rfl
  · cases h

/-- In an object with no repeated key, the on-demand `get_array()` reads the field the DOM
lookup finds. -/
theorem optArray_fst_of_nodup {fields : List (String × Json)}
    (h : (fields.map Prod.fst).Nodup) (pos : Nat) (key : String) :
    (optArray fields pos key).1 = ((Json.object fields).get key).bind Json.array? := by
  show _ = (fields.lookup key).bind Json.array?
  rw [← findFieldUnordered_of_nodup h pos]
  unfold optArray
  cases findFieldUnordered fields pos key <;> rfl

/-- From a lookup that found a value, the value. -/
theorem lookup_of_find {fields : List (String × Json)} (h : (fields.map Prod.fst).Nodup)
    {pos : Nat} {key : String} {v : Json}
    (hv : (findFieldUnordered fields pos key).map Prod.fst = some v) :
    (Json.object fields).get key = some v := by
  rw [← hv, findFieldUnordered_of_nodup h]; rfl

/-- The two readers of a level, given its strings alike, give the same level. -/
theorem level_agree {F : FloatOps} {side : Side} {item : Json} {u : OrderBookUpdate}
    {l : PriceLevel} (hu : level F side item = .ok u) (hl : parseLevel F item = some l)
    (hr : ReadAlike F item) : u = asUpdate side l := by
  obtain ⟨p, s, hps, rfl⟩ := level_eq_ok F hu
  obtain ⟨⟨p', s'⟩, hstr, hl⟩ := Option.bind_eq_some.mp hl
  obtain ⟨price, hprice, hl⟩ := Option.bind_eq_some.mp hl
  obtain ⟨size, hsize, hl⟩ := Option.bind_eq_some.mp hl
  cases hl
  have hstr' : levelStrings item = some (p, s) := by
    unfold levelPair at hps
    split at hps
    · rename_i q t rest he
      cases hps
      simp [levelStrings, Json.array?_eq_some.mp he, Json.array?, Json.str?]
    · cases hps
  have he := hstr.symm.trans hstr'
  simp only [Option.some.injEq, Prod.mk.injEq] at he
  obtain ⟨rfl, rfl⟩ := he
  obtain ⟨hp, hs, hround⟩ := hr _ _ hstr'
  rw [stod_eq_some hprice, stod_eq_some hsize, ← hround]
  simp only [asUpdate, parsePriceToInt, parseQuantity, truncated_of_length_le hp,
    truncated_of_length_le hs]

/-- The two loops over a side's levels give the same levels. -/
theorem levels_agree {F : FloatOps} {side : Side} :
    ∀ {items : List Json} {us : List OrderBookUpdate} {ls : List PriceLevel},
      levels F side items = .ok us → parseLevelList F items = some ls →
      (∀ item ∈ items, ReadAlike F item) → us = ls.map (asUpdate side)
  | [], us, ls, hu, hl, _ => by cases hu; cases hl; rfl
  | item :: items, us, ls, hu, hl, hr => by
    obtain ⟨u, hu₁, hu⟩ := bind_eq_ok.mp hu
    obtain ⟨us', hu₂, hu⟩ := bind_eq_ok.mp hu
    obtain ⟨l, hl₁, hl⟩ := Option.bind_eq_some.mp hl
    obtain ⟨ls', hl₂, hl⟩ := Option.bind_eq_some.mp hl
    cases hu; cases hl
    rw [level_agree hu₁ hl₁ (hr item (List.mem_cons_self _ _)),
      levels_agree hu₂ hl₂ fun i hi => hr i (List.mem_cons_of_mem _ hi)]
    rfl

/-- The two readers of a side, given its levels alike, give the same levels. -/
theorem sideLevels_agree {F : FloatOps} {side : Side} {v : Option Json}
    {us : List OrderBookUpdate} {ls : List PriceLevel}
    (hu : sideLevels F side (v.bind Json.array?) = .ok us) (hl : parseLevels F v = some ls)
    (hr : ∀ item ∈ sideItems v, ReadAlike F item) : us = ls.map (asUpdate side) := by
  rcases v with _ | v
  · cases hu; cases hl; rfl
  · cases ha : v.array? with
    | none => simp [parseLevels, ha] at hl
    | some items =>
      simp only [parseLevels, ha, Option.some_bind] at hl
      simp only [Option.some_bind, ha, sideLevels] at hu
      exact levels_agree hu hl (by simpa [sideItems, ha] using hr)

/-! ## The books the two results make -/

/-- `apply_update_internal` reads a zero size and a size at most zero alike. -/
theorem applyUpdateInternal_asUpdate (b : OrderBook) (side : Side) (l : PriceLevel) :
    b.applyUpdateInternal (asUpdate side l) =
      b.applyUpdateInternal ⟨l.priceInt, l.size, side, l.size.leZero⟩ := by
  have hdel : (l.size.eqZero || l.size.leZero) = (l.size.leZero || l.size.leZero) := by
    cases h : l.size.eqZero
    · simp
    · simp [Double.leZero_of_eqZero h]
  simp only [OrderBook.applyUpdateInternal, asUpdate, hdel]

theorem foldl_asUpdate (side : Side) (levels : List PriceLevel) (b : OrderBook) :
    (levels.map (asUpdate side)).foldl OrderBook.applyUpdateInternal b =
      (Call.levelUpdates side (levels.map PriceLevel.toLevel)).foldl
        OrderBook.applyUpdateInternal b := by
  simp only [Call.levelUpdates, List.map_map, List.foldl_map, applyUpdateInternal_asUpdate]
  rfl

/-- Fed `JsonParser`'s updates or the adapter's levels, a manager makes the same books. -/
theorem applyUpdates_asUpdate (m : OrderBookManager) (e : ExchangeId) (i : Bytes)
    (bids asks : List PriceLevel) (isSnapshot : Bool) :
    m.applyUpdates e i (bids.map (asUpdate .BID) ++ asks.map (asUpdate .ASK)) isSnapshot =
      m.applyUpdate e i (bids.map PriceLevel.toLevel) (asks.map PriceLevel.toLevel) isSnapshot := by
  rw [OrderBookManager.applyUpdate_eq_applyUpdates]
  simp only [OrderBookManager.applyUpdates, OrderBook.applySnapshot, OrderBook.applyUpdates,
    List.foldl_append, foldl_asUpdate]

/-- The updates of `asUpdate` delete only levels of size at most zero. -/
theorem delete_le_zero_asUpdate (bids asks : List PriceLevel) :
    ∀ u ∈ bids.map (asUpdate .BID) ++ asks.map (asUpdate .ASK), u.isDelete = true →
      u.quantity.leZero = true := by
  intro u hu hd
  simp only [List.mem_append, List.mem_map] at hu
  rcases hu with ⟨l, -, rfl⟩ | ⟨l, -, rfl⟩ <;> exact Double.leZero_of_eqZero hd

/-- Agreement from its three facts. -/
theorem Agree.of_eq {exchange : ExchangeId} {r : ParsedMarketData} {book : ParsedOrderBook}
    (hs : r.symbol = book.instrument) (hsnap : decide (r.msgType = .SNAPSHOT) = book.isSnapshot)
    (hu : r.updates = book.bids.map (asUpdate .BID) ++ book.asks.map (asUpdate .ASK)) :
    Agree exchange r book :=
  ⟨hs, hsnap, hu, hu ▸ delete_le_zero_asUpdate _ _, fun m => by
    rw [hs, hsnap, hu, applyUpdates_asUpdate]⟩

/-! ## The two venues -/

/-- A symbol cut to 31 bytes is the instrument when the instrument fits. -/
theorem truncated_instrument {b : Bytes} (h : b.length ≤ 31 ∧ 0 ∉ b) : truncated 31 b = b := by
  rw [truncated_of_length_le h.1, cString_of_not_mem h.2]

/-- In an object with no repeated key, both parsers' bid and ask lookups, read alike, give the
same levels. -/
theorem sides_agree {F : FloatOps} {fields : List (String × Json)}
    (hn : (fields.map Prod.fst).Nodup) {kb ka : String} {pos pos' : Nat}
    {bidUs askUs : List OrderBookUpdate} {bids asks : List PriceLevel}
    (hb : sideLevels F .BID (optArray fields pos kb).1 = .ok bidUs)
    (ha : sideLevels F .ASK (optArray fields pos' ka).1 = .ok askUs)
    (hbl : parseLevels F ((Json.object fields).get kb) = some bids)
    (hal : parseLevels F ((Json.object fields).get ka) = some asks)
    (hr : ∀ i ∈ sideItems ((Json.object fields).get kb) ++
      sideItems ((Json.object fields).get ka), ReadAlike F i) :
    bidUs ++ askUs = bids.map (asUpdate .BID) ++ asks.map (asUpdate .ASK) := by
  rw [optArray_fst_of_nodup hn] at hb ha
  rw [sideLevels_agree hb hbl fun i hi => hr i (List.mem_append_left _ hi),
    sideLevels_agree ha hal fun i hi => hr i (List.mem_append_right _ hi)]

/-- On an OKX message both accept and read alike, the two parsers agree. -/
theorem okx_agree {F : FloatOps} {doc : Json} {r : ParsedMarketData} {book : ParsedOrderBook}
    (hj : parseOkxMessage F doc = .ok r) (ha : OkxAdapter.parseOrderbookMessage F doc = some book)
    (hc : OkxAlike F doc book) : Agree .OKX r book := by
  obtain ⟨fields, action, pos₁, arg, pos₂, argFields, instId, items, rfl, hact, hmt, harg, rfl,
    hinst, hdata, hsym, ts, hups⟩ := parseOkxMessage_eq_ok F hj
  obtain ⟨channel, instId', items', -, hid, hdata', hinstr, hsnap, hitems⟩ :=
    OkxAdapter.parseOrderbookMessage_eq_some F ha
  have hn : (fields.map Prod.fst).Nodup := of_decide_eq_true hc.keys_distinct
  have hdatav := lookup_of_find hn hdata
  rw [lookup_of_find hn (congrArg (Option.map Prod.fst) harg)] at hid
  rw [hdatav] at hdata'
  cases hdata'
  have hid' : argFields.lookup "instId" = some (.string instId) := by
    rw [← findFieldUnordered_zero, hinst]
  simp only [Option.some_bind, Json.get, hid', Option.some.injEq, Json.string.injEq] at hid
  subst hid
  refine Agree.of_eq ?_ ?_ ?_
  · rw [hsym, ← hinstr]
    exact truncated_instrument hc.instrument_short
  · rw [hsnap, lookup_of_find hn (congrArg (Option.map Prod.fst) hact)]
    rcases hmt with ⟨rfl, hm⟩ | ⟨rfl, hm⟩ <;> simp [hm, Json.str?]
  · obtain ⟨hlen, hkeys⟩ := hc.data_le_one items hdatav
    rcases hitems with ⟨rfl, hb, ha⟩ | ⟨item, rest, rfl, hbl, hal⟩
    · rw [← (Prod.mk.inj (Except.ok.inj hups)).2, hb, ha]
      rfl
    · obtain rfl : rest = [] := by simpa using hlen
      obtain ⟨⟨tsMs, us⟩, he, hloop⟩ := bind_eq_ok.mp hups
      obtain ⟨ifields, pos, pos', bidUs, askUs, rfl, hb, ha, hus⟩ := okxDataElem_eq_ok F he
      have hr := hc.levels_alike
      simp only [okxLevelItems, hdatav] at hr
      rw [← (Prod.mk.inj (Except.ok.inj hloop)).2, List.nil_append]
      exact hus.trans
        (sides_agree (of_decide_eq_true (hkeys _ (List.mem_singleton_self _))) hb ha hbl hal hr)

/-- On a Bybit message both accept and read alike, the two parsers agree. -/
theorem bybit_agree {F : FloatOps} {doc : Json} {r : ParsedMarketData} {book : ParsedOrderBook}
    (hj : parseBybitMessage F doc = .ok r)
    (ha : BybitAdapter.parseOrderbookMessage F doc = some book) (hc : BybitAlike F doc book) :
    Agree .BYBIT r book := by
  obtain ⟨fields, type, pos₁, pos₂, dataFields, symbol, pos₃, pos₄, bidUs, askUs, rfl, htype,
    hmt, hdata, hs, hsym, hb, ha', hus⟩ := parseBybitMessage_eq_ok F hj
  obtain ⟨data, hdata', hsnap, hbl, hal⟩ := BybitAdapter.parseOrderbookMessage_eq_some F ha
  have hn : (fields.map Prod.fst).Nodup := of_decide_eq_true hc.keys_distinct
  have hdatav := lookup_of_find hn hdata
  rw [hdatav] at hdata'
  cases hdata'
  have hs' : (Json.object dataFields).get "s" = some (.string symbol) := by
    rw [Json.get, ← findFieldUnordered_zero, hs]
  refine Agree.of_eq ?_ ?_ ?_
  · rw [hsym, hc.symbol_eq symbol (by rw [hdatav, Option.some_bind, hs'])]
    exact truncated_instrument hc.instrument_short
  · rw [hsnap, lookup_of_find hn (congrArg (Option.map Prod.fst) htype)]
    rcases hmt with ⟨rfl, hm⟩ | ⟨rfl, hm⟩ <;> simp [hm, Json.str?]
  · have hr := hc.levels_alike
    simp only [bybitLevelItems, hdatav] at hr
    rw [hus, sides_agree (of_decide_eq_true (hc.data_keys_distinct _ hdatav)) hb ha' hbl hal hr]

/-- On a message both accept and read alike, for either venue, the two parsers agree. -/
theorem parsers_agree_when_read_alike (F : FloatOps) :
    (∀ doc r book, parseOkxMessage F doc = .ok r →
      OkxAdapter.parseOrderbookMessage F doc = some book → OkxAlike F doc book →
        Agree .OKX r book) ∧
    (∀ doc r book, parseBybitMessage F doc = .ok r →
      BybitAdapter.parseOrderbookMessage F doc = some book → BybitAlike F doc book →
        Agree .BYBIT r book) :=
  ⟨fun _ _ _ => okx_agree, fun _ _ _ => bybit_agree⟩

/-- A `FloatOps` under which every number reads as zero, to run the parsers on. -/
def zeroFloatOps : FloatOps := ⟨fun _ => ⟨⟨0⟩, true, false⟩, fun _ _ => ⟨0⟩, id, fun _ => 0⟩

/-- Under `zeroFloatOps` a level of short strings is read alike. -/
theorem readAlike_zeroFloatOps {p s : String} (hp : (bytesOf p).length ≤ 63)
    (hs : (bytesOf s).length ≤ 63) : ReadAlike zeroFloatOps (.array [.string p, .string s]) := by
  intro p' s' h
  cases h
  exact ⟨hp, hs, rfl⟩

/-- An OKX `books` snapshot of BTC-USDT with one bid and one ask. -/
def okxBtcMessage : Json :=
  .object [("arg", .object [("channel", .string "books"), ("instId", .string "BTC-USDT")]),
    ("action", .string "snapshot"),
    ("data", .array [.object [("ts", .string "1597026383085"),
      ("bids", .array [.array [.string "95000.5", .string "1"]]),
      ("asks", .array [.array [.string "95001", .string "2"]])]])]

/-- A Bybit `orderbook.50` snapshot of BTCUSDT with one bid and one ask. -/
def bybitBtcMessage : Json :=
  .object [("topic", .string "orderbook.50.BTCUSDT"), ("type", .string "snapshot"),
    ("ts", .number "1672304484978"),
    ("data", .object [("s", .string "BTCUSDT"),
      ("b", .array [.array [.string "16493.50", .string "0.006"]]),
      ("a", .array [.array [.string "16611.00", .string "0.029"]])])]

theorem parsers_agree_when_read_alike_btc :
    (∃ r book, parseOkxMessage zeroFloatOps okxBtcMessage = .ok r ∧
      OkxAdapter.parseOrderbookMessage zeroFloatOps okxBtcMessage = some book ∧
      OkxAlike zeroFloatOps okxBtcMessage book ∧ Agree .OKX r book) ∧
    (∃ r book, parseBybitMessage zeroFloatOps bybitBtcMessage = .ok r ∧
      BybitAdapter.parseOrderbookMessage zeroFloatOps bybitBtcMessage = some book ∧
      BybitAlike zeroFloatOps bybitBtcMessage book ∧ Agree .BYBIT r book) := by
  have hokx : OkxAlike zeroFloatOps okxBtcMessage
      ⟨bytesOf "BTC-USDT", [⟨0, ⟨0⟩⟩], [⟨0, ⟨0⟩⟩], true⟩ := by
    refine ⟨rfl, fun items h => ?_, by decide, fun item h => ?_⟩
    · cases h; exact ⟨by decide, by decide⟩
    · change item ∈ [.array [.string "95000.5", .string "1"],
        .array [.string "95001", .string "2"]] at h
      rcases List.mem_pair.mp h with rfl | rfl <;>
        exact readAlike_zeroFloatOps (by decide) (by decide)
  have hbybit : BybitAlike zeroFloatOps bybitBtcMessage
      ⟨bytesOf "BTCUSDT", [⟨0, ⟨0⟩⟩], [⟨0, ⟨0⟩⟩], true⟩ := by
    refine ⟨rfl, fun data h => ?_, fun s h => ?_, by decide, fun item h => ?_⟩
    · cases h; rfl
    · cases h; rfl
    · change item ∈ [.array [.string "16493.50", .string "0.006"],
        .array [.string "16611.00", .string "0.029"]] at h
      rcases List.mem_pair.mp h with rfl | rfl <;>
        exact readAlike_zeroFloatOps (by decide) (by decide)
  have hagree := parsers_agree_when_read_alike zeroFloatOps
  exact ⟨⟨_, _, rfl, rfl, hokx, hagree.1 okxBtcMessage _ _ rfl rfl hokx⟩,
    ⟨_, _, rfl, rfl, hbybit, hagree.2 bybitBtcMessage _ _ rfl rfl hbybit⟩⟩

/-- An OKX snapshot on a 32-byte `instId`, with one `data` element and no levels. -/
def longInstIdMessage : Json :=
  .object [("arg", .object [("channel", .string "books"),
      ("instId", .string "BTC-USDT-SWAP-20250328-100000-CX")]),
    ("action", .string "snapshot"), ("data", .array [.object [("ts", .string "1597026383085")]])]

/-- An OKX update whose second `data` element carries a bid. -/
def twoElementMessage : Json :=
  .object [("arg", .object [("channel", .string "books"), ("instId", .string "BTC-USDT")]),
    ("action", .string "update"),
    ("data", .array [.object [("ts", .string "1597026383085")],
      .object [("ts", .string "1597026383086"),
        ("bids", .array [.array [.string "95000.5", .string "1"]])]])]

/-- A Bybit snapshot whose `data.s` names another instrument than its `topic`. -/
def otherSymbolMessage : Json :=
  .object [("topic", .string "orderbook.50.BTCUSDT"), ("type", .string "snapshot"),
    ("ts", .number "1672304484978"), ("data", .object [("s", .string "ETHUSDT")])]

/-- Whatever the floating-point library, both parsers accept each of these messages and read
them apart: the long `instId` is cut to 31 bytes, the bid of the second `data` element is read
by `JsonParser` alone, and the Bybit symbols come from `data.s` and from `topic`. -/
theorem parsers_read_apart (F : FloatOps) :
    (∃ r book, parseOkxMessage F longInstIdMessage = .ok r ∧
      OkxAdapter.parseOrderbookMessage F longInstIdMessage = some book ∧
      r.symbol ≠ book.instrument) ∧
    (∃ r book, parseOkxMessage F twoElementMessage = .ok r ∧
      OkxAdapter.parseOrderbookMessage F twoElementMessage = some book ∧
      r.updates.length ≠ book.bids.length + book.asks.length) ∧
    (∃ r book, parseBybitMessage F otherSymbolMessage = .ok r ∧
      BybitAdapter.parseOrderbookMessage F otherSymbolMessage = some book ∧
      r.symbol ≠ book.instrument) := by
  have h₁ : truncated 31 (bytesOf "BTC-USDT-SWAP-20250328-100000-CX") ≠
      bytesOf "BTC-USDT-SWAP-20250328-100000-CX" := by decide
  have h₃ : truncated 31 (bytesOf "ETHUSDT") ≠ bytesOf "BTCUSDT" := by decide
  exact ⟨⟨_, _, rfl, rfl, h₁⟩, ⟨_, _, rfl, rfl, by simp⟩, ⟨_, _, rfl, rfl, h₃⟩⟩

theorem parsers_disagree_on_accepted_messages :
    (∃ r book, parseOkxMessage zeroFloatOps longInstIdMessage = .ok r ∧
      OkxAdapter.parseOrderbookMessage zeroFloatOps longInstIdMessage = some book ∧
      r.symbol ≠ book.instrument) ∧
    (∃ r book, parseOkxMessage zeroFloatOps twoElementMessage = .ok r ∧
      OkxAdapter.parseOrderbookMessage zeroFloatOps twoElementMessage = some book ∧
      r.updates.length ≠ book.bids.length + book.asks.length) ∧
    (∃ r book, parseBybitMessage zeroFloatOps otherSymbolMessage = .ok r ∧
      BybitAdapter.parseOrderbookMessage zeroFloatOps otherSymbolMessage = some book ∧
      r.symbol ≠ book.instrument) :=
  parsers_read_apart zeroFloatOps

end AeroGateway.Exchange
