import AeroGateway.Market.Json
import AeroGateway.Market.Numeric

/-!
# The venue adapters' order-book parsers

`OkxAdapter` and `BybitAdapter` read order-book messages with simdjson's DOM: each lookup finds
the first field with the key, a failed `.value()` or a loop over something that is not an array
throws, and the adapters catch every exception and return false. Prices and sizes go through
`std::stod`, and a price is scaled by 10^8 and rounded before the cast. OKX reads only the first
element of `data`; Bybit takes the instrument from the end of `topic`. `out_book` is the
default-constructed book both callers pass.
-/

namespace AeroGateway.Exchange

open Market

/-- `level.at(0)` and `level.at(1)` as strings. -/
def levelStrings (item : Json) : Option (String × String) := do
  let arr ← item.array?
  let priceStr ← arr[0]? >>= Json.str?
  let sizeStr ← arr[1]? >>= Json.str?
  pure (priceStr, sizeStr)

variable (F : FloatOps)

/-- One level: price and size through `std::stod`, the price times `PRICE_SCALE`, rounded. -/
def parseLevel (item : Json) : Option PriceLevel := do
  let (priceStr, sizeStr) ← levelStrings item
  let price ← F.stod (bytesOf priceStr)
  let size ← F.stod (bytesOf sizeStr)
  pure ⟨F.toUInt64 (F.round (F.mul price priceScale)), size⟩

/-- The loop over the levels of one side. -/
def parseLevelList : List Json → Option (List PriceLevel)
  | [] => some []
  | item :: items => do
    let l ← parseLevel F item
    let ls ← parseLevelList items
    pure (l :: ls)

/-- A side under a key: none when the lookup fails, and a failure when its value is no array. -/
def parseLevels : Option Json → Option (List PriceLevel)
  | none => some []
  | some v => v.array? >>= parseLevelList F

/-- `s.find(pat) != npos`: the pattern starts somewhere in `s`. -/
def findsBytes (pat : Bytes) : Bytes → Bool
  | [] => pat.isEmpty
  | c :: cs => pat.isPrefixOf (c :: cs) || findsBytes pat cs

/-- The index of the last occurrence of a byte, `rfind`. -/
def lastIndexOf (b : UInt8) (s : Bytes) : Option Nat :=
  (s.reverse.indexOf? b).map (s.length - 1 - ·)

namespace OkxAdapter

/-- `data[0].ts` through `std::stoull` when it is a string, `none` inside when it is not; the
outer `none` is the exception `stoull` throws. -/
def timestampMs (ts : Option Json) : Option (Option UInt64) :=
  match ts >>= Json.str? with
  | some ts => (stoull (bytesOf ts)).map some
  | none => some none

/-- `parse_orderbook_message` for OKX: a book channel, `arg.instId`, the snapshot flag from
`action` (or `true` on `books5` without one), and the levels of `data[0]`, whose `ts`, when a
string, must pass `std::stoull`. -/
def parseOrderbookMessage (doc : Json) : Option ParsedOrderBook := do
  let arg := doc.get "arg"
  let argChannel ← arg.bind (·.get "channel") >>= Json.str?
  guard (argChannel = "books-l2-tbt" ∨ argChannel = "books5" ∨ argChannel = "books")
  let instId ← arg.bind (·.get "instId") >>= Json.str?
  let isSnapshot := match doc.get "action" >>= Json.str? with
    | some action => decide (action = "snapshot")
    | none => decide (argChannel = "books5")
  let items ← doc.get "data" >>= Json.array?
  match items with
  | [] => pure ⟨bytesOf instId, [], [], isSnapshot⟩
  | item :: _ =>
    let bids ← parseLevels F (item.get "bids")
    let asks ← parseLevels F (item.get "asks")
    let _ ← timestampMs (item.get "ts")
    pure ⟨bytesOf instId, bids, asks, isSnapshot⟩

theorem parseOrderbookMessage_eq_some {doc : Json} {book : ParsedOrderBook}
    (h : parseOrderbookMessage F doc = some book) :
    ∃ channel instId items, (doc.get "arg").bind (·.get "channel") = some (.string channel) ∧
      (doc.get "arg").bind (·.get "instId") = some (.string instId) ∧
      doc.get "data" = some (.array items) ∧ book.instrument = bytesOf instId ∧
      book.isSnapshot = (match (doc.get "action").bind Json.str? with
        | some action => decide (action = "snapshot")
        | none => decide (channel = "books5")) ∧
      (items = [] ∧ book.bids = [] ∧ book.asks = [] ∨
        ∃ item rest, items = item :: rest ∧ parseLevels F (item.get "bids") = some book.bids ∧
          parseLevels F (item.get "asks") = some book.asks) := by
  obtain ⟨channel, hch, h⟩ := Option.bind_eq_some.mp h
  obtain ⟨_, -, h⟩ := Option.bind_eq_some.mp h
  obtain ⟨instId, hid, h⟩ := Option.bind_eq_some.mp h
  obtain ⟨items, hitems, h⟩ := Option.bind_eq_some.mp h
  obtain ⟨vch, hvch, hch⟩ := Option.bind_eq_some.mp hch
  obtain ⟨vid, hvid, hid⟩ := Option.bind_eq_some.mp hid
  obtain ⟨vdata, hvdata, hitems⟩ := Option.bind_eq_some.mp hitems
  rw [Json.str?_eq_some] at hch hid
  rw [Json.array?_eq_some] at hitems
  subst hch hid hitems
  refine ⟨channel, instId, items, hvch, hvid, hvdata, ?_⟩
  rcases items with _ | ⟨item, rest⟩
  · cases h; exact ⟨rfl, rfl, .inl ⟨rfl, rfl, rfl⟩⟩
  · obtain ⟨bids, hb, h⟩ := Option.bind_eq_some.mp h
    obtain ⟨asks, ha, h⟩ := Option.bind_eq_some.mp h
    obtain ⟨_, -, h⟩ := Option.bind_eq_some.mp h
    cases h
    exact ⟨rfl, rfl, .inr ⟨item, rest, rfl, hb, ha⟩⟩

end OkxAdapter

namespace BybitAdapter

/-- `parse_orderbook_message` for Bybit: a `topic` containing `orderbook` and a dot, the
instrument after its last dot, the snapshot flag from `type`, and the levels of `data.b` and
`data.a`. -/
def parseOrderbookMessage (doc : Json) : Option ParsedOrderBook := do
  let topic ← doc.get "topic" >>= Json.str?
  let topic := bytesOf topic
  guard (findsBytes (bytesOf "orderbook") topic)
  let lastDot ← lastIndexOf 46 topic
  let isSnapshot := match doc.get "type" >>= Json.str? with
    | some type => decide (type = "snapshot")
    | none => false
  let data ← doc.get "data"
  let bids ← parseLevels F (data.get "b")
  let asks ← parseLevels F (data.get "a")
  pure ⟨topic.drop (lastDot + 1), bids, asks, isSnapshot⟩

theorem parseOrderbookMessage_eq_some {doc : Json} {book : ParsedOrderBook}
    (h : parseOrderbookMessage F doc = some book) :
    ∃ data, doc.get "data" = some data ∧
      book.isSnapshot = (match (doc.get "type").bind Json.str? with
        | some type => decide (type = "snapshot")
        | none => false) ∧
      parseLevels F (data.get "b") = some book.bids ∧
      parseLevels F (data.get "a") = some book.asks := by
  obtain ⟨_, -, h⟩ := Option.bind_eq_some.mp h
  obtain ⟨_, -, h⟩ := Option.bind_eq_some.mp h
  obtain ⟨_, -, h⟩ := Option.bind_eq_some.mp h
  obtain ⟨data, hdata, h⟩ := Option.bind_eq_some.mp h
  obtain ⟨bids, hb, h⟩ := Option.bind_eq_some.mp h
  obtain ⟨asks, ha, h⟩ := Option.bind_eq_some.mp h
  cases h
  exact ⟨data, hdata, rfl, hb, ha⟩

end BybitAdapter

end AeroGateway.Exchange
