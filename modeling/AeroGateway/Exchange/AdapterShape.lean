import Mathlib.Data.List.Forall2
import AeroGateway.Exchange.ParserAgreement

/-!
# The adapters' messages as a shape

What each venue adapter accepts, stated without its control flow: the lookups that must give a
string or an array, the levels read from the arrays it loops over, and the book built from
them. A side is absent or an array of levels, each an array whose first two entries are strings
`std::stod` accepts, converted in order. OKX reads its levels from the first element of `data`
alone. Its snapshot flag falls back to the channel whenever `action` gives no string, a number
included. Bybit looks for `orderbook` anywhere in `topic`, not only at its start, and takes the
instrument after the topic's last dot.
-/

namespace AeroGateway.Exchange

open Market

variable (F : FloatOps)

/-- A level of the documented shape, converted: an array whose first two entries are strings
that `std::stod` accepts, the price scaled by 10^8 and rounded. -/
def LevelOf (item : Json) (l : PriceLevel) : Prop :=
  ∃ p s rest price size, item = .array (.string p :: .string s :: rest) ∧
    F.stod (bytesOf p) = some price ∧ F.stod (bytesOf s) = some size ∧
    l = ⟨F.toUInt64 (F.round (F.mul price priceScale)), size⟩

/-- A side under a key: absent and empty, or an array whose entries are the levels, in order. -/
def SideOf : Option Json → List PriceLevel → Prop
  | none, levels => levels = []
  | some v, levels => ∃ items, v = .array items ∧ List.Forall₂ (LevelOf F) items levels

/-- The OKX order-book shape and the book it gives: a book channel and a string `instId` under
`arg`, an array `data` whose first element, if any, holds the two sides and a `ts` that
`std::stoull` accepts when it is a string; the snapshot flag is `action` compared with
`snapshot` when it is a string, and otherwise whether the channel is `books5`. -/
def OkxBookOf (doc : Json) (book : ParsedOrderBook) : Prop :=
  ∃ channel instId items,
    (doc.get "arg").bind (·.get "channel") = some (.string channel) ∧
    channel ∈ ["books-l2-tbt", "books5", "books"] ∧
    (doc.get "arg").bind (·.get "instId") = some (.string instId) ∧
    doc.get "data" = some (.array items) ∧
    book.instrument = bytesOf instId ∧
    book.isSnapshot = (match doc.get "action" with
      | some (.string action) => decide (action = "snapshot")
      | _ => decide (channel = "books5")) ∧
    SideOf F (items.head?.bind (·.get "bids")) book.bids ∧
    SideOf F (items.head?.bind (·.get "asks")) book.asks ∧
    ∀ ts, items.head?.bind (·.get "ts") = some (.string ts) → (stoull (bytesOf ts)).isSome

/-- The Bybit order-book shape and the book it gives: a string `topic` with `orderbook` inside
it and a dot, whose part after the last dot is the instrument, and a `data` field holding the
two sides under `b` and `a`; the snapshot flag is `type` compared with `snapshot`, false when
it gives no string. -/
def BybitBookOf (doc : Json) (book : ParsedOrderBook) : Prop :=
  ∃ topic data, doc.get "topic" = some (.string topic) ∧
    bytesOf "orderbook" <:+: bytesOf topic ∧
    (∃ pre, bytesOf topic = pre ++ 46 :: book.instrument) ∧ 46 ∉ book.instrument ∧
    doc.get "data" = some data ∧
    book.isSnapshot = (match doc.get "type" with
      | some (.string type) => decide (type = "snapshot")
      | _ => false) ∧
    SideOf F (data.get "b") book.bids ∧ SideOf F (data.get "a") book.asks

/-! ## Reading a value -/

@[simp] theorem bind_str?_eq_some {x : Option Json} {s : String} :
    x.bind Json.str? = some s ↔ x = some (.string s) := by
  cases x <;> simp

@[simp] theorem bind_array?_eq_some {x : Option Json} {items : List Json} :
    x.bind Json.array? = some items ↔ x = some (.array items) := by
  cases x <;> simp

theorem guard_eq_some_iff {p : Prop} [Decidable p] {u : Unit} :
    (guard p : Option Unit) = some u ↔ p := by
  by_cases hp : p <;> simp [guard, hp]

/-! ## Levels -/

theorem parseLevel_eq_some_iff (item : Json) (l : PriceLevel) :
    parseLevel F item = some l ↔ LevelOf F item l := by
  constructor
  · intro h
    obtain ⟨⟨p, s⟩, hs, h⟩ := Option.bind_eq_some.mp h
    obtain ⟨price, hp, h⟩ := Option.bind_eq_some.mp h
    obtain ⟨size, hz, h⟩ := Option.bind_eq_some.mp h
    have hl : l = ⟨F.toUInt64 (F.round (F.mul price priceScale)), size⟩ := (Option.some.inj h).symm
    obtain ⟨arr, harr, hs⟩ := Option.bind_eq_some.mp hs
    obtain ⟨p', hp', hs⟩ := Option.bind_eq_some.mp hs
    obtain ⟨s', hs', hs⟩ := Option.bind_eq_some.mp hs
    cases hs
    rw [Json.array?_eq_some] at harr
    subst harr
    obtain ⟨v0, h0, hv0⟩ := Option.bind_eq_some.mp hp'
    obtain ⟨v1, h1, hv1⟩ := Option.bind_eq_some.mp hs'
    rw [Json.str?_eq_some] at hv0 hv1
    subst hv0 hv1
    rcases arr with _ | ⟨a0, _ | ⟨a1, rest⟩⟩ <;> simp at h0 h1
    subst h0 h1
    exact ⟨p, s, rest, price, size, rfl, hp, hz, hl⟩
  · rintro ⟨p, s, rest, price, size, rfl, hp, hz, rfl⟩
    simp only [parseLevel, levelStrings, Json.array?, List.getElem?_cons_zero,
      List.getElem?_cons_succ, Option.bind_eq_bind, Option.some_bind, Json.str?, Option.pure_def,
      hp, hz]

theorem parseLevelList_eq_some_iff :
    ∀ (items : List Json) (levels : List PriceLevel),
      parseLevelList F items = some levels ↔ List.Forall₂ (LevelOf F) items levels
  | [], levels => by cases levels <;> simp [parseLevelList, List.forall₂_nil_left_iff]
  | item :: items, levels => by
    simp only [parseLevelList, Option.bind_eq_bind, Option.bind_eq_some, Option.pure_def,
      Option.some.injEq, parseLevel_eq_some_iff, parseLevelList_eq_some_iff items]
    cases levels <;> simp [eq_comm, List.forall₂_nil_right_iff]

theorem parseLevels_eq_some_iff (v : Option Json) (levels : List PriceLevel) :
    parseLevels F v = some levels ↔ SideOf F v levels := by
  cases v with
  | none => simp [parseLevels, SideOf, eq_comm]
  | some v =>
    simp only [parseLevels, SideOf, Option.bind_eq_bind, Option.bind_eq_some,
      Json.array?_eq_some, parseLevelList_eq_some_iff]

/-! ## OKX -/

namespace OkxAdapter

theorem timestampMs_isSome_iff (ts : Option Json) :
    (timestampMs ts).isSome ↔ ∀ t, ts = some (.string t) → (stoull (bytesOf t)).isSome := by
  unfold timestampMs
  rcases ts with _ | ⟨_ | _ | _ | t | _ | _⟩ <;> simp [Json.str?]

end OkxAdapter

/-- OKX accepts exactly the messages of the order-book shape, and the book it fills is the one
the shape gives. -/
theorem okx_parse_iff_book_shape (doc : Json) (book : ParsedOrderBook) :
    OkxAdapter.parseOrderbookMessage F doc = some book ↔ OkxBookOf F doc book := by
  obtain ⟨instrument, bids, asks, isSnapshot⟩ := book
  constructor
  · intro h
    obtain ⟨channel, hch, h⟩ := Option.bind_eq_some.mp h
    obtain ⟨_, hg, h⟩ := Option.bind_eq_some.mp h
    obtain ⟨instId, hid, h⟩ := Option.bind_eq_some.mp h
    obtain ⟨items, hitems, h⟩ := Option.bind_eq_some.mp h
    refine ⟨channel, instId, items, bind_str?_eq_some.mp hch,
      by simpa using guard_eq_some_iff.mp hg, bind_str?_eq_some.mp hid,
      bind_array?_eq_some.mp hitems, ?_⟩
    rcases items with _ | ⟨item, rest⟩
    · cases h
      refine ⟨rfl, ?_, rfl, rfl, fun _ h => by cases h⟩
      rcases doc.get "action" with _ | ⟨_ | _ | _ | s | _ | _⟩ <;> rfl
    · obtain ⟨bids, hb, h⟩ := Option.bind_eq_some.mp h
      obtain ⟨asks, ha, h⟩ := Option.bind_eq_some.mp h
      obtain ⟨ts, hts, h⟩ := Option.bind_eq_some.mp h
      cases h
      refine ⟨rfl, ?_, (parseLevels_eq_some_iff F _ _).mp hb,
        (parseLevels_eq_some_iff F _ _).mp ha,
        (OkxAdapter.timestampMs_isSome_iff (item.get "ts")).mp (by rw [hts]; rfl)⟩
      rcases doc.get "action" with _ | ⟨_ | _ | _ | s | _ | _⟩ <;> rfl
  · rintro ⟨channel, instId, items, hch, hmem, hid, hdata, hinst, hsnap, hbids, hasks, hts⟩
    dsimp only at hinst hsnap hbids hasks
    subst hinst hsnap
    have hg : channel = "books-l2-tbt" ∨ channel = "books5" ∨ channel = "books" := by
      simpa using hmem
    simp only [OkxAdapter.parseOrderbookMessage, Option.bind_eq_bind]
    simp only [bind_str?_eq_some.mpr hch, bind_str?_eq_some.mpr hid,
      bind_array?_eq_some.mpr hdata, Option.some_bind, guard, if_pos hg, Option.pure_def]
    rcases items with _ | ⟨item, rest⟩
    · simp only [List.head?_nil, Option.none_bind, SideOf] at hbids hasks
      subst hbids hasks
      rcases doc.get "action" with _ | ⟨_ | _ | _ | s | _ | _⟩ <;> rfl
    · simp only [List.head?_cons, Option.some_bind] at hbids hasks hts
      obtain ⟨t, ht⟩ := Option.isSome_iff_exists.mp ((OkxAdapter.timestampMs_isSome_iff _).mpr hts)
      simp only [(parseLevels_eq_some_iff F _ _).mpr hbids,
        (parseLevels_eq_some_iff F _ _).mpr hasks, ht, Option.some_bind]
      rcases doc.get "action" with _ | ⟨_ | _ | _ | s | _ | _⟩ <;> rfl

/-- An OKX `books5` message whose `action` is the number 1: the adapter reads no string there and
falls back to the channel. -/
def okxNumericAction : Json :=
  .object [("arg", .object [("channel", .string "books5"), ("instId", .string "BTC-USDT")]),
    ("action", .number "1"), ("data", .array [])]

theorem okx_numeric_action_read_as_snapshot :
    okxNumericAction.get "action" = some (.number "1") ∧
      OkxAdapter.parseOrderbookMessage zeroFloatOps okxNumericAction =
        some ⟨bytesOf "BTC-USDT", [], [], true⟩ :=
  ⟨rfl, by decide⟩

/-! ## Bybit -/

/-- `s.find(pat) != npos` is the pattern occurring in `s`. -/
theorem findsBytes_iff (pat : Bytes) : ∀ s, findsBytes pat s = true ↔ pat <:+: s
  | [] => by simp [findsBytes, List.infix_nil]
  | c :: cs => by
    rw [findsBytes, Bool.or_eq_true, List.isPrefixOf_iff_prefix, findsBytes_iff pat cs,
      List.infix_cons_iff]

/-- The first occurrence of a byte splits the list before it. -/
theorem indexOf?_eq_some_iff {b : UInt8} : ∀ {l : Bytes} {j : Nat},
    l.indexOf? b = some j ↔ ∃ pre r, l = pre ++ b :: r ∧ b ∉ pre ∧ j = pre.length
  | [], j => by simp [List.indexOf?]
  | c :: cs, j => by
    rw [List.indexOf?_cons]
    by_cases hc : c = b
    · subst hc
      simp only [beq_self_eq_true, if_true, Option.some.injEq]
      constructor
      · rintro rfl; exact ⟨[], cs, rfl, List.not_mem_nil _, rfl⟩
      · rintro ⟨_ | ⟨d, pre⟩, r, h, hb, rfl⟩
        · rfl
        · cases h
          exact absurd (List.mem_cons_self _ _) hb
    · rw [if_neg (by simpa using hc), Option.map_eq_some']
      constructor
      · rintro ⟨j', h, rfl⟩
        obtain ⟨pre, r, rfl, hb, rfl⟩ := indexOf?_eq_some_iff.mp h
        exact ⟨c :: pre, r, rfl, by simp [Ne.symm hc, hb], rfl⟩
      · rintro ⟨_ | ⟨d, pre⟩, r, h, hb, rfl⟩
        · cases h; exact absurd rfl hc
        · cases h
          exact ⟨pre.length, indexOf?_eq_some_iff.mpr
            ⟨pre, r, rfl, fun h => hb (List.mem_cons_of_mem _ h), rfl⟩, rfl⟩

/-- `rfind` finds the last occurrence: the part after it holds no other. -/
theorem lastIndexOf_eq_some_iff {b : UInt8} {s : Bytes} {i : Nat} :
    lastIndexOf b s = some i ↔ ∃ pre suf, s = pre ++ b :: suf ∧ b ∉ suf ∧ i = pre.length := by
  rw [lastIndexOf, Option.map_eq_some']
  constructor
  · rintro ⟨j, h, rfl⟩
    obtain ⟨pre, r, hs, hb, rfl⟩ := indexOf?_eq_some_iff.mp h
    have hs' : s = r.reverse ++ b :: pre.reverse := by
      rw [← List.reverse_reverse s, hs]; simp
    refine ⟨r.reverse, pre.reverse, hs', by simpa using hb, ?_⟩
    rw [hs']; simp
  · rintro ⟨pre, suf, rfl, hb, rfl⟩
    refine ⟨suf.length, indexOf?_eq_some_iff.mpr
      ⟨suf.reverse, pre.reverse, by simp, by simpa using hb, by simp⟩, ?_⟩
    simp

theorem drop_length_append_cons (pre suf : Bytes) (b : UInt8) :
    (pre ++ b :: suf).drop (pre.length + 1) = suf := by
  induction pre <;> simp_all

/-- Bybit accepts exactly the messages of the order-book shape, `orderbook` anywhere in the
topic, and the book it fills is the one the shape gives. -/
theorem bybit_parse_iff_book_shape (doc : Json) (book : ParsedOrderBook) :
    BybitAdapter.parseOrderbookMessage F doc = some book ↔ BybitBookOf F doc book := by
  obtain ⟨instrument, bids, asks, isSnapshot⟩ := book
  constructor
  · intro h
    obtain ⟨topic, htopic, h⟩ := Option.bind_eq_some.mp h
    obtain ⟨_, hg, h⟩ := Option.bind_eq_some.mp h
    obtain ⟨i, hi, h⟩ := Option.bind_eq_some.mp h
    obtain ⟨data, hdata, h⟩ := Option.bind_eq_some.mp h
    obtain ⟨bids, hb, h⟩ := Option.bind_eq_some.mp h
    obtain ⟨asks, ha, h⟩ := Option.bind_eq_some.mp h
    cases h
    obtain ⟨pre, suf, hs, hdot, rfl⟩ := lastIndexOf_eq_some_iff.mp hi
    refine ⟨topic, data, bind_str?_eq_some.mp htopic,
      (findsBytes_iff _ _).mp (guard_eq_some_iff.mp hg), ⟨pre, ?_⟩, ?_, hdata, ?_,
      (parseLevels_eq_some_iff F _ _).mp hb,
      (parseLevels_eq_some_iff F _ _).mp ha⟩
    · dsimp only; rw [hs, drop_length_append_cons]
    · dsimp only; rw [hs, drop_length_append_cons]; exact hdot
    · rcases doc.get "type" with _ | ⟨_ | _ | _ | s | _ | _⟩ <;> rfl
  · rintro ⟨topic, data, htopic, hfind, ⟨pre, hs⟩, hdot, hdata, hsnap, hbids, hasks⟩
    dsimp only at hs hdot hsnap hbids hasks
    subst hsnap
    have hi : lastIndexOf 46 (bytesOf topic) = some pre.length :=
      lastIndexOf_eq_some_iff.mpr ⟨pre, instrument, hs, hdot, rfl⟩
    simp only [BybitAdapter.parseOrderbookMessage, Option.bind_eq_bind]
    simp only [bind_str?_eq_some.mpr htopic, Option.some_bind, guard,
      if_pos ((findsBytes_iff _ _).mpr hfind), Option.pure_def, hi, hdata,
      (parseLevels_eq_some_iff F _ _).mpr hbids,
      (parseLevels_eq_some_iff F _ _).mpr hasks]
    rw [hs, drop_length_append_cons]
    rcases doc.get "type" with _ | ⟨_ | _ | _ | s | _ | _⟩ <;> rfl

/-- A Bybit message whose topic has `orderbook` after another word. -/
def bybitInnerOrderbook : Json :=
  .object [("topic", .string "x.orderbook.BTCUSDT"), ("data", .object [])]

theorem bybit_orderbook_inside_topic_accepted :
    (bytesOf "orderbook").isPrefixOf (bytesOf "x.orderbook.BTCUSDT") = false ∧
      BybitAdapter.parseOrderbookMessage zeroFloatOps bybitInnerOrderbook =
        some ⟨bytesOf "BTCUSDT", [], [], false⟩ := by
  decide

end AeroGateway.Exchange
