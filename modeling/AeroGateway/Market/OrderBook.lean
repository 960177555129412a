import AeroGateway.Market.Types

/-!
# Order books and their manager

`OrderBook` keeps each side in a `std::map` from scaled price to size: the bids under
`std::greater`, the asks under `std::less`, so that `begin()` of either side is its best level.
A side is its entries in iteration order, and that order is a field of the side, so no side
with a misplaced or repeated price can be built. The lock is left out: every operation holds
it throughout, so each call is one step.

`OrderBookManager` keeps one book per exchange and instrument and makes an empty one the first
time a key is named. A call touches only the book at its key, so the book at a key is what the
calls addressed to it made of an empty book, and calls on distinct keys commute.
-/

namespace AeroGateway.Market

/-- The comparator of a `std::map<uint64_t, double, Compare>`: a strict total order. -/
structure KeyOrder where
  before : UInt64 → UInt64 → Bool
  trans : ∀ {a b c}, before a b → before b c → before a c
  irrefl : ∀ a, before a a = false
  total : ∀ {a b}, a ≠ b → before a b = false → before b a = true

private theorem uint64_lt_of_not_lt {a b : UInt64} (h : a ≠ b) (hn : ¬a < b) : b < a := by
  have : a.toBitVec.toNat ≠ b.toBitVec.toNat :=
    fun e => h (UInt64.eq_of_toBitVec_eq (BitVec.eq_of_toNat_eq e))
  simp only [UInt64.lt_def, BitVec.lt_def] at *
  omega

/-- `std::greater<uint64_t>`, the order of the bids: highest price first. -/
def greater : KeyOrder where
  before a b := decide (b < a)
  trans h₁ h₂ := decide_eq_true (UInt64.lt_trans (of_decide_eq_true h₂) (of_decide_eq_true h₁))
  irrefl a := decide_eq_false (UInt64.lt_irrefl a)
  total h hn := decide_eq_true (uint64_lt_of_not_lt h.symm (of_decide_eq_false hn))

/-- `std::less<uint64_t>`, the order of the asks: lowest price first. -/
def less : KeyOrder where
  before a b := decide (a < b)
  trans h₁ h₂ := decide_eq_true (UInt64.lt_trans (of_decide_eq_true h₁) (of_decide_eq_true h₂))
  irrefl a := decide_eq_false (UInt64.lt_irrefl a)
  total h hn := decide_eq_true (uint64_lt_of_not_lt h (of_decide_eq_false hn))

/-- `m[k] = v` on the entries of a map: the entry at `k` replaced, or a new one in key order. -/
def insertLevel (o : KeyOrder) (k : UInt64) (v : Double) :
    List (UInt64 × Double) → List (UInt64 × Double)
  | [] => [(k, v)]
  | e :: es =>
    if o.before k e.1 then (k, v) :: e :: es
    else if k = e.1 then (k, v) :: es
    else e :: insertLevel o k v es

section InsertLevel

variable {o : KeyOrder} {k : UInt64} {v : Double}

theorem mem_insertLevel {x : UInt64 × Double} :
    ∀ {l : List (UInt64 × Double)}, x ∈ insertLevel o k v l → x = (k, v) ∨ x ∈ l
  | [], h => by simpa [insertLevel] using h
  | e :: es, h => by
    unfold insertLevel at h
    split_ifs at h
    · simpa using h
    · simp only [List.mem_cons] at h ⊢; tauto
    · rcases List.mem_cons.mp h with rfl | h
      · exact .inr (List.mem_cons_self _ _)
      · rcases mem_insertLevel h with rfl | h
        · exact .inl rfl
        · exact .inr (List.mem_cons_of_mem _ h)

/-- Setting a level keeps the entries in key order. -/
theorem pairwise_insertLevel :
    ∀ {l : List (UInt64 × Double)}, l.Pairwise (fun a b => o.before a.1 b.1) →
      (insertLevel o k v l).Pairwise (fun a b => o.before a.1 b.1)
  | [], _ => List.pairwise_singleton _ _
  | e :: es, h => by
    have ⟨he, hes⟩ := List.pairwise_cons.mp h
    unfold insertLevel
    split_ifs with hlt heq
    · exact .cons (fun x hx => (List.mem_cons.mp hx).elim (· ▸ hlt)
        fun hx => o.trans hlt (he x hx)) h
    · exact .cons (fun x hx => heq ▸ he x hx) hes
    · have hgt := o.total heq (Bool.of_not_eq_true hlt)
      refine .cons (fun x hx => ?_) (pairwise_insertLevel hes)
      rcases mem_insertLevel hx with rfl | hx
      · exact hgt
      · exact he x hx

end InsertLevel

/-- A `std::map<uint64_t, double, Compare>`: its entries in iteration order. -/
structure PriceMap (o : KeyOrder) where
  entries : List (UInt64 × Double)
  sorted : entries.Pairwise fun a b => o.before a.1 b.1

namespace PriceMap

variable {o : KeyOrder}

/-- The empty map. -/
def empty : PriceMap o := ⟨[], .nil⟩

/-- `m[k] = v`. -/
def insert (m : PriceMap o) (k : UInt64) (v : Double) : PriceMap o :=
  ⟨insertLevel o k v m.entries, pairwise_insertLevel m.sorted⟩

/-- `m.erase(k)`. -/
def erase (m : PriceMap o) (k : UInt64) : PriceMap o :=
  ⟨m.entries.filter (·.1 != k), m.sorted.filter _⟩

end PriceMap

/-- `OrderBook`: the bid and the ask levels. -/
structure OrderBook where
  bids : PriceMap greater
  asks : PriceMap less

/-- `BestBidOffer`. -/
structure BestBidOffer where
  bidPrice : UInt64
  bidQty : Double
  askPrice : UInt64
  askQty : Double
  deriving DecidableEq, Repr

namespace OrderBook

/-- A default-constructed book. -/
def empty : OrderBook := ⟨.empty, .empty⟩

/-- `clear`. -/
def clear (_ : OrderBook) : OrderBook := empty

/-- `apply_update_internal`: a level whose update is a delete or has no positive quantity is
erased, any other is set. -/
def applyUpdateInternal (book : OrderBook) (update : OrderBookUpdate) : OrderBook :=
  let isDelete := update.isDelete || update.quantity.leZero
  match update.side with
  | .BID =>
    { book with
      bids := if isDelete then book.bids.erase update.priceInt
        else book.bids.insert update.priceInt update.quantity }
  | .ASK =>
    { book with
      asks := if isDelete then book.asks.erase update.priceInt
        else book.asks.insert update.priceInt update.quantity }

/-- `apply_snapshot`: both sides cleared, then every update applied in order. -/
def applySnapshot (book : OrderBook) (updates : List OrderBookUpdate) : OrderBook :=
  updates.foldl applyUpdateInternal book.clear

/-- `apply_updates`: every update applied in order. -/
def applyUpdates (book : OrderBook) (updates : List OrderBookUpdate) : OrderBook :=
  updates.foldl applyUpdateInternal book

/-- `apply_update`. -/
def applyUpdate (book : OrderBook) (update : OrderBookUpdate) : OrderBook :=
  book.applyUpdateInternal update

/-- `get_bbo`: the first level of each side, when neither side is empty. -/
def getBbo (book : OrderBook) : Option BestBidOffer :=
  match book.bids.entries, book.asks.entries with
  | bid :: _, ask :: _ => some ⟨bid.1, bid.2, ask.1, ask.2⟩
  | _, _ => none

end OrderBook

/-- `OrderBookManager::books_`: for each exchange and instrument, the book made for it, if that
key was ever named. -/
structure OrderBookManager where
  books : ExchangeId → Bytes → Option OrderBook

namespace OrderBookManager

/-- A manager with no books. -/
def init : OrderBookManager := ⟨fun _ _ => none⟩

/-- The book `books_[exchange][instrument]` refers to: the stored one, or a new empty one. -/
def book (m : OrderBookManager) (exchange : ExchangeId) (instrument : Bytes) : OrderBook :=
  (m.books exchange instrument).getD .empty

/-- The manager with `b` stored at a key. -/
def setBook (m : OrderBookManager) (exchange : ExchangeId) (instrument : Bytes)
    (b : OrderBook) : OrderBookManager :=
  ⟨fun e i => if e = exchange ∧ i = instrument then some b else m.books e i⟩

/-- `get_book`: `books_[exchange][instrument]`, which stores an empty book on first touch. -/
def getBook (m : OrderBookManager) (exchange : ExchangeId) (instrument : Bytes) :
    OrderBook × OrderBookManager :=
  let b := m.book exchange instrument
  (b, m.setBook exchange instrument b)

/-- `apply_updates`: the updates, as a snapshot or not, applied to the book at the key. -/
def applyUpdates (m : OrderBookManager) (exchange : ExchangeId) (instrument : Bytes)
    (updates : List OrderBookUpdate) (isSnapshot : Bool) : OrderBookManager :=
  let (book, m) := m.getBook exchange instrument
  m.setBook exchange instrument
    (if isSnapshot then book.applySnapshot updates else book.applyUpdates updates)

/-- `apply_update`: the bids and then the asks made into updates, a level of size at most
zero a delete, and applied to the book at the key. -/
def applyUpdate (m : OrderBookManager) (exchange : ExchangeId) (instrument : Bytes)
    (bids asks : List OrderBookLevel) (isSnapshot : Bool) : OrderBookManager :=
  let updates :=
    bids.map (fun bid =>
      { priceInt := bid.priceInt, quantity := bid.size, side := .BID,
        isDelete := bid.size.leZero }) ++
    asks.map (fun ask =>
      { priceInt := ask.priceInt, quantity := ask.size, side := .ASK,
        isDelete := ask.size.leZero })
  let (book, m) := m.getBook exchange instrument
  m.setBook exchange instrument
    (if isSnapshot then book.applySnapshot updates else book.applyUpdates updates)

/-- `get_best_prices`: the best bid and ask of the book at the key, prices cast to `double`. -/
def getBestPrices (m : OrderBookManager) (exchange : ExchangeId) (instrument : Bytes) :
    Option (Double × Double × Double × Double) × OrderBookManager :=
  let (book, m) := m.getBook exchange instrument
  (book.getBbo.map fun bbo =>
    (.ofUInt64 bbo.bidPrice, bbo.bidQty, .ofUInt64 bbo.askPrice, bbo.askQty), m)

@[simp] theorem books_setBook (m : OrderBookManager) (e : ExchangeId) (i : Bytes)
    (b : OrderBook) (e' : ExchangeId) (i' : Bytes) :
    (m.setBook e i b).books e' i' = if e' = e ∧ i' = i then some b else m.books e' i' := rfl

theorem ext {m m' : OrderBookManager} (h : ∀ e i, m.books e i = m'.books e i) : m = m' := by
  cases m; cases m'; congr; funext e i; exact h e i

@[simp] theorem setBook_setBook (m : OrderBookManager) (e : ExchangeId) (i : Bytes)
    (b b' : OrderBook) : (m.setBook e i b).setBook e i b' = m.setBook e i b' := by
  simp only [setBook, books_setBook]
  congr; funext e' i'; split <;> rfl

end OrderBookManager

/-- A call on the manager, with the key it names. -/
inductive Call
  | applyUpdate (exchange : ExchangeId) (instrument : Bytes) (bids asks : List OrderBookLevel)
      (isSnapshot : Bool)
  | applyUpdates (exchange : ExchangeId) (instrument : Bytes) (updates : List OrderBookUpdate)
      (isSnapshot : Bool)
  | getBook (exchange : ExchangeId) (instrument : Bytes)
  | getBestPrices (exchange : ExchangeId) (instrument : Bytes)

namespace Call

/-- The exchange and instrument a call names. -/
def key : Call → ExchangeId × Bytes
  | applyUpdate e i .. | applyUpdates e i .. | getBook e i | getBestPrices e i => (e, i)

/-- Levels read as updates of one side, a level of size at most zero a delete. -/
def levelUpdates (side : Side) (levels : List OrderBookLevel) : List OrderBookUpdate :=
  levels.map fun l => ⟨l.priceInt, l.size, side, l.size.leZero⟩

/-- What a call does to the book at its key: `apply_update` is `apply_updates` of its bids as
bid updates followed by its asks as ask updates, and the lookups leave the book as it is. -/
def onBook : Call → OrderBook → OrderBook
  | applyUpdate _ _ bids asks isSnapshot, b =>
    let updates := levelUpdates .BID bids ++ levelUpdates .ASK asks
    if isSnapshot then b.applySnapshot updates else b.applyUpdates updates
  | applyUpdates _ _ updates isSnapshot, b =>
    if isSnapshot then b.applySnapshot updates else b.applyUpdates updates
  | getBook .., b | getBestPrices .., b => b

end Call

namespace OrderBookManager

/-- One call, its returned values dropped. -/
def call (m : OrderBookManager) : Call → OrderBookManager
  | .applyUpdate e i bids asks isSnapshot => m.applyUpdate e i bids asks isSnapshot
  | .applyUpdates e i updates isSnapshot => m.applyUpdates e i updates isSnapshot
  | .getBook e i => (m.getBook e i).2
  | .getBestPrices e i => (m.getBestPrices e i).2

/-- Calls in order. -/
def run (cs : List Call) (m : OrderBookManager) : OrderBookManager := cs.foldl call m

/-- `apply_update` is `apply_updates` of its levels read as updates. -/
theorem applyUpdate_eq_applyUpdates (m : OrderBookManager) (e : ExchangeId) (i : Bytes)
    (bids asks : List OrderBookLevel) (isSnapshot : Bool) :
    m.applyUpdate e i bids asks isSnapshot =
      m.applyUpdates e i (Call.levelUpdates .BID bids ++ Call.levelUpdates .ASK asks)
        isSnapshot := rfl

/-- `get_book` stores the book it finds at its key, and nothing else. -/
theorem books_getBook (m : OrderBookManager) (e : ExchangeId) (i : Bytes) (e' : ExchangeId)
    (i' : Bytes) : (m.getBook e i).2.books e' i' =
      if (e', i') = (e, i) then some ((m.books e i).getD .empty) else m.books e' i' := by
  simp only [getBook, books_setBook, Prod.mk.injEq]; rfl

/-- A call stores at its key what it does to the book there, and leaves every other key. -/
theorem books_call (m : OrderBookManager) (c : Call) (e : ExchangeId) (i : Bytes) :
    (m.call c).books e i = if c.key = (e, i) then some (c.onBook (m.book e i))
      else m.books e i := by
  have key : ∀ e' i', ((e', i') = (e, i)) = (e = e' ∧ i = i') := by
    intro e' i'; simp only [Prod.mk.injEq, eq_comm]
  cases c <;>
    simp only [call, applyUpdate_eq_applyUpdates, applyUpdates, getBestPrices, getBook,
      setBook_setBook, books_setBook, Call.key, Call.onBook, key] <;>
    split <;> simp_all [book]

/-- The book at a key is what the calls addressed to it, in order, made of the book there
before: an empty one if there was none. -/
theorem books_run (e : ExchangeId) (i : Bytes) :
    ∀ (cs : List Call) (m : OrderBookManager), (m.run cs).books e i =
      (cs.filter (·.key = (e, i))).foldl (fun ob c => some (c.onBook (ob.getD .empty)))
        (m.books e i)
  | [], _ => rfl
  | c :: cs, m => by
    rw [run, List.foldl_cons, ← run, books_run e i cs, books_call, List.filter_cons]
    split <;> simp_all [book]

/-- Calls on distinct keys commute. -/
theorem run_comm_of_key_ne (m : OrderBookManager) {c₁ c₂ : Call} (h : c₁.key ≠ c₂.key) :
    m.run [c₁, c₂] = m.run [c₂, c₁] := by
  refine ext fun e i => ?_
  simp only [run, List.foldl_cons, List.foldl_nil]
  by_cases h₁ : c₁.key = (e, i) <;> by_cases h₂ : c₂.key = (e, i)
  · exact absurd (h₁.trans h₂.symm) h
  all_goals simp [books_call, h₁, h₂, book]

/-- The manager's calls on arbitrary keys: `apply_update` is `apply_updates` of its levels as
updates; the book at each key is what the calls addressed to it made of the book there, or of
an empty book; calls on distinct keys commute; and `get_book` and `get_best_prices` change no
book, only storing an empty one at a key never named before. -/
theorem book_at_key_applies_own_calls :
    (∀ (m : OrderBookManager) e i bids asks isSnapshot,
      m.applyUpdate e i bids asks isSnapshot =
        m.applyUpdates e i (Call.levelUpdates .BID bids ++ Call.levelUpdates .ASK asks)
          isSnapshot) ∧
    (∀ (m : OrderBookManager) cs e i, (m.run cs).books e i =
      (cs.filter (·.key = (e, i))).foldl (fun ob c => some (c.onBook (ob.getD .empty)))
        (m.books e i)) ∧
    (∀ (m : OrderBookManager) c₁ c₂, c₁.key ≠ c₂.key → m.run [c₁, c₂] = m.run [c₂, c₁]) ∧
    (∀ (m : OrderBookManager) e i e' i',
      (m.getBook e i).2.books e' i' =
          (if (e', i') = (e, i) then some ((m.books e i).getD .empty) else m.books e' i') ∧
        (m.getBestPrices e i).2.books e' i' =
          (if (e', i') = (e, i) then some ((m.books e i).getD .empty) else m.books e' i')) :=
  ⟨applyUpdate_eq_applyUpdates, fun m cs e i => books_run e i cs m,
    fun m _ _ h => run_comm_of_key_ne m h,
    fun m e i e' i' => ⟨books_getBook m e i e' i', books_getBook m e i e' i'⟩⟩

end OrderBookManager

end AeroGateway.Market
