import AeroGateway.Market.OrderBook

/-!
# The order book against the last-writer-wins merge

A side of a book is read through `get`, the size stored at a price. An update touches one
side at one price. After a list of updates, the book holds at each side and price what the
last update there left: its quantity, unless it deletes the level or its quantity compares at
most zero. With no update there, the level is as it was. `apply_snapshot` is the same merge
from an empty book. Since `quantity <= 0.0` is false for NaN, a NaN quantity is stored like a
positive one, so what every reachable level satisfies is `!(size <= 0.0)`.

`get_bbo` reads the first level of each side, and the comparators of the two maps put the
greatest bid and the least ask there.
-/

namespace AeroGateway.Market

namespace Double

/-- `x > 0.0`: neither NaN, nor zero, nor with the sign bit set. -/
def gtZero (x : Double) : Bool := !x.isNaN && x.bits >>> 63 == 0 && !x.eqZero

end Double

/-- A map lookup, one entry at a time. -/
theorem lookup_cons_eq_ite (e : UInt64 × Double) (l : List (UInt64 × Double)) (k : UInt64) :
    (e :: l).lookup k = if k = e.1 then some e.2 else l.lookup k := by
  obtain ⟨a, b⟩ := e
  simp only [List.lookup_cons]
  by_cases h : k = a
  · simp [h]
  · rw [beq_false_of_ne h, if_neg h]

theorem lookup_insertLevel {o : KeyOrder} (k k' : UInt64) (v : Double) :
    ∀ l : List (UInt64 × Double),
      (insertLevel o k v l).lookup k' = if k' = k then some v else l.lookup k'
  | [] => by simp [insertLevel, lookup_cons_eq_ite]
  | e :: es => by
    unfold insertLevel
    split_ifs with hlt heq hk hk <;>
      simp only [lookup_cons_eq_ite, lookup_insertLevel k k' v es] <;> simp_all

theorem lookup_filter_ne (k k' : UInt64) :
    ∀ l : List (UInt64 × Double),
      (l.filter (·.1 != k)).lookup k' = if k' = k then none else l.lookup k'
  | [] => by simp
  | e :: es => by
    by_cases he : e.1 = k <;>
      simp [List.filter_cons, he, lookup_cons_eq_ite, lookup_filter_ne k k' es] <;>
      split_ifs <;> simp_all

namespace PriceMap

variable {o : KeyOrder}

/-- The size stored at a price: `m.find(k)`. -/
def get (m : PriceMap o) (k : UInt64) : Option Double := m.entries.lookup k

@[simp] theorem get_empty (k : UInt64) : (empty : PriceMap o).get k = none := rfl

@[simp] theorem get_insert (m : PriceMap o) (k k' : UInt64) (v : Double) :
    (m.insert k v).get k' = if k' = k then some v else m.get k' :=
  lookup_insertLevel k k' v m.entries

@[simp] theorem get_erase (m : PriceMap o) (k k' : UInt64) :
    (m.erase k).get k' = if k' = k then none else m.get k' :=
  lookup_filter_ne k k' m.entries

end PriceMap

namespace OrderBook

/-- The size at a side and price. -/
def level (book : OrderBook) : Side → UInt64 → Option Double
  | .BID, p => book.bids.get p
  | .ASK, p => book.asks.get p

/-- One update sets or erases the level at its own side and price and leaves every other. -/
theorem level_applyUpdateInternal (book : OrderBook) (u : OrderBookUpdate) (s : Side)
    (p : UInt64) :
    (book.applyUpdateInternal u).level s p =
      if u.side = s ∧ u.priceInt = p then
        (if u.isDelete || u.quantity.leZero then none else some u.quantity)
      else book.level s p := by
  obtain ⟨k, q, side, del⟩ := u
  by_cases hp : k = p
  · subst hp
    cases side <;> cases s <;> simp only [applyUpdateInternal, level] <;> split_ifs <;> simp_all
  · cases side <;> cases s <;> simp [applyUpdateInternal, level, hp, Ne.symm hp] <;>
      split_ifs <;> simp [hp, Ne.symm hp]

end OrderBook

/-- The reference last-writer-wins merge at one side and price, from the level there before:
the last update there sets the level to its quantity when it is no delete and `keeps` the
quantity, and erases it otherwise; with no update there, the prior level stays. -/
def lastWriterWins (keeps : Double → Bool) (prior : Option Double)
    (updates : List OrderBookUpdate) (side : Side) (price : UInt64) : Option Double :=
  match (updates.filter fun u => u.side = side ∧ u.priceInt = price).getLast? with
  | some u => if !u.isDelete && keeps u.quantity then some u.quantity else none
  | none => prior

/-- The merge read one update at a time: the first update, if it touches the side and price,
is the prior level of the rest. -/
theorem lastWriterWins_cons (keeps : Double → Bool) (prior : Option Double)
    (u : OrderBookUpdate) (us : List OrderBookUpdate) (s : Side) (p : UInt64) :
    lastWriterWins keeps prior (u :: us) s p =
      lastWriterWins keeps (if u.side = s ∧ u.priceInt = p then
        (if !u.isDelete && keeps u.quantity then some u.quantity else none) else prior) us s p := by
  unfold lastWriterWins
  by_cases hu : u.side = s ∧ u.priceInt = p
  · rw [List.filter_cons_of_pos (by simpa using hu), List.getLast?_cons, if_pos hu]
    cases (us.filter fun u => decide (u.side = s ∧ u.priceInt = p)).getLast? <;> rfl
  · rw [List.filter_cons_of_neg (by simpa using hu), if_neg hu]

namespace OrderBook

/-- `apply_updates` is the last-writer-wins merge that keeps every quantity not at most zero. -/
theorem level_applyUpdates (book : OrderBook) (updates : List OrderBookUpdate) (s : Side)
    (p : UInt64) :
    (book.applyUpdates updates).level s p =
      lastWriterWins (fun q => !q.leZero) (book.level s p) updates s p := by
  induction updates generalizing book with
  | nil => rfl
  | cons u us ih =>
    have hstep : book.applyUpdates (u :: us) = (book.applyUpdateInternal u).applyUpdates us := rfl
    rw [hstep, ih, level_applyUpdateInternal, lastWriterWins_cons]
    cases u.isDelete <;> cases u.quantity.leZero <;> rfl

/-- `apply_snapshot` is `apply_updates` on an empty book, whatever the book held. -/
theorem applySnapshot_eq (book : OrderBook) (updates : List OrderBookUpdate) :
    book.applySnapshot updates = empty.applyUpdates updates := rfl

/-- An operation of `OrderBook` that changes it. -/
inductive Op
  | clear
  | applyUpdate (update : OrderBookUpdate)
  | applyUpdates (updates : List OrderBookUpdate)
  | applySnapshot (updates : List OrderBookUpdate)

/-- One operation. -/
def exec (book : OrderBook) : Op → OrderBook
  | .clear => book.clear
  | .applyUpdate u => book.applyUpdate u
  | .applyUpdates us => book.applyUpdates us
  | .applySnapshot us => book.applySnapshot us

/-- No level of either side has a size that compares at most zero. -/
def LevelsKept (book : OrderBook) : Prop :=
  (∀ e ∈ book.bids.entries, e.2.leZero = false) ∧ (∀ e ∈ book.asks.entries, e.2.leZero = false)

theorem levelsKept_empty : LevelsKept empty := ⟨fun _ h => (nomatch h), fun _ h => (nomatch h)⟩

theorem levelsKept_insert {o : KeyOrder} {m : PriceMap o} {k : UInt64} {v : Double}
    (hm : ∀ e ∈ m.entries, e.2.leZero = false) (hv : v.leZero = false) :
    ∀ e ∈ (m.insert k v).entries, e.2.leZero = false := fun e he => by
  rcases mem_insertLevel he with rfl | he
  · exact hv
  · exact hm e he

theorem levelsKept_erase {o : KeyOrder} {m : PriceMap o} {k : UInt64}
    (hm : ∀ e ∈ m.entries, e.2.leZero = false) :
    ∀ e ∈ (m.erase k).entries, e.2.leZero = false :=
  fun e he => hm e (List.mem_of_mem_filter he)

theorem LevelsKept.applyUpdateInternal {book : OrderBook} (h : LevelsKept book)
    (u : OrderBookUpdate) : LevelsKept (book.applyUpdateInternal u) := by
  obtain ⟨hb, ha⟩ := h
  unfold OrderBook.applyUpdateInternal
  cases u.side <;> dsimp only <;> split_ifs with hdel
  · exact ⟨levelsKept_erase hb, ha⟩
  · exact ⟨levelsKept_insert hb (by simp_all), ha⟩
  · exact ⟨hb, levelsKept_erase ha⟩
  · exact ⟨hb, levelsKept_insert ha (by simp_all)⟩

theorem LevelsKept.applyUpdates {book : OrderBook} (h : LevelsKept book)
    (updates : List OrderBookUpdate) : LevelsKept (book.applyUpdates updates) := by
  induction updates generalizing book with
  | nil => exact h
  | cons u us ih => exact ih (h.applyUpdateInternal u)

theorem LevelsKept.exec {book : OrderBook} (h : LevelsKept book) :
    ∀ op, LevelsKept (book.exec op)
  | .clear => levelsKept_empty
  | .applyUpdate u => h.applyUpdateInternal u
  | .applyUpdates us => h.applyUpdates us
  | .applySnapshot us => levelsKept_empty.applyUpdates us

/-- Every level of a book reached from an empty one has a size that is not at most zero. -/
theorem levelsKept_run (ops : List Op) : LevelsKept (ops.foldl exec empty) := by
  suffices ∀ book, LevelsKept book → LevelsKept (ops.foldl exec book) from
    this empty levelsKept_empty
  induction ops with
  | nil => exact fun _ h => h
  | cons op ops ih => exact fun book h => ih _ (h.exec op)

end OrderBook

/-- The book's levels are the last-writer-wins merge that keeps every quantity not at most
zero, a NaN quantity included; `apply_snapshot` is that merge from empty sides; and no level a
sequence of operations reaches has a size at most zero. -/
theorem book_is_last_writer_wins :
    (∀ (book : OrderBook) updates s p, (book.applyUpdates updates).level s p =
      lastWriterWins (fun q => !q.leZero) (book.level s p) updates s p) ∧
    (∀ (book : OrderBook) updates, book.applySnapshot updates = .applyUpdates .empty updates) ∧
    (∀ ops : List OrderBook.Op, OrderBook.LevelsKept (ops.foldl OrderBook.exec .empty)) :=
  ⟨OrderBook.level_applyUpdates, OrderBook.applySnapshot_eq, OrderBook.levelsKept_run⟩

/-- A bid at price 1 whose quantity is the quiet NaN. -/
def nanBid : OrderBookUpdate := ⟨1, ⟨0x7FF8000000000000⟩, .BID, false⟩

theorem nan_quantity_level_kept :
    (OrderBook.empty.applyUpdates [nanBid]).level .BID 1 = some nanBid.quantity ∧
      lastWriterWins Double.gtZero none [nanBid] .BID 1 = none := by
  decide

/-! ## The best bid and offer -/

namespace OrderBook

/-- `get_bbo` fails exactly when a side is empty. -/
theorem getBbo_eq_none_iff (book : OrderBook) :
    book.getBbo = none ↔ book.bids.entries = [] ∨ book.asks.entries = [] := by
  unfold getBbo
  rcases book.bids.entries with _ | ⟨b, bs⟩ <;> rcases book.asks.entries with _ | ⟨a, as⟩ <;>
    simp

theorem uint64_le_of_not_lt {a b : UInt64} (h : ¬a < b) : b ≤ a := by
  simp only [UInt64.lt_def, UInt64.le_def, BitVec.lt_def, BitVec.le_def] at *
  omega

/-- The first level of a side is its best: no key comes before it. -/
theorem head_best {o : KeyOrder} {m : PriceMap o} {e : UInt64 × Double}
    {rest : List (UInt64 × Double)} (h : m.entries = e :: rest) :
    m.get e.1 = some e.2 ∧ ∀ x ∈ m.entries, o.before x.1 e.1 = false := by
  have hs := m.sorted
  rw [h] at hs ⊢
  refine ⟨by simp [PriceMap.get, h, lookup_cons_eq_ite], fun x hx => ?_⟩
  rcases List.mem_cons.mp hx with rfl | hx
  · exact o.irrefl _
  · cases hb : o.before x.1 e.1
    · rfl
    · have := o.trans hb ((List.pairwise_cons.mp hs).1 x hx)
      rw [o.irrefl] at this
      exact absurd this Bool.false_ne_true

/-- What `get_bbo` reports: the greatest bid price and the least ask price, with the sizes
stored there. -/
theorem getBbo_some {book : OrderBook} {bbo : BestBidOffer} (h : book.getBbo = some bbo) :
    book.bids.get bbo.bidPrice = some bbo.bidQty ∧ (∀ e ∈ book.bids.entries, e.1 ≤ bbo.bidPrice) ∧
      book.asks.get bbo.askPrice = some bbo.askQty ∧
      ∀ e ∈ book.asks.entries, bbo.askPrice ≤ e.1 := by
  unfold getBbo at h
  split at h
  · next bid bids ask asks hb ha =>
    cases h
    obtain ⟨hbget, hbbest⟩ := head_best hb
    obtain ⟨haget, habest⟩ := head_best ha
    refine ⟨hbget, fun e he => ?_, haget, fun e he => ?_⟩
    · have := hbbest e he
      simp only [greater, decide_eq_false_iff_not] at this
      exact uint64_le_of_not_lt this
    · have := habest e he
      simp only [less, decide_eq_false_iff_not] at this
      exact uint64_le_of_not_lt this
  · cases h

end OrderBook

/-- `get_bbo` fails exactly when a side is empty, and otherwise reports the greatest bid and the
least ask with their sizes; `get_best_prices` reports that of the book at its key, prices cast
to `double`. -/
theorem getBbo_reports_best_levels :
    (∀ book : OrderBook, book.getBbo = none ↔ book.bids.entries = [] ∨ book.asks.entries = []) ∧
    (∀ (book : OrderBook) bbo, book.getBbo = some bbo →
      book.bids.get bbo.bidPrice = some bbo.bidQty ∧
        (∀ e ∈ book.bids.entries, e.1 ≤ bbo.bidPrice) ∧
        book.asks.get bbo.askPrice = some bbo.askQty ∧
        ∀ e ∈ book.asks.entries, bbo.askPrice ≤ e.1) ∧
    (∀ (m : OrderBookManager) e i, (m.getBestPrices e i).1 = (m.book e i).getBbo.map fun bbo =>
      (Double.ofUInt64 bbo.bidPrice, bbo.bidQty, Double.ofUInt64 bbo.askPrice, bbo.askQty)) :=
  ⟨OrderBook.getBbo_eq_none_iff, fun _ _ h => OrderBook.getBbo_some h, fun _ _ _ => rfl⟩

end AeroGateway.Market
