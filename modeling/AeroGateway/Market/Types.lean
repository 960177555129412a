import Mathlib.Data.List.Basic
import Mathlib.Algebra.Group.Nat.Basic

/-!
# Market data types

The records the venue parsers produce and the order books and the UDP publisher consume.
A `std::string` is its bytes. A `double` is its IEEE-754 binary64 bit pattern: the publisher
copies the pattern and the order book only compares it with zero, which the pattern decides.
-/

namespace AeroGateway.Market

/-- A `std::string` or `std::string_view`: its bytes. -/
abbrev Bytes := List UInt8

/-- `ExchangeId`, an enum over `uint8_t`: every byte is a value of it. -/
structure ExchangeId where
  val : UInt8
  deriving DecidableEq, Repr

namespace ExchangeId

/-- `ExchangeId::OKX`. -/
def OKX : ExchangeId := ⟨0⟩
/-- `ExchangeId::BYBIT`. -/
def BYBIT : ExchangeId := ⟨1⟩
/-- `ExchangeId::BINANCE`. -/
def BINANCE : ExchangeId := ⟨2⟩
/-- `ExchangeId::GATE`. -/
def GATE : ExchangeId := ⟨3⟩
/-- `ExchangeId::BITGET`. -/
def BITGET : ExchangeId := ⟨4⟩
/-- `ExchangeId::MEXC`. -/
def MEXC : ExchangeId := ⟨5⟩
/-- `ExchangeId::UNKNOWN`. -/
def UNKNOWN : ExchangeId := ⟨255⟩

end ExchangeId

/-- A `double`, as its IEEE-754 binary64 bit pattern. -/
structure Double where
  bits : UInt64
  deriving DecidableEq, Repr

namespace Double

/-- All exponent bits set and a nonzero fraction. -/
def isNaN (x : Double) : Bool :=
  (x.bits >>> 52) &&& 0x7FF == 0x7FF && (x.bits &&& 0xFFFFFFFFFFFFF) != 0

/-- `x == 0.0`: zero of either sign. -/
def eqZero (x : Double) : Bool := x.bits &&& 0x7FFFFFFFFFFFFFFF == 0

/-- `x <= 0.0`: zero of either sign, or the sign bit set on a number that is not NaN. -/
def leZero (x : Double) : Bool := x.eqZero || (x.bits >>> 63 == 1 && !x.isNaN)

/-- A zero is at most zero. -/
theorem leZero_of_eqZero {x : Double} (h : x.eqZero = true) : x.leZero = true := by
  simp [leZero, h]

/-- The index of the highest set bit of a nonzero number below `2 ^ w`. -/
def topBit : Nat → Nat → Nat
  | 0, _ => 0
  | w + 1, n => if 2 ^ w ≤ n then w else topBit w n

/-- `static_cast<double>` of a `uint64_t`: the 53 leading bits, rounded to nearest with ties
to even. A carry out of the significand moves into the exponent field. -/
def ofUInt64 (n : UInt64) : Double :=
  if n = 0 then ⟨0⟩ else
    let e := topBit 64 n.toNat
    let s := e - 52
    let m := n.toNat * 2 ^ (52 - e) / 2 ^ s
    let r := n.toNat % 2 ^ s
    let m := if 2 ^ s < 2 * r ∨ (2 ^ s = 2 * r ∧ m % 2 = 1) then m + 1 else m
    ⟨UInt64.ofNat ((1023 + e) * 2 ^ 52 + (m - 2 ^ 52))⟩

example : (ofUInt64 1).bits = 0x3FF0000000000000 := by decide
example : (ofUInt64 0xFFFFFFFFFFFFFFFF).bits = 0x43F0000000000000 := by decide

end Double

/-- `PriceLevel`. -/
structure PriceLevel where
  /-- `price_int`: the price scaled by `PRICE_SCALE`. -/
  priceInt : UInt64
  size : Double
  deriving DecidableEq, Repr

/-- `ParsedOrderBook`; `timestamp_ms` is left out, nothing modelled reads it. -/
structure ParsedOrderBook where
  instrument : Bytes
  bids : List PriceLevel
  asks : List PriceLevel
  isSnapshot : Bool
  deriving DecidableEq, Repr

/-- `Side`. -/
inductive Side
  | BID
  | ASK
  deriving DecidableEq, Repr

/-- `OrderBookUpdate`. -/
structure OrderBookUpdate where
  priceInt : UInt64
  quantity : Double
  side : Side
  isDelete : Bool
  deriving DecidableEq, Repr

/-- `OrderBookLevel`, the level `OrderBookManager::apply_update` takes. -/
structure OrderBookLevel where
  priceInt : UInt64
  size : Double
  deriving DecidableEq, Repr

end AeroGateway.Market
