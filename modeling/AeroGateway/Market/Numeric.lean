import AeroGateway.Market.Types

/-!
# C library conversions

The parsers turn decimal text into numbers with the C library. `strtoull` is modelled as glibc
computes it. `strtod`, the product of two `double`s, `std::round` and the cast of a `double` to
`uint64_t` are taken as given, as a `FloatOps`: what is proved holds for every choice of them,
so nothing depends on how a decimal is rounded to binary. `std::stod` and `std::stoull` are the
C conversions with their two error paths, no digit and `ERANGE`, turned into failures.
-/

namespace AeroGateway.Market

/-- The bytes a `char*` names as a C string: those before the first NUL. -/
def cString (b : Bytes) : Bytes := b.takeWhile (· != 0)

/-- `isspace` in the C locale. -/
def isSpace (c : UInt8) : Bool := c == 32 || (9 ≤ c && c ≤ 13)

/-- The decimal digits at the front of a byte string. -/
def leadingDigits : Bytes → List Nat
  | c :: cs => if 48 ≤ c ∧ c ≤ 57 then (c.toNat - 48) :: leadingDigits cs else []
  | [] => []

/-- What a C conversion gives: the value, whether it read a number, and whether it set `errno`
to `ERANGE`. -/
structure Conversion (α : Type) where
  value : α
  converted : Bool
  erange : Bool
  deriving DecidableEq, Repr

/-- `strtoull(s, &end, 10)`: white space, a sign, decimal digits. After a minus sign the value
is negated modulo 2^64; past 2^64 - 1 it is `ULLONG_MAX` with `ERANGE`. -/
def strtoull (s : Bytes) : Conversion UInt64 :=
  let s := s.dropWhile isSpace
  let (neg, s) := match s with
    | 45 :: t => (true, t)
    | 43 :: t => (false, t)
    | t => (false, t)
  let ds := leadingDigits s
  if ds.isEmpty then ⟨0, false, false⟩ else
    let v := ds.foldl (fun n d => 10 * n + d) 0
    if 2 ^ 64 ≤ v then ⟨UInt64.ofNat (2 ^ 64 - 1), true, true⟩
    else ⟨if neg then UInt64.ofNat (2 ^ 64 - v) else UInt64.ofNat v, true, false⟩

/-- `std::stoull(std::string(s))`: `strtoull` on its C string, failing where it throws. -/
def stoull (s : Bytes) : Option UInt64 :=
  let r := strtoull (cString s)
  if r.converted && !r.erange then some r.value else none

/-- The floating-point operations of the C and C++ libraries the parsers use. -/
structure FloatOps where
  /-- `strtod` on a C string. -/
  strtod : Bytes → Conversion Double
  /-- The product of two `double`s. -/
  mul : Double → Double → Double
  /-- `std::round`. -/
  round : Double → Double
  /-- `static_cast<uint64_t>` of a `double`. -/
  toUInt64 : Double → UInt64

/-- `std::stod(std::string(s))`: `strtod` on its C string, failing where it throws. -/
def FloatOps.stod (F : FloatOps) (s : Bytes) : Option Double :=
  let r := F.strtod (cString s)
  if r.converted && !r.erange then some r.value else none

/-- `PRICE_SCALE`, 10^8. -/
def PRICE_SCALE : UInt64 := 100000000

/-- `PRICE_SCALE` as the `double` the parsers multiply by: `100000000.0`, exact. -/
def priceScale : Double := .ofUInt64 PRICE_SCALE

example : priceScale.bits = 0x4197D78400000000 := by decide

end AeroGateway.Market
