import AeroGateway.Market.Json

/-!
# Trading symbol lists

`config_load` reads `TRADING_SYMBOLS_OKX` and `TRADING_SYMBOLS_BYBIT` with
`parse_csv_symbols`, or falls back to five default symbols for each venue, and `main` registers
the symbols at indices `0` to `count - 1`. `parse_csv_symbols` sizes the array and sets the count
from the number of commas, while `strtok` skips empty fields. A leading, trailing or doubled comma
therefore leaves slots that `malloc` returned and nothing wrote, and `main` reads them.
-/

namespace AeroGateway.Config

open Market

/-- `','`. -/
def COMMA : UInt8 := 44

/-- The tokens `strtok` returns on the rest of the string, given the bytes of the token being
read, most recent first: each call skips commas and returns the run of bytes up to the next
one. -/
def strtokFrom : Bytes → Bytes → List Bytes
  | [], run => if run = [] then [] else [run.reverse]
  | c :: cs, run =>
    if c = COMMA then (if run = [] then strtokFrom cs [] else run.reverse :: strtokFrom cs [])
    else strtokFrom cs (c :: run)

/-- `strtok(copy, ",")`, then `strtok(NULL, ",")` until it returns `NULL`. -/
def strtokAll (s : Bytes) : List Bytes := strtokFrom s []

/-- `*out_symbols` and `*out_count`. A slot is `none` where `malloc` returned memory that
nothing wrote. -/
structure SymbolTable where
  symbols : List (Option Bytes)
  count : Nat
  deriving DecidableEq, Repr

/-- `parse_csv_symbols`. An empty string leaves the table as it was. Otherwise the count is one
more than the number of commas, and the first slots get `strdup` copies of the tokens.
Allocation is taken to succeed. -/
def parseCsvSymbols (envVal : Bytes) (out : SymbolTable) : SymbolTable :=
  if envVal.length = 0 then out
  else
    let count := 1 + envVal.count COMMA
    let tokens := strtokAll envVal
    ⟨(List.range count).map fun i => tokens[i]?, count⟩

/-- The symbol fields of the zero-initialised `app_config`. -/
def emptyTable : SymbolTable := ⟨[], 0⟩

/-- The symbol part of `config_load` for one venue: the variable's value parsed, or the
defaults. -/
def loadSymbols (envVal : Option Bytes) (defaults : List Bytes) : SymbolTable :=
  match envVal with
  | some s => parseCsvSymbols s emptyTable
  | none => ⟨defaults.map some, defaults.length⟩

/-- The default OKX symbols. -/
def okxDefaults : List Bytes :=
  ["ETH-USDT-SWAP", "XRP-USDT-SWAP", "SOL-USDT-SWAP", "TRX-USDT-SWAP", "DOGE-USDT-SWAP"].map
    bytesOf

/-- The default Bybit symbols. -/
def bybitDefaults : List Bytes :=
  ["ETHUSDT", "XRPUSDT", "SOLUSDT", "TRXUSDT", "DOGEUSDT"].map bytesOf

/-- The loop of `main` that registers a venue's instruments: the symbol in each slot below the
count, or `none` once it reads a slot that `parse_csv_symbols` never wrote. -/
def registeredInstruments (t : SymbolTable) : Option (List Bytes) :=
  (List.range t.count).mapM fun i => t.symbols.getD i none

/-! ## Fields and tokens -/

/-- The comma-separated fields of a string, empty ones included. -/
def fields (s : Bytes) : List Bytes := s.splitOn COMMA

/-- The non-empty comma-separated fields, in order. -/
def nonEmptyFields (s : Bytes) : List Bytes := (fields s).filter (· ≠ [])

/-- `strtok` returns the non-empty fields: the accumulator of `strtokFrom` is the one of
`splitOnP.go`. -/
theorem strtokFrom_eq_filter (s run : Bytes) :
    strtokFrom s run = (List.splitOnP.go (· == COMMA) s run).filter (· ≠ []) := by
  induction s generalizing run with
  | nil => by_cases h : run = [] <;> simp [strtokFrom, List.splitOnP.go, h]
  | cons c cs ih =>
    by_cases hc : c = COMMA
    · by_cases h : run = [] <;> simp [strtokFrom, List.splitOnP.go, hc, h, ih]
    · simp [strtokFrom, List.splitOnP.go, hc, ih]

theorem strtokAll_eq_nonEmptyFields (s : Bytes) : strtokAll s = nonEmptyFields s :=
  strtokFrom_eq_filter s []

/-- A string has one field more than it has commas. -/
theorem length_fields (s : Bytes) : (fields s).length = 1 + s.count COMMA := by
  induction s with
  | nil => rfl
  | cons c cs ih =>
    simp only [fields, List.splitOn] at ih ⊢
    rw [List.splitOnP_cons, List.count_cons]
    by_cases hc : c = COMMA <;> simp [hc, ih]
    omega

/-! ## What `main` reads -/

/-- Reading a list by index from 0, as far as `n`: the first `n` entries, or `none` when the
list is shorter. -/
theorem mapM_range_getElem? {α : Type} (l : List α) :
    ∀ n, (List.range n).mapM (fun i => l[i]?) = if n ≤ l.length then some (l.take n) else none
  | 0 => by simp only [List.range_zero, List.mapM_nil, Nat.zero_le, if_true, List.take_zero]; rfl
  | n + 1 => by
    rw [List.range_succ, List.mapM_append, mapM_range_getElem? l n]
    simp only [List.mapM_cons, List.mapM_nil]
    by_cases h : n + 1 ≤ l.length
    · rw [if_pos (by omega), if_pos h, List.getElem?_eq_getElem (by omega), List.take_succ,
        List.getElem?_eq_getElem (by omega)]
      rfl
    · rw [if_neg h]
      by_cases h' : n ≤ l.length
      · rw [if_pos h', List.getElem?_eq_none (by omega)]; rfl
      · rw [if_neg h']; rfl

/-- A slot of the array `parse_csv_symbols` fills holds the token of its index, or nothing. -/
theorem getD_slots (tokens : List Bytes) (count i : Nat) (h : tokens.length ≤ count) :
    ((List.range count).map fun j => tokens[j]?).getD i none = tokens[i]? := by
  by_cases hi : i < count
  · simp [List.getD_eq_getElem?_getD, hi]
  · rw [List.getD_eq_getElem?_getD, List.getElem?_eq_none (by simp; omega),
      List.getElem?_eq_none (by omega)]
    rfl

theorem getD_map_some {α : Type} (l : List α) (i : Nat) : (l.map some).getD i none = l[i]? := by
  rw [List.getD_eq_getElem?_getD, List.getElem?_map]
  cases l[i]? <;> rfl

theorem length_strtokAll_le (s : Bytes) : (strtokAll s).length ≤ 1 + s.count COMMA := by
  rw [strtokAll_eq_nonEmptyFields, ← length_fields]
  exact List.length_filter_le _ _

/-- What `main` registers from a non-empty variable: its non-empty fields, unless one field is
empty; then it reads a slot that nothing wrote. -/
theorem registeredInstruments_parseCsvSymbols (s : Bytes) (hs : s ≠ []) :
    registeredInstruments (parseCsvSymbols s emptyTable) =
      if [] ∈ fields s then none else some (nonEmptyFields s) := by
  have hne : ¬s.length = 0 := by simpa using hs
  simp only [registeredInstruments, parseCsvSymbols, hne, if_false,
    getD_slots _ _ _ (length_strtokAll_le s), mapM_range_getElem?]
  rw [strtokAll_eq_nonEmptyFields, ← length_fields]
  have hle : (nonEmptyFields s).length ≤ (fields s).length := List.length_filter_le _ _
  by_cases hmem : [] ∈ fields s
  · have hlt : (nonEmptyFields s).length ≠ (fields s).length := by
      rw [nonEmptyFields, Ne, List.filter_length_eq_length]
      exact fun h => by simpa using h [] hmem
    rw [if_neg (by omega), if_pos hmem]
  · have heq : nonEmptyFields s = fields s := by
      rw [nonEmptyFields, List.filter_eq_self]
      intro a ha
      simp only [ne_eq, decide_eq_true_eq]
      rintro rfl
      exact hmem ha
    rw [if_neg hmem, heq, if_pos le_rfl, List.take_length]

theorem registeredInstruments_parseCsvSymbols_pair :
    bytesOf "BTC-USDT,ETH-USDT" ≠ [] ∧
      registeredInstruments (parseCsvSymbols (bytesOf "BTC-USDT,ETH-USDT") emptyTable) =
        if [] ∈ fields (bytesOf "BTC-USDT,ETH-USDT") then none
        else some (nonEmptyFields (bytesOf "BTC-USDT,ETH-USDT")) :=
  have hs : bytesOf "BTC-USDT,ETH-USDT" ≠ [] := by decide
  ⟨hs, registeredInstruments_parseCsvSymbols _ hs⟩

/-- The defaults are registered as they are. -/
theorem registeredInstruments_defaults (defaults : List Bytes) :
    registeredInstruments (loadSymbols none defaults) = some defaults := by
  simp only [registeredInstruments, loadSymbols, getD_map_some, List.length_map,
    mapM_range_getElem?, le_rfl, if_true, List.take_length]

theorem trailing_comma_leaves_unwritten_slot :
    (parseCsvSymbols (bytesOf "ETH-USDT-SWAP,") emptyTable).count = 2 ∧
      (parseCsvSymbols (bytesOf "ETH-USDT-SWAP,") emptyTable).symbols =
        [some (bytesOf "ETH-USDT-SWAP"), none] ∧
      registeredInstruments (parseCsvSymbols (bytesOf "ETH-USDT-SWAP,") emptyTable) = none := by
  decide

end AeroGateway.Config
