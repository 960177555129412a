import AeroGateway.Config.Symbols
import AeroGateway.Market.Numeric
import AeroGateway.Network.Backoff

/-!
# Loading the configuration

`config_load` reads the gateway's settings from the environment into the global `app_config`.
The five API credentials are required: each one that is missing prints its own line on stderr
and marks the load as failed. The symbol lists and the retry settings are read next, and only
then is the failure reported: a failed load has overwritten them already, while the logging,
execution and UDP settings that follow the check keep their previous values.

Every optional setting has a default text, read by the same conversion as a value from the
environment: `strcasecmp` with `"true"` or `strcmp` with `"1"` for a flag, `atoi` for a number,
`strtod` for the multiplier, and `strncpy` into the 64-byte `udp_feed_address`, of which a C
string reads the first 63 bytes.
-/

namespace AeroGateway.Config

open Market Network

/-- The process environment as `getenv` reads it. A value is a C string: it holds no NUL. -/
structure Env where
  get : String → Option Bytes
  no_nul : ∀ {name : String} {v : Bytes}, get name = some v → (0 : UInt8) ∉ v

/-- The settings `config_load` writes after its check of the credentials. -/
structure LateSettings where
  debugLogEnabled : Bool
  enableExecution : Bool
  logPriceEnabled : Bool
  logSystemEnabled : Bool
  logTradeEnabled : Bool
  udpFeedEnabled : Bool
  udpFeedPort : Int
  /-- The `char[64]` array `udp_feed_address`. -/
  udpFeedAddress : Bytes
  udpFeedAddress_length : udpFeedAddress.length = 64
  logPriceFile : Option Bytes
  logSystemFile : Option Bytes
  logTradeFile : Option Bytes

/-- `app_config_t`: the credentials, the symbol lists and the retry settings `config_load` writes
before its check, and the settings it writes after. An `int` is an `Int` in its range. -/
structure AppConfig where
  okxApiKey : Option Bytes
  okxApiSecret : Option Bytes
  okxPassphrase : Option Bytes
  okxSymbols : SymbolTable
  bybitApiKey : Option Bytes
  bybitApiSecret : Option Bytes
  bybitSymbols : SymbolTable
  wsRetryEnabled : Bool
  wsRetryMaxAttempts : Int
  wsRetryInitialDelayMs : Int
  wsRetryMaxDelayMs : Int
  wsRetryBackoffMultiplier : Double
  late : LateSettings

/-- The zero-initialised `app_config`. -/
def AppConfig.zero : AppConfig :=
  ⟨none, none, none, emptyTable, none, none, emptyTable, false, 0, 0, 0, ⟨0⟩,
    ⟨false, false, false, false, false, false, 0, List.replicate 64 0, List.length_replicate _ _,
      none, none, none⟩⟩

/-! ## The conversions -/

/-- The line `get_required_env` prints for a missing variable. -/
def missingText (name : String) : String :=
  "Error: Missing required environment variable: " ++ name ++ "\n"

/-- `get_required_env(name, &missing)`: the value, or `NULL` with its line on stderr and
`*missing` set. -/
def getRequiredEnv (env : Env) (name : String) (missing : Bool) :
    Option Bytes × Bool × List String :=
  match env.get name with
  | some v => (some v, missing, [])
  | none => (none, true, [missingText name])

/-- `get_optional_env(name, default_val)`. -/
def getOptionalEnv (env : Env) (name : String) (defaultVal : Option Bytes) : Option Bytes :=
  match env.get name with
  | some v => some v
  | none => defaultVal

/-- `get_optional_env` with a default text: the value, never `NULL`. -/
def getOptionalText (env : Env) (name defaultVal : String) : Bytes :=
  (getOptionalEnv env name (some (bytesOf defaultVal))).getD (bytesOf defaultVal)

/-- `tolower` in the C locale. -/
def toLower (c : UInt8) : UInt8 := if 65 ≤ c ∧ c ≤ 90 then c + 32 else c

/-- `strcasecmp(s, "true") == 0 || strcmp(s, "1") == 0` on a C string. -/
def isTrue (s : Bytes) : Bool := s.map toLower == bytesOf "true" || s == bytesOf "1"

/-- `strtol(s, NULL, 10)` with a 64-bit `long`: white space, a sign, decimal digits, the value
clamped to `LONG_MIN` and `LONG_MAX`. -/
def strtol (s : Bytes) : Int :=
  let s := s.dropWhile isSpace
  let (neg, s) := match s with
    | 45 :: t => (true, t)
    | 43 :: t => (false, t)
    | t => (false, t)
  let v : Nat := (leadingDigits s).foldl (fun n d => 10 * n + d) 0
  if neg then max (-(v : Int)) (-2 ^ 63) else min (v : Int) (2 ^ 63 - 1)

/-- glibc's `atoi`: `(int) strtol(s, NULL, 10)`, the conversion keeping the low 32 bits as a
two's complement `int`. -/
def atoi (s : Bytes) : Int := (strtol s).bmod (2 ^ 32)

/-- `strncpy(udp_feed_address, s, 63)` and `udp_feed_address[63] = '\0'`: the first 63 bytes of
the C string, padded with NULs. -/
def copyAddress (s : Bytes) : Bytes := s.take 63 ++ List.replicate (63 - s.length) 0 ++ [0]

theorem length_copyAddress (s : Bytes) : (copyAddress s).length = 64 := by
  simp only [copyAddress, List.length_append, List.length_take, List.length_replicate,
    List.length_singleton]
  omega

/-! ## `config_load` -/

/-- What `config_load` returns, the `app_config` it leaves, and the lines it prints. -/
structure LoadResult where
  ret : Int
  config : AppConfig
  stderr : List String
  stdout : List String

/-- The line `config_load` prints on stderr when a credential is missing. -/
def failureText : String :=
  "Configuration failed: one or more required environment variables are missing.\n"

/-- A venue's symbol list: the variable parsed into the table there is, or the defaults. -/
def symbolsFrom (env : Env) (name : String) (defaults : List Bytes) (out : SymbolTable) :
    SymbolTable :=
  match getOptionalEnv env name none with
  | some s => parseCsvSymbols s out
  | none => ⟨defaults.map some, defaults.length⟩

/-- The settings after the check, each from its variable or its default text. -/
def lateFrom (env : Env) : LateSettings :=
  let address := getOptionalText env "UDP_FEED_ADDRESS" "127.0.0.1"
  { debugLogEnabled := isTrue (getOptionalText env "DEBUG_LOG_ENABLED" "false")
    enableExecution := isTrue (getOptionalText env "ENABLE_EXECUTION" "false")
    logPriceEnabled := isTrue (getOptionalText env "LOG_PRICE_ENABLED" "true")
    logSystemEnabled := isTrue (getOptionalText env "LOG_SYSTEM_ENABLED" "true")
    logTradeEnabled := isTrue (getOptionalText env "LOG_TRADE_ENABLED" "true")
    udpFeedEnabled := isTrue (getOptionalText env "UDP_FEED_ENABLED" "true")
    udpFeedPort := atoi (getOptionalText env "UDP_FEED_PORT" "13988")
    udpFeedAddress := copyAddress address
    udpFeedAddress_length := length_copyAddress address
    logPriceFile := getOptionalEnv env "LOG_PRICE_FILE" (some (bytesOf "logs/price.log"))
    logSystemFile := getOptionalEnv env "LOG_SYSTEM_FILE" (some (bytesOf "logs/system.log"))
    logTradeFile := getOptionalEnv env "LOG_TRADE_FILE" (some (bytesOf "logs/trade.log")) }

/-- The writes before the check: each credential as `get_required_env` returns it, which is
what `getenv` found, the symbol lists and the retry settings. -/
def writeEarly (F : FloatOps) (env : Env) (cfg : AppConfig) : AppConfig :=
  { cfg with
    okxApiKey := env.get "OKX_API_KEY"
    okxApiSecret := env.get "OKX_API_SECRET"
    okxPassphrase := env.get "OKX_PASSPHRASE"
    bybitApiKey := env.get "BYBIT_API_KEY"
    bybitApiSecret := env.get "BYBIT_API_SECRET"
    okxSymbols := symbolsFrom env "TRADING_SYMBOLS_OKX" okxDefaults cfg.okxSymbols
    bybitSymbols := symbolsFrom env "TRADING_SYMBOLS_BYBIT" bybitDefaults cfg.bybitSymbols
    wsRetryEnabled := isTrue (getOptionalText env "WS_RETRY_ENABLED" "true")
    wsRetryMaxAttempts := atoi (getOptionalText env "WS_RETRY_MAX_ATTEMPTS" "10")
    wsRetryInitialDelayMs := atoi (getOptionalText env "WS_RETRY_INITIAL_DELAY_MS" "1000")
    wsRetryMaxDelayMs := atoi (getOptionalText env "WS_RETRY_MAX_DELAY_MS" "30000")
    wsRetryBackoffMultiplier :=
      (F.strtod (getOptionalText env "WS_RETRY_BACKOFF_MULTIPLIER" "2.0")).value }

/-- `config_load`, from the `app_config` it finds: the five `get_required_env` calls set
`missing` and print, the writes before the check, then the check. -/
def configLoad (F : FloatOps) (env : Env) (cfg : AppConfig) : LoadResult :=
  let (_, missing, err₁) := getRequiredEnv env "OKX_API_KEY" false
  let (_, missing, err₂) := getRequiredEnv env "OKX_API_SECRET" missing
  let (_, missing, err₃) := getRequiredEnv env "OKX_PASSPHRASE" missing
  let (_, missing, err₄) := getRequiredEnv env "BYBIT_API_KEY" missing
  let (_, missing, err₅) := getRequiredEnv env "BYBIT_API_SECRET" missing
  let errs := err₁ ++ err₂ ++ err₃ ++ err₄ ++ err₅
  let cfg := writeEarly F env cfg
  if missing then ⟨-1, cfg, errs ++ [failureText], []⟩
  else ⟨0, { cfg with late := lateFrom env }, errs, ["Configuration loaded (relaxed check).\n"]⟩

/-- The retry settings the `BoostWebSocketClient` constructor copies from `app_config`. -/
def AppConfig.retryConfig (c : AppConfig) : RetryConfig := ⟨c.wsRetryEnabled, c.wsRetryMaxAttempts⟩

/-! ## What a load does -/

/-- The credentials `config_load` requires, in the order it reads them. -/
def requiredVars : List String :=
  ["OKX_API_KEY", "OKX_API_SECRET", "OKX_PASSPHRASE", "BYBIT_API_KEY", "BYBIT_API_SECRET"]

/-- The required variables the environment lacks, in order. -/
def missingVars (env : Env) : List String := requiredVars.filter fun name => (env.get name).isNone

theorem getRequiredEnv_eq (env : Env) (name : String) (missing : Bool) :
    getRequiredEnv env name missing =
      (env.get name, missing || (env.get name).isNone,
        if (env.get name).isNone then [missingText name] else []) := by
  unfold getRequiredEnv
  split <;> rename_i h <;> simp [h]

/-- `config_load` writes the settings before the check; with every credential present it writes
the later ones too and succeeds, otherwise it prints the missing variables' lines and fails. -/
theorem configLoad_eq (F : FloatOps) (env : Env) (cfg : AppConfig) :
    configLoad F env cfg =
      if missingVars env = [] then
        ⟨0, { writeEarly F env cfg with late := lateFrom env }, [],
          ["Configuration loaded (relaxed check).\n"]⟩
      else ⟨-1, writeEarly F env cfg, (missingVars env).map missingText ++ [failureText], []⟩ := by
  simp only [configLoad, writeEarly, getRequiredEnv_eq, missingVars, requiredVars]
  cases h₁ : (env.get "OKX_API_KEY").isNone <;> cases h₂ : (env.get "OKX_API_SECRET").isNone <;>
    cases h₃ : (env.get "OKX_PASSPHRASE").isNone <;> cases h₄ : (env.get "BYBIT_API_KEY").isNone <;>
    cases h₅ : (env.get "BYBIT_API_SECRET").isNone <;>
    simp [List.filter_cons, h₁, h₂, h₃, h₄, h₅]

/-! ## The UDP address -/

theorem cString_copyAddress {s : Bytes} (h : (0 : UInt8) ∉ s) :
    cString (copyAddress s) = s.take 63 := by
  have hs : ∀ a ∈ s.take 63, (a != 0) = true := fun a ha =>
    bne_iff_ne.mpr fun h0 => h (h0 ▸ List.mem_of_mem_take ha)
  have hz : (List.replicate (63 - s.length) (0 : UInt8) ++ [0]).takeWhile (· != 0) = [] := by
    cases 63 - s.length <;> rfl
  rw [cString, copyAddress, List.append_assoc, List.takeWhile_append_of_pos hs, hz,
    List.append_nil]

/-- A value read with a default holds no NUL when the default holds none. -/
theorem getOptionalText_no_nul (env : Env) (name defaultVal : String)
    (hd : (0 : UInt8) ∉ bytesOf defaultVal) : (0 : UInt8) ∉ getOptionalText env name defaultVal := by
  simp only [getOptionalText, getOptionalEnv]
  split <;> rename_i hv
  · exact env.no_nul hv
  · exact hd

/-- A successful load writes the settings after the check from the environment. -/
theorem late_of_configLoad {F : FloatOps} {env : Env} {cfg : AppConfig}
    (h : (configLoad F env cfg).ret = 0) : (configLoad F env cfg).config.late = lateFrom env := by
  rw [configLoad_eq] at h ⊢
  split_ifs at h ⊢
  · rfl
  · simp at h

/-! ## Environments -/

/-- An environment holding the listed variables, each a text without NUL. -/
def envOf (vars : List (String × String)) (h : ∀ p ∈ vars, (0 : UInt8) ∉ bytesOf p.2) : Env :=
  ⟨fun name => (vars.lookup name).map bytesOf, fun {name _} hv => by
    obtain ⟨s, hs, rfl⟩ := Option.map_eq_some'.mp hv
    exact h (name, s) (mem_of_lookup_eq_some hs)⟩

/-- Floating-point operations that read every text as `0.0`; what is proved here does not
depend on them. -/
def zeroStrtod : FloatOps := ⟨fun _ => ⟨⟨0⟩, false, false⟩, fun a _ => a, id, fun _ => 0⟩

end AeroGateway.Config
