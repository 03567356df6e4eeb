import Pifp.Indexer.Json

/-!
# The indexer's configuration

`config.rs` of the indexer: `Config::from_env` reads seven settings from the
environment. A missing variable takes its default, except `CONTRACT_ID`, which
is required. The four numeric settings go through Rust's `str::parse` for
`u16`, `u64` and `u32`: an optional `+`, at least one decimal digit, and a value
that fits. A value that does not parse is refused with a message naming its
variable. The settings are read in the order of the struct, so the first
refusal is the one returned.
-/

namespace Pifp.Indexer

/-- The indexer's configuration (`Config`). -/
structure Config where
  rpcUrl : String
  contractId : String
  databaseUrl : String
  apiPort : Nat
  pollIntervalSecs : Nat
  eventsPerPage : Nat
  startLedger : Nat
  deriving DecidableEq, Repr

/-- `IndexerError`, with the variants the modelled code returns: `Config` from
`from_env`, and `Http` (a body that does not decode) and `EventParse` from
`fetch_events`. The database, migration and JSON variants come from layers that
are not modelled. -/
inductive IndexerError
  | config (message : String)
  | http
  | eventParse (message : String)
  deriving DecidableEq, Repr

/-- `str::parse` for an unsigned integer of `bits` bits: an optional `+`, then
at least one decimal digit, with a value below `2 ^ bits`. -/
def parseUnsigned (bits : Nat) (text : String) : Option Nat :=
  let digits := match text.toList with
    | '+' :: rest => rest
    | chars => chars
  if digits ≠ [] ∧ digits.all Char.isDigit ∧ digitsValue digits < 2 ^ bits then
    some (digitsValue digits)
  else none

/-- `env_var`: the variable's value, or an error naming it. -/
def envVar (env : String → Option String) (key : String) : Except IndexerError String :=
  match env key with
  | some value => .ok value
  | none => .error (.config ("Missing env var: " ++ key))

/-- `env_var(key).unwrap_or_else(|_| default.to_string())`. -/
def envVarOr (env : String → Option String) (key default : String) : String :=
  match envVar env key with
  | .ok value => value
  | .error _ => default

/-- A numeric setting of `from_env`: its variable, its default, the width of
its type and the message it is refused with. -/
structure NumericSetting where
  key : String
  default : String
  bits : Nat
  message : String
  deriving DecidableEq, Repr

/-- A numeric setting as `from_env` reads it: the value or the default,
parsed, or refused with the setting's message. -/
def NumericSetting.read (setting : NumericSetting) (env : String → Option String) :
    Except IndexerError Nat :=
  match parseUnsigned setting.bits (envVarOr env setting.key setting.default) with
  | some value => .ok value
  | none => .error (.config setting.message)

/-- `api_port: u16`. -/
def apiPortSetting : NumericSetting := ⟨"API_PORT", "3001", 16, "Invalid API_PORT"⟩

/-- `poll_interval_secs: u64`. -/
def pollIntervalSetting : NumericSetting :=
  ⟨"POLL_INTERVAL_SECS", "5", 64, "Invalid POLL_INTERVAL_SECS"⟩

/-- `events_per_page: u32`. -/
def eventsPerPageSetting : NumericSetting :=
  ⟨"EVENTS_PER_PAGE", "100", 32, "Invalid EVENTS_PER_PAGE"⟩

/-- `start_ledger: u32`. -/
def startLedgerSetting : NumericSetting := ⟨"START_LEDGER", "0", 32, "Invalid START_LEDGER"⟩

/-- The numeric settings in the order `from_env` reads them. -/
def numericSettings : List NumericSetting :=
  [apiPortSetting, pollIntervalSetting, eventsPerPageSetting, startLedgerSetting]

/-- `Config::from_env`. -/
def Config.fromEnv (env : String → Option String) : Except IndexerError Config := do
  let contractId ← (envVar env "CONTRACT_ID").mapError fun _ =>
    .config "CONTRACT_ID environment variable is required"
  let apiPort ← apiPortSetting.read env
  let pollIntervalSecs ← pollIntervalSetting.read env
  let eventsPerPage ← eventsPerPageSetting.read env
  let startLedger ← startLedgerSetting.read env
  pure {
    rpcUrl := envVarOr env "RPC_URL" "https://soroban-testnet.stellar.org"
    contractId := contractId
    databaseUrl := envVarOr env "DATABASE_URL" "sqlite:./pifp_events.db"
    apiPort := apiPort
    pollIntervalSecs := pollIntervalSecs
    eventsPerPage := eventsPerPage
    startLedger := startLedger }

section Properties

variable {env : String → Option String}

/-- A bind in `Except` succeeds when both halves do. -/
theorem Except.bind_eq_ok {ε α β : Type} {x : Except ε α} {f : α → Except ε β} {b : β} :
    x >>= f = .ok b ↔ ∃ a, x = .ok a ∧ f a = .ok b := by
  cases x <;> simp [bind, Except.bind]

/-- A bind in `Except` fails when either half does. -/
theorem Except.bind_eq_error {ε α β : Type} {x : Except ε α} {f : α → Except ε β} {e : ε} :
    x >>= f = .error e ↔ x = .error e ∨ ∃ a, x = .ok a ∧ f a = .error e := by
  cases x <;> simp [bind, Except.bind]

/-- Every default parses, and every refusal names the variable it reads. -/
theorem numericSettings_wellFormed :
    ∀ setting ∈ numericSettings,
      (parseUnsigned setting.bits setting.default).isSome ∧
        setting.message = "Invalid " ++ setting.key := by
  decide

/-- A value `parseUnsigned` accepts fits its width. -/
theorem parseUnsigned_lt {bits value : Nat} {text : String}
    (parsed : parseUnsigned bits text = some value) : value < 2 ^ bits := by
  simp only [parseUnsigned] at parsed
  split at parsed
  · next accepted => exact Option.some.inj parsed ▸ accepted.2.2
  · cases parsed

theorem NumericSetting.read_eq_ok {setting : NumericSetting} {value : Nat} :
    setting.read env = .ok value ↔
      parseUnsigned setting.bits (envVarOr env setting.key setting.default) = some value := by
  unfold NumericSetting.read
  cases parseUnsigned setting.bits (envVarOr env setting.key setting.default) <;> simp

theorem NumericSetting.read_eq_error {setting : NumericSetting} {error : IndexerError} :
    setting.read env = .error error ↔
      parseUnsigned setting.bits (envVarOr env setting.key setting.default) = none ∧
        error = .config setting.message := by
  unfold NumericSetting.read
  cases parseUnsigned setting.bits (envVarOr env setting.key setting.default) <;> simp [eq_comm]

/-- What `from_env` returns when it succeeds: `CONTRACT_ID` as set, every other
text setting its value or default, every numeric setting its value or default
parsed. -/
theorem Config.fromEnv_eq_ok {config : Config} :
    Config.fromEnv env = .ok config ↔
      env "CONTRACT_ID" = some config.contractId ∧
      config.rpcUrl = envVarOr env "RPC_URL" "https://soroban-testnet.stellar.org" ∧
      config.databaseUrl = envVarOr env "DATABASE_URL" "sqlite:./pifp_events.db" ∧
      apiPortSetting.read env = .ok config.apiPort ∧
      pollIntervalSetting.read env = .ok config.pollIntervalSecs ∧
      eventsPerPageSetting.read env = .ok config.eventsPerPage ∧
      startLedgerSetting.read env = .ok config.startLedger := by
  obtain ⟨rpcUrl, contractId, databaseUrl, apiPort, pollIntervalSecs, eventsPerPage, startLedger⟩ :=
    config
  cases contract : env "CONTRACT_ID" with
  | none => simp [Config.fromEnv, Except.bind_eq_ok, envVar, contract, Except.mapError]
  | some given =>
    simp only [Config.fromEnv, Except.bind_eq_ok, envVar, contract, Except.mapError, pure,
      Except.pure, Except.ok.injEq, Config.mk.injEq, Option.some.injEq]
    constructor
    · rintro ⟨_, rfl, _, port, _, interval, _, perPage, _, start, rfl, rfl, rfl, rfl, rfl, rfl, rfl⟩
      exact ⟨rfl, rfl, rfl, port, interval, perPage, start⟩
    · rintro ⟨rfl, rfl, rfl, port, interval, perPage, start⟩
      exact ⟨_, rfl, _, port, _, interval, _, perPage, _, start, rfl, rfl, rfl, rfl, rfl, rfl, rfl⟩

/-- With only `CONTRACT_ID` set, `from_env` gives the defaults. -/
theorem Config.fromEnv_defaults (contractId : String) :
    Config.fromEnv (fun key => if key = "CONTRACT_ID" then some contractId else none) =
      .ok ⟨"https://soroban-testnet.stellar.org", contractId, "sqlite:./pifp_events.db",
        3001, 5, 100, 0⟩ :=
  rfl

/-- The environment of the sample deployment: the contract, and pages of ten
events. -/
def sampleEnvironment (key : String) : Option String :=
  if key = "CONTRACT_ID" then some "CPIFP" else if key = "EVENTS_PER_PAGE" then some "10" else none

/-- The configuration of the sample deployment. -/
def sampleIndexerConfig : Config :=
  ⟨"https://soroban-testnet.stellar.org", "CPIFP", "sqlite:./pifp_events.db", 3001, 5, 10, 0⟩

example : Config.fromEnv sampleEnvironment = .ok sampleIndexerConfig := rfl

/-- A configuration `from_env` builds starts below `2 ^ 32`. -/
theorem Config.fromEnv_startLedger_lt {config : Config} (configured : Config.fromEnv env = .ok config) :
    config.startLedger < 2 ^ 32 :=
  parseUnsigned_lt (NumericSetting.read_eq_ok.mp (Config.fromEnv_eq_ok.mp configured).2.2.2.2.2.2)

/-- Every refusal of `from_env` names a variable it read and found wanting:
`CONTRACT_ID` missing, or a numeric setting whose value or default does not
parse. -/
theorem Config.fromEnv_error_names_variable {message : String}
    (refused : Config.fromEnv env = .error (.config message)) :
    (env "CONTRACT_ID" = none ∧ message = "CONTRACT_ID environment variable is required") ∨
      ∃ setting ∈ numericSettings, message = "Invalid " ++ setting.key ∧
        parseUnsigned setting.bits (envVarOr env setting.key setting.default) = none := by
  have named : ∀ setting ∈ numericSettings, setting.read env = .error (.config message) →
      ∃ setting ∈ numericSettings, message = "Invalid " ++ setting.key ∧
        parseUnsigned setting.bits (envVarOr env setting.key setting.default) = none := by
    intro setting listed read
    obtain ⟨unparsed, same⟩ := NumericSetting.read_eq_error.mp read
    cases same
    exact ⟨setting, listed, (numericSettings_wellFormed setting listed).2, unparsed⟩
  cases contract : env "CONTRACT_ID" with
  | none =>
    simp [Config.fromEnv, Except.bind_eq_error, envVar, contract, Except.mapError] at refused
    exact .inl ⟨rfl, refused.symm⟩
  | some given =>
    simp only [Config.fromEnv, Except.bind_eq_error, envVar, contract, Except.mapError] at refused
    obtain refused |
      ⟨_, -, port | ⟨_, -, interval | ⟨_, -, perPage | ⟨_, -, start | ⟨_, -, built⟩⟩⟩⟩⟩ := refused
    · cases refused
    · exact .inr (named _ (by simp [numericSettings]) port)
    · exact .inr (named _ (by simp [numericSettings]) interval)
    · exact .inr (named _ (by simp [numericSettings]) perPage)
    · exact .inr (named _ (by simp [numericSettings]) start)
    · cases built

end Properties

end Pifp.Indexer
