import MatterServer.Config.Logger

/-!
# Loading the configuration

What of `config.Load` and of `setupLogger` in `cmd/matter-server` is this repository's own logic:
the defaults `setDefaults` gives viper, `getDefaultHostname`, `validate`, `ParseLogLevel` and the
choice of the log format. Reading the config file, the environment and the flags, and
`v.Unmarshal`, are viper's and cobra's: the model starts from the `Config` they fill in, which
with nothing set but the defaults is `setDefaults`'s.

`validate` checks the port, the vendor ID and the fabric ID in that order and returns the first
check that fails, with the value it found there (`validate_eq_none`, `validate_eq_some`).
`setupLogger` parses the level with `ParseLogLevel`, whose `strings.ToLower` is the parameter
`toLower` as in the mDNS zone, and accepts the formats `console` and `json`; a bad level's text is
wrapped twice, `invalid log level: invalid log level: …`. Where `toLower` lowers ASCII as Go's does
(`LowersAscii`), the defaults pass both checks (`setDefaults_valid`), and the name a log line gives
each level parses back to that level (`parseLogLevel_levelNames`).
-/

namespace MatterServer.Config

/-! ## The configuration -/

/-- `ServerConfig`: the port. `ListenAddresses` and `ServeStatic` are read by no modelled
function. -/
structure ServerConfig where
  port : Int
  deriving DecidableEq

/-- `MatterConfig`: the fields `setDefaults` and `validate` touch. -/
structure MatterConfig where
  vendorId : Int
  fabricId : Int
  enableTestNetDCL : Bool
  disableServerInteractions : Bool
  deriving DecidableEq

/-- `BluetoothConfig`. -/
structure BluetoothConfig where
  adapterId : Int
  enabled : Bool
  deriving DecidableEq

/-- `MDNSConfig`. -/
structure MDNSConfig where
  enabled : Bool
  hostname : String
  deriving DecidableEq

/-- `LogConfig`. -/
structure LogConfig where
  level : String
  format : String
  deriving DecidableEq

set_option linter.dupNamespace false in
/-- `Config`, with the sections that `setDefaults`, `validate` and `setupLogger` read or set. -/
structure Config where
  server : ServerConfig
  matter : MatterConfig
  bluetooth : BluetoothConfig
  mdns : MDNSConfig
  log : LogConfig
  deriving DecidableEq

/-- `getDefaultHostname()`, with what `os.Hostname()` returned, `none` for an error. -/
def getDefaultHostname (hostname : Option String) : String := hostname.getD "matter-server"

/-- The `Config` of `setDefaults` alone, with `hostname` for `getDefaultHostname()`. -/
def setDefaults (hostname : String) : Config where
  server := ⟨5580⟩
  matter := ⟨0xFFF1, 1, false, false⟩
  bluetooth := ⟨-1, false⟩
  mdns := ⟨true, hostname⟩
  log := ⟨"info", "console"⟩

/-! ## Validation -/

/-- An error of `validate`, with the value it rejects. -/
inductive ConfigError
  | invalidPort (port : Int)
  | invalidVendorId (vendorId : Int)
  | invalidFabricId (fabricId : Int)
  deriving DecidableEq

/-- The error's text, as `fmt.Errorf` writes it. -/
def ConfigError.message : ConfigError → String
  | .invalidPort port => "invalid port: " ++ toString port
  | .invalidVendorId vendorId => "invalid vendor ID: " ++ toString vendorId
  | .invalidFabricId fabricId => "invalid fabric ID: " ++ toString fabricId

/-- `validate(cfg)`: `none` for nil. -/
def validate (cfg : Config) : Option ConfigError :=
  if cfg.server.port ≤ 0 ∨ cfg.server.port > 65535 then some (.invalidPort cfg.server.port)
  else if cfg.matter.vendorId < 0 ∨ cfg.matter.vendorId > 0xFFFF then
    some (.invalidVendorId cfg.matter.vendorId)
  else if cfg.matter.fabricId ≤ 0 then some (.invalidFabricId cfg.matter.fabricId)
  else none

/-- `validate` accepts exactly a port in `1..65535`, a vendor ID in `0..0xFFFF` and a positive
fabric ID. -/
theorem validate_eq_none (cfg : Config) :
    validate cfg = none ↔ 0 < cfg.server.port ∧ cfg.server.port ≤ 65535 ∧
      0 ≤ cfg.matter.vendorId ∧ cfg.matter.vendorId ≤ 0xFFFF ∧ 0 < cfg.matter.fabricId := by
  unfold validate
  split_ifs <;> simp only [reduceCtorEq, false_iff, true_iff] <;> omega

/-- An error of `validate` is the first check that fails, and carries the value of the field it
checks. -/
theorem validate_eq_some {cfg : Config} {e : ConfigError} (h : validate cfg = some e) :
    e = .invalidPort cfg.server.port ∧ (cfg.server.port ≤ 0 ∨ 65535 < cfg.server.port) ∨
      e = .invalidVendorId cfg.matter.vendorId ∧ 0 < cfg.server.port ∧
        cfg.server.port ≤ 65535 ∧ (cfg.matter.vendorId < 0 ∨ 0xFFFF < cfg.matter.vendorId) ∨
      e = .invalidFabricId cfg.matter.fabricId ∧ 0 < cfg.server.port ∧
        cfg.server.port ≤ 65535 ∧ 0 ≤ cfg.matter.vendorId ∧ cfg.matter.vendorId ≤ 0xFFFF ∧
          cfg.matter.fabricId ≤ 0 := by
  unfold validate at h
  split_ifs at h with hp hv hf <;> cases h
  · exact .inl ⟨rfl, hp⟩
  · exact .inr (.inl ⟨rfl, by omega, by omega, hv⟩)
  · exact .inr (.inr ⟨rfl, by omega, by omega, by omega, by omega, hf⟩)

/-! ## The logger -/

/-- `ParseLogLevel(level)`, with `strings.ToLower` as `toLower`: the level the name stands for, or
`InfoLevel` with the error's text. -/
def parseLogLevel (toLower : String → String) (level : String) : LogLevel × Option String :=
  match toLower level with
  | "trace" => (0, none)
  | "debug" => (1, none)
  | "info" => (2, none)
  | "warn" | "warning" => (3, none)
  | "error" => (4, none)
  | "fatal" => (5, none)
  | _ => (2, some ("invalid log level: " ++ level))

/-- `logger.LogFormat`. -/
inductive LogFormat
  | console
  | json
  deriving DecidableEq

/-- The `logger.Config` that `setupLogger` passes to `logger.New`. It sets neither the output nor
the time format, so `New` writes to standard output with its default time format. -/
structure LoggerConfig where
  level : LogLevel
  format : LogFormat
  useColors : Bool
  deriving DecidableEq

/-- `setupLogger(levelStr, formatStr)`: the configuration of the logger it creates, or its
error's text. -/
def setupLogger (toLower : String → String) (levelStr formatStr : String) :
    Except String LoggerConfig :=
  match parseLogLevel toLower levelStr with
  | (_, some err) => .error ("invalid log level: " ++ err)
  | (level, none) =>
    let new (format : LogFormat) : LoggerConfig := ⟨level, format, format == .console⟩
    if formatStr = "console" then .ok (new .console)
    else if formatStr = "json" then .ok (new .json)
    else .error ("invalid log format: " ++ formatStr)

/-- `strings.ToLower` on an ASCII string: its ASCII path lowers `A` to `Z` and keeps every other
character. -/
def LowersAscii (toLower : String → String) : Prop :=
  ∀ s : String, (∀ c ∈ s.data, c.toNat < 128) → toLower s = ⟨s.data.map Char.toLower⟩

/-- Each level's name in a log line parses back to that level. -/
theorem parseLogLevel_levelNames {toLower : String → String} (h : LowersAscii toLower)
    (level : LogLevel) (h0 : 0 ≤ level) (h5 : level ≤ 5) :
    parseLogLevel toLower (levelNames level) = (level, none) := by
  interval_cases level <;> rw [parseLogLevel, h _ (by decide)] <;> rfl

/-- The defaults pass `validate`, and `setupLogger` makes of them an `InfoLevel` console logger
with colours. -/
theorem setDefaults_valid (hostname : String) {toLower : String → String}
    (h : LowersAscii toLower) :
    validate (setDefaults hostname) = none ∧
      setupLogger toLower (setDefaults hostname).log.level (setDefaults hostname).log.format =
        .ok ⟨2, .console, true⟩ := by
  refine ⟨rfl, ?_⟩
  show setupLogger toLower "info" "console" = _
  rw [setupLogger, parseLogLevel, h _ (by decide)]
  rfl

end MatterServer.Config
