import CustomFields.Json.Decoder
import CustomFields.Settings.Address
import CustomFields.Store.Storage
import CustomFields.Text.Blank
import CustomFields.Validation.Engine

/-!
# Settings of the server

Where the server listens, what it stores in and how it validates. Settings may be written in any
combination; `check` says which of them a server can run with.
-/

namespace CustomFields

open Json (Decoder Tree)
open Settings (SocketAddress)

/-- The settings of a server, with their defaults. -/
structure Settings where
  host : String := "0.0.0.0"
  port : Nat := 8080
  storage : StorageKind := .default
  /-- Where a tree is kept. -/
  dataDir : String := "./data"
  logLevel : String := "info"
  logJson : Bool := false
  /-- Whether metrics are shown. -/
  metrics : Bool := true
  /-- The key of the custom fields in a record. -/
  containerKey : String := defaultContainerKey
  /-- How many compiled schemas are kept. -/
  cacheCapacity : Nat := SchemaCache.defaultCapacity
deriving DecidableEq, Repr

/-- Why a server cannot run with its settings. -/
inductive SettingsFault where
  | blankContainerKey
  | noCacheCapacity
  | badAddress (host : String) (port : Nat)
deriving DecidableEq, Repr

/-- Why there are no settings. -/
inductive SettingsError where
  | unreadable (path reason : String)
  | malformed (reason : String)
  | invalid (fault : SettingsFault)
deriving DecidableEq, Repr

/-- What is wrong with settings. -/
def SettingsFault.message : SettingsFault → String
  | .blankContainerKey => "container_key must not be empty"
  | .noCacheCapacity => "cache_capacity must be at least 1"
  | .badAddress host port =>
    "invalid listen address '" ++ host ++ ":" ++ toString port ++
      "': invalid socket address syntax"

/-- What is said where there are no settings. -/
def SettingsError.message : SettingsError → String
  | .unreadable path reason => "Failed to read config file '" ++ path ++ "': " ++ reason
  | .malformed reason => "Invalid config file: " ++ reason
  | .invalid fault => "Invalid configuration: " ++ fault.message

namespace Settings

/-- Where the server listens. -/
def socketAddress (s : Settings) : Except SettingsFault SocketAddress :=
  match SocketAddress.parse? (s.host ++ ":" ++ toString s.port) with
  | some a => return a
  | none => throw (.badAddress s.host s.port)

/-- Whether a server can run with the settings. -/
def check (s : Settings) : Except SettingsFault Unit := do
  if Text.isBlankText s.containerKey then throw .blankContainerKey
  if s.cacheCapacity = 0 then throw .noCacheCapacity
  let _ ← s.socketAddress

/-- The engine of a server. -/
def engine (s : Settings) : Engine :=
  ⟨.builtins, s.containerKey⟩

/-! ## Settings as documents -/

/-- Settings as they are shown. -/
def toJson (s : Settings) : Json.Value :=
  .object [("host", .string s.host), ("port", .nat s.port), ("storage", .string s.storage.name),
    ("data_dir", .string s.dataDir), ("log_level", .string s.logLevel),
    ("log_json", .bool s.logJson), ("metrics", .bool s.metrics),
    ("container_key", .string s.containerKey), ("cache_capacity", .nat s.cacheCapacity)]

/-- The path of a directory. -/
private def path : Decoder String
  | .string s => return s
  | t => t.mismatch "path string"

/-- Decodes settings; what is left out has its default. A kind of storage may be the only key of
an object whose content says nothing. -/
def decodeWith (saysNothing : Tree → Bool) : Decoder Settings := fun t => do
  let d : Settings := {}
  let kind := Decoder.oneOfWith saysNothing (StorageKind.all.map fun k => (k.name, k))
  let (host, port, storage, dataDir, logLevel, logJson, metrics, containerKey, cacheCapacity, ()) ←
    Decoder.record "ServerConfig"
      (.cons (.withDefault "host" .string d.host) <|
        .cons (.withDefault "port" (.natBelow UInt16.size "u16") d.port) <|
        .cons (.withDefault "storage" kind d.storage) <|
        .cons (.withDefault "data_dir" path d.dataDir) <|
        .cons (.withDefault "log_level" .string d.logLevel) <|
        .cons (.withDefault "log_json" .bool d.logJson) <|
        .cons (.withDefault "metrics" .bool d.metrics) <|
        .cons (.withDefault "container_key" .string d.containerKey) <|
        .cons (.withDefault "cache_capacity" .size d.cacheCapacity) .nil) t
  return { host, port, storage, dataDir, logLevel, logJson, metrics, containerKey, cacheCapacity }

/-- Settings, from a JSON document, where null may stand beside the name of a kind of storage. -/
def decode : Decoder Settings :=
  decodeWith fun | .null => true | _ => false

end Settings

end CustomFields
