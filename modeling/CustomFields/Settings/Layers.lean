import CustomFields.Decimal.Numeral
import CustomFields.Settings.Basic
import CustomFields.Toml.Reader

/-!
# Layers of settings

Settings come from four layers: the defaults, a file, the environment, and flags. Each layer
replaces what it names. A value of the environment that cannot be read is passed over. The
settings are checked before the flags are applied, and again after that.
-/

namespace CustomFields.Settings

/-! ## The file -/

/-- Content that stands for a name alone: an array or a table without anything in it. -/
private def isEmptyContainer : Json.Tree → Bool
  | .array [] _ => true
  | .object [] _ => true
  | _ => false

/-- The settings of a file. -/
def ofToml (text : String) : Except SettingsError Settings :=
  match Toml.parse? text with
  | none => throw (.malformed "not a TOML document")
  | some v =>
    match decodeWith isEmptyContainer (.ofValue v) with
    | .ok s => return s
    | .error e => throw (.malformed e.message)

/-! ## The environment -/

/-- Variables with their values. -/
abbrev Environment := List (String × String)

/-- What the names of all variables start with. -/
def variableStart : String := "ENTITY_CONFIG_"

/-- The names of variables that are looked at, without their start. -/
def variableNames : List String :=
  ["FILE", "HOST", "PORT", "STORAGE", "DATA_DIR", "LOG_LEVEL", "LOG_JSON", "METRICS",
    "CONTAINER_KEY", "CACHE_CAPACITY"]

/-- The value of a variable, without the blanks around it, if it can be read. -/
def Environment.read? {α : Type} (e : Environment) (name : String) (parse? : String → Option α) :
    Option α := do
  parse? (Text.trim (← Entries.get? (variableStart ++ name) e))

/-- Reads a truth value. -/
def bool? (s : String) : Option Bool :=
  if s = "true" then some true else if s = "false" then some false else none

/-- Replaces what the environment names. -/
def withEnvironment (s : Settings) (e : Environment) : Settings where
  host := (e.read? "HOST" some).getD s.host
  port := (e.read? "PORT" (Decimal.natBelow? UInt16.size)).getD s.port
  storage := (e.read? "STORAGE" fun v => (StorageKind.parse v).toOption).getD s.storage
  dataDir := (e.read? "DATA_DIR" some).getD s.dataDir
  logLevel := (e.read? "LOG_LEVEL" some).getD s.logLevel
  logJson := (e.read? "LOG_JSON" bool?).getD s.logJson
  metrics := (e.read? "METRICS" bool?).getD s.metrics
  containerKey := (e.read? "CONTAINER_KEY" some).getD s.containerKey
  cacheCapacity := (e.read? "CACHE_CAPACITY" (Decimal.natBelow? UInt64.size)).getD s.cacheCapacity

/-! ## Flags -/

/-- What the command line says about settings. -/
structure Flags where
  host : Option String := none
  port : Option Nat := none
  storage : Option StorageKind := none
  dataDir : Option String := none
deriving DecidableEq, Repr

/-- Replaces what the flags name. -/
def withFlags (s : Settings) (f : Flags) : Settings :=
  { s with
    host := f.host.getD s.host
    port := f.port.getD s.port
    storage := f.storage.getD s.storage
    dataDir := f.dataDir.getD s.dataDir }

/-! ## All layers -/

/-- A file that has been asked for: its path, and its text or why it cannot be read. -/
structure File where
  path : String
  content : Except String String

/-- The settings of a file, or the defaults if there is none. -/
def ofFile : Option File → Except SettingsError Settings
  | none => return {}
  | some file =>
    match file.content with
    | .ok text => ofToml text
    | .error reason => throw (.unreadable file.path reason)

/-- Passes settings that can be run with. -/
def checked (s : Settings) : Except SettingsError Settings :=
  match s.check with
  | .ok () => return s
  | .error fault => throw (.invalid fault)

/-- The settings of the file and the environment. -/
def load (file : Option File) (e : Environment) : Except SettingsError Settings := do
  checked ((← ofFile file).withEnvironment e)

/-- The settings of all layers. -/
def resolve (file : Option File) (e : Environment) (f : Flags) : Except SettingsError Settings := do
  checked ((← load file e).withFlags f)

end CustomFields.Settings
