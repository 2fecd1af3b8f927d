import CustomFields.Proofs.CommandLine.Validation
import CustomFields.Proofs.Json.Decoder
import CustomFields.Proofs.Json.Printer

/-!
# Where the settings of a server come from

A setting has the value of its flag, or else that of its variable, or else the one that the config
file says, or else its default. The settings that `serve` gathers are those, but they are gathered
only if the server could also listen without the flags: what the file and the environment say is
checked before the flags replace it. The other checks look at what no flag replaces.

## Main definitions

* `Settings.Setting`: a setting, and how its values are written in each layer
* `Settings.Setting.Has`: which layer settles the value of a setting
* `Settings.Layered`: each setting has its value from the layers
* `CommandLine.ConfigSays`: the members of the config file, if there is one

## Main results

* `Settings.layered_iff`: the layers settle all settings
* `CommandLine.serverSettings_layered`: which settings are gathered, and how that fails
* `CommandLine.serverSettings_overriddenHost`: a host that a flag replaces still counts
-/

namespace CustomFields

open Json (Decoder Field Fields Object Tree)

namespace Settings

/-! ## One setting -/

/-- A setting: its key in a file and what is written there for a value, the name of its variable
and how that is read, and its default. -/
structure Setting (α : Type) where
  key : String
  Writes : α → Json.Value → Prop
  variableName : String
  parse? : String → Option α
  default : α
  eq_of_writes : ∀ {a b v}, Writes a v → Writes b v → a = b

namespace Setting

/-- A setting that is a text. -/
def text (key variableName default : String) : Setting String where
  key := key
  Writes a v := v = .string a
  variableName := variableName
  parse? := some
  default := default
  eq_of_writes ha hb := Json.Value.string.inj (ha.symm.trans hb)

/-- A setting that is a truth value. -/
def truth (key variableName : String) (default : Bool) : Setting Bool where
  key := key
  Writes a v := v = .bool a
  variableName := variableName
  parse? := bool?
  default := default
  eq_of_writes ha hb := Json.Value.bool.inj (ha.symm.trans hb)

/-- A setting that is a natural number below a limit. -/
def number (key variableName : String) (limit default : ℕ) : Setting ℕ where
  key := key
  Writes n v := v = .nat n ∧ n < limit
  variableName := variableName
  parse? := Decimal.natBelow? limit
  default := default
  eq_of_writes ha hb := by
    have h := ha.1.symm.trans hb.1
    simpa [Json.Value.nat] using h

/-- The address to listen at. -/
def host : Setting String := text "host" "HOST" "0.0.0.0"
/-- The port to listen at. -/
def port : Setting ℕ := number "port" "PORT" UInt16.size 8080
/-- Where a tree is kept. -/
def dataDir : Setting String := text "data_dir" "DATA_DIR" "./data"
/-- How much is logged. -/
def logLevel : Setting String := text "log_level" "LOG_LEVEL" "info"
/-- Whether the log is of JSON lines. -/
def logJson : Setting Bool := truth "log_json" "LOG_JSON" false
/-- Whether there are metrics. -/
def metrics : Setting Bool := truth "metrics" "METRICS" true
/-- The key of the container in the paths of issues. -/
def containerKey : Setting String := text "container_key" "CONTAINER_KEY" "custom_data"
/-- How many compiled schemas are held. -/
def cacheCapacity : Setting ℕ := number "cache_capacity" "CACHE_CAPACITY" UInt64.size 256

/-- The kind of storage is written as its name, which may be the only key of a table with nothing
in it. -/
def storage : Setting StorageKind where
  key := "storage"
  Writes k v := v = .string k.name ∨
    ∃ content ∈ [Json.Value.array [], .object []], v = .object [(k.name, content)]
  variableName := "STORAGE"
  parse? text := (StorageKind.parse text).toOption
  default := .memory
  eq_of_writes {a b v} ha hb := by
    rcases ha with rfl | ⟨x, -, rfl⟩ <;> rcases hb with hb | ⟨y, -, hb⟩ <;>
      cases a <;> cases b <;> simp [StorageKind.name] at hb ⊢

section Values

variable {α : Type} (x : Setting α) (document : Object) (e : Environment)

/-- The variable of a setting is set, and its text without the blanks around it can be read. -/
def InEnvironment (a : α) : Prop :=
  ∃ s, Entries.get? (variableStart ++ x.variableName) e = some s ∧ x.parse? (Text.trim s) = some a

/-- What a file says of a setting, which has its default where nothing is written. -/
inductive InFile : α → Prop
  | written {a v} (hv : Entries.get? x.key document = some v) (ha : x.Writes a v) : InFile a
  | missing (hv : Entries.get? x.key document = none) : InFile x.default

/-- The value of a setting: that of its flag, else that of its variable if it can be read, and
else what the file says. -/
inductive Has (flag : Option α) : α → Prop
  | flag {a} (ha : flag = some a) : Has flag a
  | environment {a} (hflag : flag = none) (ha : x.InEnvironment e a) : Has flag a
  | file {a} (hflag : flag = none) (hnone : ∀ b, ¬ x.InEnvironment e b)
      (ha : x.InFile document a) : Has flag a

variable {x document e}

theorem inEnvironment_iff {a : α} :
    x.InEnvironment e a ↔ e.read? x.variableName x.parse? = some a :=
  Option.bind_eq_some_iff.symm

theorem InEnvironment.unique {a b : α} (ha : x.InEnvironment e a) (hb : x.InEnvironment e b) :
    a = b :=
  Option.some.inj ((inEnvironment_iff.1 ha).symm.trans (inEnvironment_iff.1 hb))

theorem InFile.unique {a b : α} (ha : x.InFile document a) (hb : x.InFile document b) : a = b := by
  cases ha with
  | written hv ha =>
    cases hb with
    | written hv' hb =>
      obtain rfl := Option.some.inj (hv.symm.trans hv')
      exact x.eq_of_writes ha hb
    | missing hv' => cases hv.symm.trans hv'
  | missing hv =>
    cases hb with
    | written hv' hb => cases hv.symm.trans hv'
    | missing _ => rfl

/-- **The layers settle the value of a setting.** -/
theorem Has.unique {flag : Option α} {a b : α} (ha : x.Has document e flag a)
    (hb : x.Has document e flag b) : a = b := by
  cases ha with
  | flag ha =>
    cases hb with
    | flag hb => exact Option.some.inj (ha.symm.trans hb)
    | environment hflag _ => cases ha.symm.trans hflag
    | file hflag _ _ => cases ha.symm.trans hflag
  | environment hflag ha =>
    cases hb with
    | flag hb => cases hb.symm.trans hflag
    | environment _ hb => exact ha.unique hb
    | file _ hnone _ => exact absurd ha (hnone _)
  | file hflag hnone ha =>
    cases hb with
    | flag hb => cases hb.symm.trans hflag
    | environment _ hb => exact absurd hb (hnone _)
    | file _ _ hb => exact ha.unique hb

/-- The value that a file leaves is replaced by what can be read of a variable, and that by a
flag. -/
theorem InFile.has {a : α} (ha : x.InFile document a) (flag : Option α) :
    x.Has document e flag (flag.getD ((e.read? x.variableName x.parse?).getD a)) := by
  cases flag with
  | some b => exact .flag rfl
  | none =>
    cases hread : e.read? x.variableName x.parse? with
    | some b => exact .environment rfl (inEnvironment_iff.2 hread)
    | none =>
      refine .file rfl (fun b hb => ?_) ha
      cases hread.symm.trans (inEnvironment_iff.1 hb)

/-- A field of a record with the key and the default of a setting is what the file says. -/
theorem inFile_of_takes {d : Decoder α} {a : α} (hn : (Entries.keys document).Nodup)
    (h : (Field.withDefault x.key d x.default).Takes (Tree.ofValue.goMembers document) a)
    (hd : ∀ v a, d (.ofValue v) = .ok a → x.Writes a v) : x.InFile document a := by
  rcases h with ⟨t, ht, ha⟩ | ⟨hnone, ha⟩
  · obtain ⟨k, v, hk, rfl, hmem⟩ := Json.Value.mem_ofValue_goMembers.1 ht
    obtain rfl := Option.some.inj hk
    exact .written ((Entries.get?_eq_some_iff hn).2 hmem) (hd v a ha)
  · obtain rfl := Option.some.inj ha
    refine .missing (Entries.get?_eq_none_iff.2 fun hkey => ?_)
    obtain ⟨⟨k, v⟩, hmem, rfl⟩ := List.mem_map.1 hkey
    exact hnone (.ofValue v) (Json.Value.mem_ofValue_goMembers.2 ⟨_, v, rfl, rfl, hmem⟩)

end Values

end Setting

/-! ## All settings -/

/-- Each setting has its value from the layers. -/
structure Layered (document : Object) (e : Environment) (f : Flags) (s : Settings) : Prop where
  host : Setting.host.Has document e f.host s.host
  port : Setting.port.Has document e f.port s.port
  storage : Setting.storage.Has document e f.storage s.storage
  dataDir : Setting.dataDir.Has document e f.dataDir s.dataDir
  logLevel : Setting.logLevel.Has document e none s.logLevel
  logJson : Setting.logJson.Has document e none s.logJson
  metrics : Setting.metrics.Has document e none s.metrics
  containerKey : Setting.containerKey.Has document e none s.containerKey
  cacheCapacity : Setting.cacheCapacity.Has document e none s.cacheCapacity

/-- Each setting is what the file says. -/
structure Written (document : Object) (s : Settings) : Prop where
  host : Setting.host.InFile document s.host
  port : Setting.port.InFile document s.port
  storage : Setting.storage.InFile document s.storage
  dataDir : Setting.dataDir.InFile document s.dataDir
  logLevel : Setting.logLevel.InFile document s.logLevel
  logJson : Setting.logJson.InFile document s.logJson
  metrics : Setting.metrics.InFile document s.metrics
  containerKey : Setting.containerKey.InFile document s.containerKey
  cacheCapacity : Setting.cacheCapacity.InFile document s.cacheCapacity

theorem Layered.unique {document : Object} {e : Environment} {f : Flags} {s s' : Settings}
    (h : Layered document e f s) (h' : Layered document e f s') : s = s' := by
  cases s
  cases s'
  simp only [Settings.mk.injEq]
  exact ⟨h.host.unique h'.host, h.port.unique h'.port, h.storage.unique h'.storage,
    h.dataDir.unique h'.dataDir, h.logLevel.unique h'.logLevel, h.logJson.unique h'.logJson,
    h.metrics.unique h'.metrics, h.containerKey.unique h'.containerKey,
    h.cacheCapacity.unique h'.cacheCapacity⟩

/-- **The layers settle all settings.** They are those of the file, replaced by the environment and
then by the flags. -/
theorem layered_iff {document : Object} {s : Settings} (hs : Written document s) (e : Environment)
    (f : Flags) (s' : Settings) :
    Layered document e f s' ↔ s' = (s.withEnvironment e).withFlags f := by
  have h : Layered document e f ((s.withEnvironment e).withFlags f) :=
    { host := hs.host.has f.host
      port := hs.port.has f.port
      storage := hs.storage.has f.storage
      dataDir := hs.dataDir.has f.dataDir
      logLevel := hs.logLevel.has none
      logJson := hs.logJson.has none
      metrics := hs.metrics.has none
      containerKey := hs.containerKey.has none
      cacheCapacity := hs.cacheCapacity.has none }
  refine ⟨fun h' => h'.unique h, ?_⟩
  rintro rfl
  exact h

theorem written_nil : Written [] {} where
  host := .missing rfl
  port := .missing rfl
  storage := .missing rfl
  dataDir := .missing rfl
  logLevel := .missing rfl
  logJson := .missing rfl
  metrics := .missing rfl
  containerKey := .missing rfl
  cacheCapacity := .missing rfl

/-! ## The file -/

theorem mismatch_ne_ok {α : Type} (t : Tree) (expected : String) (a : α) :
    t.mismatch expected ≠ .ok a := by
  intro h
  obtain ⟨found, -, h⟩ := Json.exists_of_bind_eq_ok h
  cases h

/-- A decoder that takes texts only reads what is written for a text. -/
theorem writes_of_string {key variableName default expected : String} {d : Decoder String}
    (hd : ∀ t, d t = match t with | .string s => .ok s | t => t.mismatch expected)
    (v : Json.Value) (a : String) (h : d (.ofValue v) = .ok a) :
    (Setting.text key variableName default).Writes a v := by
  rw [hd] at h
  cases v with
  | string b => exact congrArg Json.Value.string (Except.ok.inj h)
  | _ => exact absurd h (mismatch_ne_ok _ _ _)

theorem writes_of_bool {key variableName : String} {default : Bool} (v : Json.Value) (a : Bool)
    (h : Decoder.bool (.ofValue v) = .ok a) :
    (Setting.truth key variableName default).Writes a v := by
  cases v with
  | bool b => exact congrArg Json.Value.bool (Except.ok.inj h)
  | _ => exact absurd h (mismatch_ne_ok _ _ _)

theorem writes_of_natBelow {key variableName type : String} {limit default : ℕ} (v : Json.Value)
    (n : ℕ) (h : Decoder.natBelow limit type (.ofValue v) = .ok n) :
    (Setting.number key variableName limit default).Writes n v := by
  cases v with
  | number m =>
    cases m with
    | integer i =>
      simp only [Tree.ofValue, Decoder.natBelow] at h
      split at h
      · rename_i hi
        obtain rfl := Except.ok.inj h
        have hi' : (i.toNat : ℤ) = i := Int.toNat_of_nonneg hi.1
        exact ⟨congrArg (fun i => Json.Value.number (.integer i)) hi'.symm, by omega⟩
      · cases h
    | float x => exact absurd h (mismatch_ne_ok _ _ _)
  | _ => exact absurd h (mismatch_ne_ok _ _ _)

/-- The name of a kind of storage alone, or as the only key of an object, stands for the kind. -/
theorem writes_of_oneOfWith {saysNothing : Tree → Bool}
    (hnothing : ∀ v, saysNothing (.ofValue v) = true → v ∈ [Json.Value.array [], .object []])
    (v : Json.Value) (k : StorageKind)
    (h : Decoder.oneOfWith saysNothing (StorageKind.all.map fun k => (k.name, k)) (.ofValue v) =
      .ok k) :
    Setting.storage.Writes k v := by
  have hname {name : String} {k : StorageKind}
      (h : Decoder.oneOfWith saysNothing (StorageKind.all.map fun k => (k.name, k))
        (.string name) = .ok k) : name = k.name := by
    simp only [Decoder.oneOfWith] at h
    split at h
    · rename_i hk
      obtain rfl := Except.ok.inj h
      obtain ⟨k', -, heq⟩ := List.mem_map.1 (Entries.mem_of_get?_eq_some hk)
      obtain ⟨rfl, rfl⟩ := Prod.mk.inj heq
      rfl
    · cases h
  cases v with
  | string name => exact Or.inl (congrArg Json.Value.string (hname h))
  | object members =>
    match members with
    | [(name, content)] =>
      obtain ⟨k', hk, hrest⟩ := Json.exists_of_bind_eq_ok h
      obtain rfl := hname hk
      split at hrest
      · rename_i hcontent
        obtain rfl := Except.ok.inj hrest
        exact Or.inr ⟨content, hnothing content hcontent, rfl⟩
      · exact absurd hrest (mismatch_ne_ok _ _ _)
    | [] => cases h
    | _ :: _ :: _ => cases h
  -- anything else is refused, once what has been found there is named
  | _ =>
    obtain ⟨_, -, h⟩ := Json.exists_of_bind_eq_ok h
    cases h

theorem sorted_ofEntries (items : List (String × Toml.Item)) {members : Object}
    (hs : (Entries.keys members).Pairwise (· < ·)) :
    (Entries.keys (Toml.Item.toJson.ofEntries items members)).Pairwise (· < ·) := by
  induction items generalizing members with
  | nil => exact hs
  | cons item items ih => exact ih (Entries.sorted_put hs)

/-- The keys of a document stand in order. -/
theorem sorted_of_parse? {text : String} {document : Object}
    (h : Toml.parse? text = some (.object document)) :
    (Entries.keys document).Pairwise (· < ·) := by
  obtain ⟨lines, -, h⟩ := Option.bind_eq_some_iff.1 h
  obtain ⟨items, -, h⟩ := Option.bind_eq_some_iff.1 h
  obtain rfl := Json.Value.object.inj (Option.some.inj h)
  exact sorted_ofEntries items List.Pairwise.nil

/-- What is decoded from the document of a file is what the file says. -/
theorem written_of_ofToml {text : String} {document : Object} {s : Settings}
    (hparse : Toml.parse? text = some (.object document)) (hs : ofToml text = .ok s) :
    Written document s := by
  have hn : (Entries.keys document).Nodup := Entries.nodup_of_sorted (sorted_of_parse? hparse)
  -- the test of what says nothing has no name outside of its module
  have hdecode : ∃ saysNothing, decodeWith saysNothing (.ofValue (.object document)) = .ok s ∧
      ∀ v, saysNothing (.ofValue v) = true → v ∈ [Json.Value.array [], .object []] := by
    simp only [ofToml, hparse] at hs
    split at hs
    · rename_i hdecode
      obtain rfl := Except.ok.inj hs
      refine ⟨_, hdecode, fun v hv => ?_⟩
      cases v with
      | array vs =>
        cases vs with
        | nil => exact List.mem_cons_self
        | cons _ _ => cases hv
      | object members =>
        cases members with
        | nil => exact List.mem_cons_of_mem _ List.mem_cons_self
        | cons _ _ => cases hv
      | _ => cases hv
    · cases hs
  obtain ⟨saysNothing, hdecode, hnothing⟩ := hdecode
  obtain ⟨⟨host, port, storage, dataDir, logLevel, logJson, metrics, containerKey, cacheCapacity,
    ⟨⟩⟩, hrecord, hs⟩ := Json.exists_of_bind_eq_ok hdecode
  obtain rfl := Except.ok.inj hs
  obtain ⟨hhost, hport, hstorage, hdataDir, hlogLevel, hlogJson, hmetrics, hcontainerKey,
    hcacheCapacity, -⟩ :=
      Decoder.takes_of_record (by simp [Fields.names, Field.withDefault]) hrecord
  exact
    { host := Setting.inFile_of_takes hn hhost (writes_of_string fun t => by cases t <;> rfl)
      port := Setting.inFile_of_takes hn hport writes_of_natBelow
      storage := Setting.inFile_of_takes hn hstorage (writes_of_oneOfWith hnothing)
      dataDir := Setting.inFile_of_takes hn hdataDir (writes_of_string fun t => by cases t <;> rfl)
      logLevel := Setting.inFile_of_takes hn hlogLevel
        (writes_of_string fun t => by cases t <;> rfl)
      logJson := Setting.inFile_of_takes hn hlogJson writes_of_bool
      metrics := Setting.inFile_of_takes hn hmetrics writes_of_bool
      containerKey := Setting.inFile_of_takes hn hcontainerKey
        (writes_of_string fun t => by cases t <;> rfl)
      cacheCapacity := Setting.inFile_of_takes hn hcacheCapacity writes_of_natBelow }

/-! ## Checks -/

/-- The server can listen at its address. -/
def CanListen (s : Settings) : Prop :=
  ∃ a, s.socketAddress = .ok a

/-- What no flag replaces is checked apart from the address. -/
theorem check_eq_ok_iff {s : Settings} :
    s.check = .ok () ↔
      (Text.isBlankText s.containerKey = false ∧ s.cacheCapacity ≠ 0) ∧ s.CanListen := by
  unfold check CanListen
  cases Text.isBlankText s.containerKey with
  | true => exact iff_of_false (by rintro ⟨⟩) (by rintro ⟨⟨⟨⟩, -⟩, -⟩)
  | false =>
    by_cases hcapacity : s.cacheCapacity = 0
    · refine iff_of_false ?_ fun h => h.1.2 hcapacity
      rw [if_pos hcapacity]
      rintro ⟨⟩
    · rw [if_neg hcapacity]
      cases haddress : s.socketAddress with
      | ok a => exact iff_of_true rfl ⟨⟨rfl, hcapacity⟩, a, rfl⟩
      | error fault => exact iff_of_false (by rintro ⟨⟩) (by rintro ⟨-, a, ⟨⟩⟩)

/-- Where settings pass with flags, they only fail without them by their address. -/
theorem check_eq_ok_iff_canListen {s : Settings} {f : Flags}
    (h : (s.withFlags f).check = .ok ()) : s.check = .ok () ↔ s.CanListen :=
  check_eq_ok_iff.trans (and_iff_right (check_eq_ok_iff.1 h).1)

/-- Flags that do not name the address leave what is checked. -/
theorem check_withFlags {f : Flags} (hhost : f.host = none) (hport : f.port = none)
    (s : Settings) : (s.withFlags f).check = s.check := by
  simp only [check, socketAddress, withFlags, hhost, hport, Option.getD_none]

/-- The settings are checked without the flags, and once more with them. -/
theorem resolve_eq {file : Option File} {s : Settings} (hs : ofFile file = .ok s)
    (e : Environment) (f : Flags) :
    resolve file e f = Except.mapError .invalid (do
      (s.withEnvironment e).check
      ((s.withEnvironment e).withFlags f).check
      return (s.withEnvironment e).withFlags f) := by
  have hchecked (s : Settings) :
      checked s = Except.mapError .invalid (do s.check; return s) := by
    rw [checked]
    cases s.check <;> rfl
  have hload : load file e = checked (s.withEnvironment e) := by
    rw [load, hs]
    rfl
  rw [resolve, hload, hchecked]
  cases (s.withEnvironment e).check with
  | error fault => rfl
  | ok _ => exact hchecked _

theorem resolve_eq_ok_iff {file : Option File} {s : Settings} (hs : ofFile file = .ok s)
    {e : Environment} {f : Flags} {s' : Settings} :
    resolve file e f = .ok s' ↔ s' = (s.withEnvironment e).withFlags f ∧
      (s.withEnvironment e).check = .ok () ∧
      ((s.withEnvironment e).withFlags f).check = .ok () := by
  rw [resolve_eq hs]
  cases (s.withEnvironment e).check with
  | error fault => exact iff_of_false (by rintro ⟨⟩) (by rintro ⟨-, ⟨⟩, -⟩)
  | ok _ =>
    cases ((s.withEnvironment e).withFlags f).check with
    | error fault => exact iff_of_false (by rintro ⟨⟩) (by rintro ⟨-, -, ⟨⟩⟩)
    | ok _ => exact ⟨fun h => ⟨(Except.ok.inj h).symm, rfl, rfl⟩, fun h => congrArg _ h.1.symm⟩

theorem resolve_eq_error_iff {file : Option File} {s : Settings} (hs : ofFile file = .ok s)
    {e : Environment} {f : Flags} {err : SettingsError} :
    resolve file e f = .error err ↔ ∃ fault, err = .invalid fault ∧
      ((s.withEnvironment e).check = .error fault ∨ (s.withEnvironment e).check = .ok () ∧
        ((s.withEnvironment e).withFlags f).check = .error fault) := by
  rw [resolve_eq hs]
  cases (s.withEnvironment e).check with
  | error fault =>
    constructor
    · rintro ⟨⟩
      exact ⟨fault, rfl, Or.inl rfl⟩
    · rintro ⟨_, rfl, h | ⟨h, -⟩⟩ <;> cases h
      rfl
  | ok _ =>
    cases ((s.withEnvironment e).withFlags f).check with
    | error fault =>
      constructor
      · rintro ⟨⟩
        exact ⟨fault, rfl, Or.inr ⟨rfl, rfl⟩⟩
      · rintro ⟨_, rfl, h | ⟨-, h⟩⟩ <;> cases h
        rfl
    | ok _ =>
      refine iff_of_false (by rintro ⟨⟩) ?_
      rintro ⟨_, -, h | ⟨-, h⟩⟩ <;> cases h

end Settings

/-! ## The command -/

namespace CommandLine

open Settings (Environment Flags Layered)

/-- The members of the document in the config file. No file has been asked for, or it can be read
as settings. -/
inductive ConfigSays (d : Directory) : Option String → Object → Prop
  | none : ConfigSays d none []
  | file {path text : String} {document : Object} {s : Settings} (hread : d.read path = .ok text)
      (hparse : Toml.parse? text = some (.object document)) (hs : Settings.ofToml text = .ok s) :
      ConfigSays d (some path) document

/-- The file is read once, and the layers are put together from its text. -/
theorem exists_run_serverSettings {d : Directory} {config : Option String} {document : Object}
    (h : ConfigSays d config document) (e : Environment) (f : Flags) :
    ∃ file s, Settings.ofFile file = .ok s ∧ Settings.Written document s ∧
      (serverSettings config e f).run d = (Settings.resolve file e f).mapError .ofSettings := by
  cases h with
  | none =>
    refine ⟨none, {}, rfl, Settings.written_nil, ?_⟩
    rw [serverSettings, Task.run_bind_ok (a := none) rfl, Task.run_ofExcept]
  | @file path text _ s hread hparse hs =>
    refine ⟨some ⟨path, .ok text⟩, s, hs, Settings.written_of_ofToml hparse hs, ?_⟩
    have hfile : (Task.read path).run d = .ok (.ok text) := congrArg Except.ok hread
    exact (Task.run_bind_ok hfile).trans (Task.run_ofExcept _)

/-- **Which settings are gathered.** Let the config file, if one has been asked for, be a document
of settings. The layers settle all settings, with the flags and without them. Those with the flags
are gathered if they pass the check and the server could also listen without the flags; else the
input is invalid, by what is found without the flags, or by what is found with them if the settings
pass without. So values that are replaced, and variables that cannot be read, neither show in the
settings nor fail them, but for an address that flags replace; where no flag names the address, the
check without the flags is that with them. -/
theorem serverSettings_layered {d : Directory} {config : Option String} {document : Object}
    (hconfig : ConfigSays d config document) (e : Environment) (f : Flags) :
    ∃ s s₀, (∀ s', Layered document e f s' ↔ s' = s) ∧
      (∀ s', Layered document e {} s' ↔ s' = s₀) ∧
      (∀ s', (serverSettings config e f).run d = .ok s' ↔
        s' = s ∧ s.check = .ok () ∧ s₀.CanListen) ∧
      (∀ err, (serverSettings config e f).run d = .error err ↔
        ∃ fault : SettingsFault,
          err = ⟨.invalidInput, "Invalid configuration: " ++ fault.message⟩ ∧
          (s₀.check = .error fault ∨ s₀.check = .ok () ∧ s.check = .error fault)) ∧
      (f.host = none → f.port = none → s₀.check = s.check) := by
  obtain ⟨file, s₁, hs, hwritten, hrun⟩ := exists_run_serverSettings hconfig e f
  refine ⟨(s₁.withEnvironment e).withFlags f, s₁.withEnvironment e,
    Settings.layered_iff hwritten e f, Settings.layered_iff hwritten e {}, ?_, ?_,
    fun hhost hport => (Settings.check_withFlags hhost hport _).symm⟩
  · intro s'
    rw [hrun, mapError_eq_ok_iff, Settings.resolve_eq_ok_iff hs]
    refine and_congr_right fun _ => and_comm.trans (and_congr_right fun hcheck => ?_)
    exact Settings.check_eq_ok_iff_canListen hcheck
  · intro err
    rw [hrun, mapError_eq_error_iff]
    simp only [Settings.resolve_eq_error_iff hs]
    constructor
    · rintro ⟨_, ⟨fault, rfl, hfault⟩, rfl⟩
      exact ⟨fault, rfl, hfault⟩
    · rintro ⟨fault, rfl, hfault⟩
      exact ⟨_, ⟨fault, rfl, hfault⟩, rfl⟩

/-- The text of a config file with the name of a host, where an address is asked for. -/
def namedHostText : String :=
  "host = \"localhost\"\nport = 9090\n"

/-- A directory with settings that name a host. -/
def namedHostFiles : Directory where
  files := [("c.toml", namedHostText.toUTF8.toList)]

/-- The members of its document. -/
def namedHostMembers : Object :=
  [("host", .string "localhost"), ("port", .nat 9090)]

/-- The settings with an address in the place of the name. -/
def addressSettings : Settings := { host := "127.0.0.1", port := 9090 }

theorem parse?_namedHostText : Toml.parse? namedHostText = some (.object namedHostMembers) :=
  Option.map_injective Json.Value.compact_injective (by decide +kernel)

theorem ofToml_namedHostText :
    Settings.ofToml namedHostText = .ok { host := "localhost", port := 9090 } := by
  decide +kernel

theorem configSays_namedHostFiles : ConfigSays namedHostFiles (some "c.toml") namedHostMembers :=
  .file (by decide +kernel) parse?_namedHostText ofToml_namedHostText

theorem layered_addressSettings {e : Environment} {f : Flags}
    (h : (({ host := "localhost", port := 9090 } : Settings).withEnvironment e).withFlags f =
      addressSettings) : Layered namedHostMembers e f addressSettings :=
  (Settings.layered_iff (Settings.written_of_ofToml parse?_namedHostText ofToml_namedHostText) e f
    addressSettings).2 h.symm

/-- A variable gives the address, and another one a port that cannot be read. -/
theorem serverSettings_layered_namedHostFiles :
    ConfigSays namedHostFiles (some "c.toml") namedHostMembers ∧
      (serverSettings (some "c.toml")
        [("ENTITY_CONFIG_HOST", " 127.0.0.1 "), ("ENTITY_CONFIG_PORT", "70000")] {}).run
          namedHostFiles = .ok addressSettings := by
  refine ⟨configSays_namedHostFiles, ?_⟩
  obtain ⟨s, s₀, hs, hs₀, hok, -, -⟩ := serverSettings_layered configSays_namedHostFiles
    [("ENTITY_CONFIG_HOST", " 127.0.0.1 "), ("ENTITY_CONFIG_PORT", "70000")] {}
  have hlayered : Layered namedHostMembers
      [("ENTITY_CONFIG_HOST", " 127.0.0.1 "), ("ENTITY_CONFIG_PORT", "70000")] {}
      addressSettings := layered_addressSettings (by decide +kernel)
  obtain rfl := (hs _).1 hlayered
  obtain rfl := (hs₀ _).1 hlayered
  exact (hok _).2 ⟨rfl, by decide +kernel, ⟨.v4 127 0 0 1, 9090⟩, by decide +kernel⟩

/-- **A flag gives the address, and yet the settings fail by the host in the file.** -/
theorem serverSettings_overriddenHost :
    ConfigSays namedHostFiles (some "c.toml") namedHostMembers ∧
      Layered namedHostMembers [] { host := some "127.0.0.1" } addressSettings ∧
      addressSettings.check = .ok () ∧
      (serverSettings (some "c.toml") [] { host := some "127.0.0.1" }).run namedHostFiles =
        .error ⟨.invalidInput, "Invalid configuration: invalid listen address 'localhost:9090': " ++
          "invalid socket address syntax"⟩ :=
  ⟨configSays_namedHostFiles, layered_addressSettings (by decide +kernel), by decide +kernel,
    by decide +kernel⟩

end CommandLine

end CustomFields
