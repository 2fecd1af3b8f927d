import CustomFields.Proofs.CommandLine.Validation
import CustomFields.Proofs.Json.Printer
import CustomFields.Proofs.Schema.Faults
import CustomFields.Proofs.Store.RoundTrip
import CustomFields.Proofs.Validation.UnknownRules

/-!
# Checking a schema before values are validated by it

One command checks a schema that no values are given for: it compiles the schema, and looks its
references up among the rules that are built in. Another one validates values by the schema: its
engine compiles the schema too, and looks up a rule where a value is well formed. What the check
finds in a schema is what every validation by it meets.

## Main results

* `CommandLine.checkSchema_foretells`: what is found in a schema is met by each validation
* `CommandLine.check_foretells_validate`: what a check tells of every validation
-/

namespace CustomFields.CommandLine

variable {d : Directory} {schemaPath payloadPath : String} {schema : Schema}
  {payload : Json.Object}

/-! ## What is found in a schema -/

/-- The names that a check reports are those that the rules that are built in do not have. -/
theorem misses_checkSchema (schema : Schema) :
    schema.Misses .builtins (checkSchema schema).unknownRules := by
  rw [Schema.misses_iff, checkSchema]
  cases CompiledSchema.compile schema <;> rfl

/-- **What is found in a schema is met by each validation.** A fault is what the validation fails
with; where there is none, it has a report, with issues about the rules that there are not. -/
theorem checkSchema_foretells (schema : Schema) (payload : Json.Object) (key : Option String)
    (today : Calendar.Date) :
    (∃ text, (checkSchema schema).error = some text ∧ ¬ schema.IsLawful ∧
      validatePayload schema payload key today = .error ⟨.schema, text⟩) ∨
    ((checkSchema schema).error = none ∧ schema.IsLawful ∧
      ∃ report, validatePayload schema payload key today = .ok report ∧
        ((checkSchema schema).unknownRules = [] →
          ∀ issue ∈ report.issues, issue.kind ≠ .unknownRuleError) ∧
        ∀ f ∈ schema.fields, ∀ v, Json.Holds payload f.name v → f.Accepts v →
          report.issues.filter (fun issue =>
              issue.fieldPath = [key.getD defaultContainerKey, f.name] ∧
                issue.kind = .unknownRuleError) =
            (f.rules.filter (·.action ∈ (checkSchema schema).unknownRules)).map
              ((⟨.builtins, key.getD defaultContainerKey⟩ : Engine).unknownIssue f.name) ∧
          ((∃ r ∈ f.rules, r.action ∈ (checkSchema schema).unknownRules) →
            report.valid = false)) := by
  have hmisses := misses_checkSchema schema
  rw [validatePayload_eq_trial, Engine.trial, Schema.isLawful_iff,
    ← CompiledSchema.exists_compile_iff]
  cases hcompile : CompiledSchema.compile schema with
  | error err =>
    have herror : (checkSchema schema).error = some err.message := by rw [checkSchema, hcompile]
    exact Or.inl ⟨err.message, herror, by rintro ⟨k, ⟨⟩⟩, rfl⟩
  | ok k =>
    have herror : (checkSchema schema).error = none := by rw [checkSchema, hcompile]
    refine Or.inr ⟨herror, ⟨k, rfl⟩, _, rfl, fun hnone => ?_, fun f hf v hv ha => ?_⟩
    · rw [hnone] at hmisses
      exact Engine.kind_ne_unknown_of_misses_nil hcompile hmisses
    · exact Engine.report_of_misses (e := ⟨.builtins, _⟩) hcompile hmisses hf hv ha

/-! ## The commands -/

theorem Command.run_check (hschema : (readSchema schemaPath).run d = .ok schema)
    (format : OutputFormat) (e : Settings.Environment) (today : Calendar.Date) (duration : ℕ) :
    ((Command.check schemaPath format).task e today duration).run d =
      .ok (.report (.schemaCheck (checkSchema schema)) format) := by
  rw [task, Task.run_bind_ok hschema]
  rfl

/-- The command that validates comes to what the validation comes to. -/
theorem Command.run_validate_eq_map (hschema : (readSchema schemaPath).run d = .ok schema)
    (hpayload : (readPayload payloadPath).run d = .ok payload) (key : Option String)
    (format : OutputFormat) (e : Settings.Environment) (today : Calendar.Date) (duration : ℕ) :
    ((Command.validate schemaPath payloadPath key format).task e today duration).run d =
      (validatePayload schema payload key today).map fun report =>
        .report (.validation ⟨report, some duration⟩) format := by
  have hvalidate := Task.run_ofExcept (d := d) (validatePayload schema payload key today)
  rw [task, Task.run_bind_ok hschema, Task.run_bind_ok hpayload]
  cases hreport : validatePayload schema payload key today with
  | error err =>
    rw [hreport] at hvalidate
    exact Task.run_bind_error hvalidate
  | ok report =>
    rw [hreport] at hvalidate
    exact Task.run_bind_ok hvalidate

/-! ## Exit codes -/

/-- A command that has failed does not end as one that has found something. -/
theorem ExitCode.number_ofError (err : Error) :
    (ofError err).number ≠ 0 ∧ (ofError err).number ≠ 2 := by
  rw [ofError]
  cases err.kind <;> decide

theorem Invocation.number_exit_run_check {i : Invocation} {e : Settings.Environment}
    {today : Calendar.Date} {duration : ℕ} {c : SchemaCheck} {format : OutputFormat}
    (h : (i.command.task e today duration).run d = .ok (.report (.schemaCheck c) format))
    (colored : Bool) :
    (i.run e today duration colored d).exit.number =
      if c.error.isSome then 5 else if c.unknownRules = [] then 0 else 2 := by
  rw [run, h]
  show (Report.exitCode (.schemaCheck c)).number = _
  rw [Report.exitCode]
  cases c.error.isSome with
  | true => rfl
  | false => cases c.unknownRules <;> rfl

/-- The exit code of a check tells a fault from missed names, and both from neither. -/
theorem Invocation.exit_run_check_cases {i : Invocation} {e : Settings.Environment}
    {today : Calendar.Date} {duration : ℕ} {c : SchemaCheck} {format : OutputFormat}
    (h : (i.command.task e today duration).run d = .ok (.report (.schemaCheck c) format))
    {colored : Bool} {code : ℕ} (hcode : (i.run e today duration colored d).exit.number = code) :
    (code = 5 ↔ c.error ≠ none) ∧ (code = 0 ↔ c.error = none ∧ c.unknownRules = []) ∧
      (code = 2 ↔ c.error = none ∧ c.unknownRules ≠ []) := by
  rw [number_exit_run_check h] at hcode
  subst hcode
  cases c.error with
  | some text => simp
  | none => cases c.unknownRules <;> simp

theorem Invocation.number_exit_run_error {i : Invocation} {e : Settings.Environment}
    {today : Calendar.Date} {duration : ℕ} {err : Error}
    (h : (i.command.task e today duration).run d = .error err) (colored : Bool) :
    (i.run e today duration colored d).exit.number = (ExitCode.ofError err).number := by
  rw [run, h]
  rfl

/-- **A check foretells every validation.** Let one command check a schema, and another one validate
by it a payload that is an object, on whatever day. One ends with the code of schema errors if and
only if the other does, and if there is a schema, the fault that the check reports is the one that
the validation fails with. Where the check ends with success, the validation has a report, without
an issue about a rule that is not registered. It ends with a warning if and only if the schema is
lawful and misses rules, and those it reports are all of them, each once, in the order of their
first use. Then each field with a value that it accepts has one such issue for each invocation of a
missed rule, and if there is one, the validation finds the payload invalid. -/
theorem check_foretells_validate (hpayload : (readPayload payloadPath).run d = .ok payload)
    {i j : Invocation} {key : Option String} {format format' : OutputFormat}
    (hi : i.command = .check schemaPath format)
    (hj : j.command = .validate schemaPath payloadPath key format')
    {e e' : Settings.Environment} {today today' : Calendar.Date} {duration duration' : ℕ}
    {colored colored' : Bool} {code exit : ℕ} {result : Except Error Outcome}
    (hcode : (i.run e today duration colored d).exit.number = code)
    (hexit : (j.run e' today' duration' colored' d).exit.number = exit)
    (hresult : (j.command.task e' today' duration').run d = result) :
    (code = 5 ↔ exit = 5) ∧
    (code = 0 → ∃ report,
      result = .ok (.report (.validation ⟨report, some duration'⟩) format') ∧
      ∀ issue ∈ report.issues, issue.kind ≠ .unknownRuleError) ∧
    (code = 2 → ∃ schema, (readSchema schemaPath).run d = .ok schema) ∧
    ∀ schema, (readSchema schemaPath).run d = .ok schema → ∃ c : SchemaCheck,
      (i.command.task e today duration).run d = .ok (.report (.schemaCheck c) format) ∧
      (∀ text, c.error = some text ↔ result = .error ⟨.schema, text⟩) ∧
      schema.Misses .builtins c.unknownRules ∧
      (code = 2 ↔ schema.IsLawful ∧ c.unknownRules ≠ []) ∧
      (code = 2 → ∀ f ∈ schema.fields, (∃ r ∈ f.rules, r.action ∈ c.unknownRules) →
        ∀ v, Json.Holds payload f.name v → f.Accepts v →
        exit = 1 ∧ ∃ report,
          result = .ok (.report (.validation ⟨report, some duration'⟩) format') ∧
          report.issues.filter (fun issue =>
              issue.fieldPath = [key.getD defaultContainerKey, f.name] ∧
                issue.kind = .unknownRuleError) =
            (f.rules.filter (·.action ∈ c.unknownRules)).map
              ((⟨.builtins, key.getD defaultContainerKey⟩ : Engine).unknownIssue f.name)) := by
  cases hschema : (readSchema schemaPath).run d with
  -- without a schema, both fail alike
  | error err =>
    have hcheck : (i.command.task e today duration).run d = .error err := by
      rw [hi]
      exact Task.run_bind_error hschema
    have hvalidate : (j.command.task e' today' duration').run d = .error err := by
      rw [hj]
      exact Task.run_bind_error hschema
    rw [Invocation.number_exit_run_error hcheck] at hcode
    rw [Invocation.number_exit_run_error hvalidate, hcode] at hexit
    obtain ⟨hzero, htwo⟩ := ExitCode.number_ofError err
    rw [hcode] at hzero htwo
    refine ⟨by rw [hexit], fun h => absurd h hzero, fun h => absurd h htwo, ?_⟩
    rintro schema ⟨⟩
  | ok schema =>
    have hcheck : (i.command.task e today duration).run d =
        .ok (.report (.schemaCheck (checkSchema schema)) format) := by
      rw [hi]
      exact Command.run_check hschema format e today duration
    have hvalidate := Command.run_validate_eq_map hschema hpayload key format' e' today' duration'
    rw [← hj, hresult] at hvalidate
    obtain ⟨hfive, hzero, htwo⟩ := Invocation.exit_run_check_cases hcheck hcode
    have hmisses := misses_checkSchema schema
    obtain ⟨text, herror, hfault, hfails⟩ | ⟨herror, hlawful, report, hreport, hnone, hfields⟩ :=
      checkSchema_foretells schema payload key today'
    · rw [hfails] at hvalidate
      rw [Invocation.number_exit_run_error (hresult.trans hvalidate)] at hexit
      obtain rfl := hfive.2 (herror.trans_ne (Option.some_ne_none text))
      refine ⟨iff_of_true rfl hexit.symm, by rintro ⟨⟩, by rintro ⟨⟩, ?_⟩
      rintro _ ⟨⟩
      refine ⟨checkSchema schema, hcheck, fun text' => ?_, hmisses,
        iff_of_false (by rintro ⟨⟩) fun h => hfault h.1, by rintro ⟨⟩⟩
      rw [herror, hvalidate]
      simp [Except.map]
    · rw [hreport] at hvalidate
      rw [Invocation.number_exit_run (hresult.trans hvalidate)] at hexit
      have hexit5 : exit ≠ 5 := by
        rw [← hexit]
        split <;> decide
      refine ⟨iff_of_false (fun h => hfive.1 h herror) hexit5,
        fun h => ⟨report, hvalidate, hnone (hzero.1 h).2⟩, fun _ => ⟨schema, rfl⟩, ?_⟩
      rintro _ ⟨⟩
      refine ⟨checkSchema schema, hcheck, fun text => ?_, hmisses,
        htwo.trans (and_congr_left' (iff_of_true herror hlawful)), ?_⟩
      · rw [herror, hvalidate]
        simp [Except.map]
      · rintro - f hf hmem v hv ha
        obtain ⟨hissues, hvalid⟩ := hfields f hf v hv ha
        exact ⟨by rw [← hexit, hvalid hmem, if_neg Bool.false_ne_true], report, hvalidate, hissues⟩

/-! ## Files -/

/-- A file in a directory is read by its name. -/
theorem Directory.read_of_get? {name text : String} (hroot : name.startsWith "/" = false)
    (hname : ((Text.split '/' name.toList).map String.ofList).dropWhile
      (fun part => !(part != "" && part != ".")) = [name])
    (hfile : Entries.get? name d.files = some (Utf8.encode text)) : d.read name = .ok text := by
  simp only [Directory.read, hroot, hname, hfile, Bool.false_eq_true, if_false, List.isEmpty_nil,
    if_true, decodeFile, Utf8.decode?_encode]
  rfl

/-- A schema is read from a file with its compact text. -/
theorem readSchema_of_read (hs : schema.HasPlainRules)
    (hnesting : schema.toJson.nesting ≤ Json.Tree.maxNesting)
    (hformat : Entries.get? (DocumentFormat.extension schemaPath) DocumentFormat.extensions =
      some .json)
    (hread : d.read schemaPath = .ok schema.toJson.compact) :
    (readSchema schemaPath).run d = .ok schema := by
  have hrestores : Schema.decode.Restores schema.toJson.reread schema := by
    rw [hs.numbersKept.reread_eq]
    exact Schema.restores hs.hasOrderedRules
  obtain ⟨v, hparse, hv⟩ := hrestores.eq_ok_of_parse? hs.numbersKept.numbersProper hnesting
  have htext : (Task.read schemaPath).run d = .ok (.ok schema.toJson.compact) :=
    congrArg Except.ok hread
  have hdocument : readDocument schemaPath schema.toJson.compact = .ok v := by
    simp only [readDocument, hformat, DocumentFormat.read?, hparse]
    rfl
  have hfile : (readDocumentFile "schema" schemaPath).run d = .ok v := by
    rw [readDocumentFile, Task.run_bind_ok htext]
    simp only [hdocument]
    exact Task.run_ofExcept _
  rw [readSchema, Task.run_bind_ok hfile]
  simp only [Schema.ofJson, hv]
  rfl

/-- A schema with a field that invokes a rule that there is not, twice, and one that there is. -/
def shoutSchema : Schema :=
  ⟨[(FieldDefinition.new "code" "Code" .string).withRule (.new "shout" "Too loud")
    |>.withRule (.new Rule.Numeric.name "Too small") |>.withRule (.new "shout" "Still too loud")]⟩

/-- The schema in one file, and in another one a value that its field accepts. -/
def shoutFiles : Directory where
  files :=
    [("schema.json", Utf8.encode shoutSchema.toJson.compact),
      ("payload.json", Utf8.encode (Json.Value.object [("code", .string "A1")]).compact)]

/-- A command, with what the command line says by default. -/
def shoutInvocation (c : Command) : Invocation where
  verbosity := 0
  quiet := false
  command := c

theorem hasPlainRules_shoutSchema : shoutSchema.HasPlainRules := by
  intro f hf r hr
  obtain rfl := List.mem_singleton.1 hf
  have hparams : r.params = [] := by
    simp only [FieldDefinition.withRule, FieldDefinition.new, List.nil_append, List.cons_append,
      List.mem_cons, List.not_mem_nil, or_false] at hr
    rcases hr with rfl | rfl | rfl <;> rfl
  rw [hparams]
  exact ⟨.object .nil fun _ _ h => absurd h List.not_mem_nil, .nil⟩

theorem readSchema_shoutFiles : (readSchema "schema.json").run shoutFiles = .ok shoutSchema :=
  readSchema_of_read hasPlainRules_shoutSchema (by decide +kernel) (by decide +kernel)
    (Directory.read_of_get? (by decide +kernel) (by decide +kernel) rfl)

theorem readPayload_shoutFiles :
    (readPayload "payload.json").run shoutFiles = .ok [("code", .string "A1")] :=
  eq_ok_of_map_eq_ok (f := fun members => (Json.Value.object members).compact)
    (Json.Value.compact_injective.comp fun _ _ h => Json.Value.object.inj h) (by decide +kernel)

/-- The check warns of the rule, and each of its two invocations has an issue. -/
theorem check_foretells_validate_shoutFiles :
    (readPayload "payload.json").run shoutFiles = .ok [("code", .string "A1")] ∧
      ((shoutInvocation (.check "schema.json" .table)).run [] ⟨2024, 2, 29⟩ 0 false
        shoutFiles).exit.number = 2 ∧
      ((shoutInvocation (.validate "schema.json" "payload.json" none .table)).run []
        ⟨2024, 2, 29⟩ 0 false shoutFiles).exit.number = 1 ∧
      ∃ report, ((Command.validate "schema.json" "payload.json" none .table).task [] ⟨2024, 2, 29⟩
          0).run shoutFiles = .ok (.report (.validation ⟨report, some 0⟩) .table) ∧
        (report.issues.filter fun issue => issue.fieldPath = ["custom_data", "code"] ∧
          issue.kind = .unknownRuleError).length = 2 := by
  have hcode : ((shoutInvocation (.check "schema.json" .table)).run [] ⟨2024, 2, 29⟩ 0 false
      shoutFiles).exit.number = _ := rfl
  have hexit : ((shoutInvocation (.validate "schema.json" "payload.json" none .table)).run []
      ⟨2024, 2, 29⟩ 0 false shoutFiles).exit.number = _ := rfl
  obtain ⟨-, -, -, hschema⟩ :=
    check_foretells_validate readPayload_shoutFiles rfl rfl hcode hexit rfl
  obtain ⟨c, -, -, hmisses, htwo, hfields⟩ := hschema shoutSchema readSchema_shoutFiles
  have hshout : "shout" ∈ c.unknownRules := (hmisses.mem_iff _).2
    ⟨by decide, Rule.Registry.contains_eq_true_iff.not.1 (by decide)⟩
  have hnumeric : Rule.Numeric.name ∉ c.unknownRules := fun h =>
    ((hmisses.mem_iff _).1 h).2 (Rule.Registry.contains_eq_true_iff.1 (by decide))
  have hlawful : shoutSchema.IsLawful := Schema.isLawful_iff.2 (by decide +kernel)
  have hwarns := htwo.2 ⟨hlawful, List.ne_nil_of_mem hshout⟩
  obtain ⟨hinvalid, report, hreport, hissues⟩ := hfields hwarns _ (List.mem_singleton_self _)
    ⟨_, List.mem_cons_self, hshout⟩ (.string "A1") ⟨rfl, by rintro ⟨⟩⟩
    ⟨"A1", rfl, by rintro _ ⟨⟩⟩
  refine ⟨readPayload_shoutFiles, hwarns, hinvalid, report, hreport, ?_⟩
  have hlength := congrArg List.length hissues
  rw [List.length_map] at hlength
  refine hlength.trans ?_
  simp [FieldDefinition.withRule, FieldDefinition.new, RuleInvocation.new, hshout, hnumeric]

end CustomFields.CommandLine
