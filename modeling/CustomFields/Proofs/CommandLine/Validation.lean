import CustomFields.CommandLine.Run
import CustomFields.Proofs.Service.Trials

/-!
# Validating on the command line

A command reads files, which stay as they are, so its tasks follow each other among the same files.
The command that validates has an engine and a cache of its own; with a cache that has held nothing
its report is that of a trial without one, and its exit code tells whether the report has issues.

## Main definitions

* `CommandLine.Invocation.run`: the run of an invocation among the files of a directory

## Main results

* `CommandLine.Task.run_bind_ok`, `CommandLine.Task.run_bind_error`: a task that goes on with another
  one, and one that does not
* `CommandLine.Command.run_validate`: what the command that validates reports
* `CommandLine.Invocation.number_exit_run`: the exit code that it ends with
-/

namespace CustomFields

/-- A result is known by what an injection takes it to. -/
theorem eq_ok_of_map_eq_ok {ε α β : Type} {f : α → β} (hf : Function.Injective f)
    {r : Except ε α} {a : α} (h : r.map f = .ok (f a)) : r = .ok a := by
  cases r with
  | error err => cases h
  | ok b => exact congrArg Except.ok (hf (Except.ok.inj h))

namespace CommandLine

namespace Task

variable {α β : Type} {d : Directory}

/-- A task that has not failed goes on with another one among the same files. -/
theorem run_bind_ok {t : Task α} {f : α → Task β} {a : α} (h : t.run d = .ok a) :
    (t >>= f).run d = (f a).run d := by
  have hfiles : (Program.run Directory.serve (ExceptT.run t) d).2 = d :=
    Program.run_invariant (· = d) (fun _ _ hd => hd) _ rfl
  have hanswer : (Program.run Directory.serve (ExceptT.run t) d).1 = .ok a := h
  show (Program.run Directory.serve (ExceptT.run t >>= ExceptT.bindCont f) d).1 = _
  rw [Program.run_bind, hfiles, hanswer]
  rfl

/-- A task that has failed does not go on. -/
theorem run_bind_error {t : Task α} {f : α → Task β} {err : Error} (h : t.run d = .error err) :
    (t >>= f).run d = .error err := by
  have hanswer : (Program.run Directory.serve (ExceptT.run t) d).1 = .error err := h
  show (Program.run Directory.serve (ExceptT.run t >>= ExceptT.bindCont f) d).1 = _
  rw [Program.run_bind, hanswer]
  rfl

theorem run_ofExcept (r : Except Error α) : (ofExcept r : Task α).run d = r := by
  cases r <;> rfl

end Task

/-- An engine of its own reports what a trial without a cache does. -/
theorem validatePayload_eq_trial (schema : Schema) (payload : Json.Object)
    (containerKey : Option String) (today : Calendar.Date) :
    validatePayload schema payload containerKey today =
      ((⟨.builtins, containerKey.getD defaultContainerKey⟩ : Engine).trial (some schema) payload
        today).mapError .ofSchema := by
  have free : CollisionFree [schema] := by simp [CollisionFree]
  obtain ⟨-, hreport⟩ := Engine.dryRun_eq_trial ⟨.builtins, containerKey.getD defaultContainerKey⟩
    payload today free (SchemaCache.sound_new _ SchemaCache.defaultCapacity)
    (List.mem_singleton_self schema)
  exact congrArg (Except.mapError Error.ofSchema) hreport

/-- **What the command that validates reports** on a schema and a payload that it has read. -/
theorem Command.run_validate {schemaPath payloadPath : String} {d : Directory} {schema : Schema}
    {payload : Json.Object} (hschema : (readSchema schemaPath).run d = .ok schema)
    (hpayload : (readPayload payloadPath).run d = .ok payload) (containerKey : Option String)
    (format : OutputFormat) (e : Settings.Environment) (today : Calendar.Date) (duration : ℕ)
    {report : ValidationReport}
    (hreport : (⟨.builtins, containerKey.getD defaultContainerKey⟩ : Engine).trial (some schema)
      payload today = .ok report) :
    ((Command.validate schemaPath payloadPath containerKey format).task e today duration).run d =
      .ok (.report (.validation ⟨report, some duration⟩) format) := by
  have hvalidate : (ofExcept (validatePayload schema payload containerKey today) :
      Task ValidationReport).run d = .ok report := by
    rw [Task.run_ofExcept, validatePayload_eq_trial, hreport]
    rfl
  rw [task, Task.run_bind_ok hschema, Task.run_bind_ok hpayload, Task.run_bind_ok hvalidate]
  rfl

/-- The run of an invocation among the files of a directory. -/
def Invocation.run (i : Invocation) (e : Settings.Environment) (today : Calendar.Date)
    (duration : ℕ) (colored : Bool) (d : Directory) : RunResult :=
  i.finish colored ((i.command.task e today duration).run d)

/-- The exit code of a run that validates tells whether its report finds the payload valid. -/
theorem Invocation.number_exit_run {i : Invocation} {e : Settings.Environment}
    {today : Calendar.Date} {duration : ℕ} {d : Directory} {r : ValidationResult}
    {format : OutputFormat}
    (h : (i.command.task e today duration).run d = .ok (.report (.validation r) format))
    (colored : Bool) :
    (i.run e today duration colored d).exit.number = if r.report.valid then 0 else 1 := by
  rw [run, h]
  show (ExitCode.ofFindings (!r.report.valid) false).number = _
  cases r.report.valid <;> rfl

end CommandLine

end CustomFields
