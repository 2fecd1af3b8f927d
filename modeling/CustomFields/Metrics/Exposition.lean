import CustomFields.Decimal.Notation
import CustomFields.Metrics.Basic

/-!
# The text of metrics

Families stand in the order of their names, each with its help and its type in front; a family
without a series is left out. A sample is a line of a name, labels with quoted values, and a
number.
-/

namespace CustomFields.Metrics

/-- A character of a label value within quotes. -/
private def escapeLabel : Char → List Char
  | '\\' => ['\\', '\\']
  | '"' => ['\\', '"']
  | '\n' => ['\\', 'n']
  | c => [c]

/-- A line about one series. -/
def sample (name : String) (labels : List (String × String)) (value : String) : String :=
  let shown := labels.map fun (key, v) =>
    key ++ "=\"" ++ String.ofList (v.toList.flatMap escapeLabel) ++ "\""
  name ++ "\x7B" ++ ",".intercalate shown ++ "\x7D " ++ value

/-- A family: its lines, if it has a series. -/
def family (name help type : String) (samples : List String) : List String :=
  if samples.isEmpty then []
  else ("# HELP " ++ name ++ " " ++ help) :: ("# TYPE " ++ name ++ " " ++ type) :: samples

/-- The samples of counters, one for each series. -/
def counterSamples (name : String) (labelNames : List String) (s : Series Nat) : List String :=
  s.shown.map fun (values, n) => sample name (labelNames.zip values) (toString n)

/-- The samples of histograms: for each series one for each bound, the sum and the number. -/
def histogramSamples (name : String) (labelNames : List String) (s : Series Histogram) :
    List String :=
  s.shown.flatMap fun (values, h) =>
    let labels := labelNames.zip values
    let bucket (bound : String) (n : Nat) : String :=
      sample (name ++ "_bucket") (labels ++ [("le", bound)]) (toString n)
    List.zipWith bucket (Histogram.bounds.map Decimal.plain) h.within ++
      [bucket "+Inf" h.count, sample (name ++ "_sum") labels (Decimal.plain h.sum),
        sample (name ++ "_count") labels (toString h.count)]

/-- The name of the counters of writes of configs. -/
def configWritesName : String := "entity_config_config_writes_total"

/-- The name of the histograms of durations. -/
def durationsName : String := "entity_config_validation_duration_seconds"

/-- The name of the counters of issues. -/
def issuesName : String := "entity_config_validation_issues_total"

/-- The name of the counters of validations. -/
def validationsName : String := "entity_config_validation_requests_total"

/-- The families, in the order of their names. -/
def families (m : Metrics) : List (List String) :=
  [family configWritesName "Total number of entity config writes" "counter"
      (counterSamples configWritesName ["operation"] m.configWrites),
    family durationsName "Custom-data validation duration in seconds" "histogram"
      (histogramSamples durationsName ["entity_type"] m.durations),
    family issuesName "Total number of validation issues by kind" "counter"
      (counterSamples issuesName ["kind"] m.issues),
    family validationsName "Total number of custom-data validations" "counter"
      (counterSamples validationsName ["entity_type", "result"] m.validations)].filter (!·.isEmpty)

/-- All lines of metrics. -/
def lines (m : Metrics) : List String :=
  m.families.flatten

/-- The text of metrics, each line ended. -/
def text (m : Metrics) : String :=
  String.join (m.lines.map (· ++ "\n"))

end CustomFields.Metrics
