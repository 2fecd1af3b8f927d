import CustomFields.Data.Entries
import CustomFields.Decimal.Binary64

/-!
# Metrics

Counters of validations, of their issues and of writes of configs, and a histogram of how long
validations took. Each family has a series for every combination of label values that was seen. The
series of a family are kept by a digest of their label values, and so series whose label values have
the same digest are one; where they are shown, they stand in the order of their label values.
-/

namespace CustomFields

/-! ## Series -/

/-- Where the series with given label values is kept. -/
abbrev Placement := List String → UInt64

/-- The digest FNV-1a of a row of bytes. -/
def fnv (bytes : List UInt8) : UInt64 :=
  bytes.foldl (fun digest b => (digest ^^^ b.toUInt64) * 0x100000001b3) 0xcbf29ce484222325

/-- The digest of label values, which are not kept apart from each other. -/
def Placement.digest : Placement := fun labels =>
  fnv (labels.flatMap (·.toUTF8.toList))

/-- Label values that give the same text are at one place. -/
example : Placement.digest ["plug", "invalid"] = Placement.digest ["plugin", "valid"] := by
  decide +kernel

/-- The series of a family by their places, each with the label values that it has been made for, in
no order that means anything. -/
abbrev Series (α : Type) := List (UInt64 × List String × α)

namespace Series

variable {α : Type}

/-- Changes the series at the place of the given label values, which starts from a first state. -/
def update (place : Placement) (labels : List String) (first : α) (change : α → α) (s : Series α) :
    Series α :=
  let (shown, state) := (Entries.get? (place labels) s).getD (labels, first)
  Entries.assign (place labels) (shown, change state) s

/-- Counts one more. -/
def increment (place : Placement) (labels : List String) (s : Series Nat) : Series Nat :=
  s.update place labels 0 (· + 1)

/-- The series as they are shown: by their label values, and in the order of these. -/
def shown (s : Series α) : List (List String × α) :=
  (s.map Prod.snd).mergeSort fun a b => !decide (b.1 < a.1)

end Series

/-! ## Histograms -/

/-- How many observations did not exceed each bound, and their number and sum. -/
structure Histogram where
  /-- The counts for the bounds in their order. -/
  within : List Nat
  count : Nat
  sum : Binary64
deriving DecidableEq, Repr

namespace Histogram

/-- The bounds of durations in seconds. -/
def bounds : List Binary64 :=
  [.ofDecimal false 1 (-3), .ofDecimal false 5 (-3), .ofDecimal false 1 (-2),
    .ofDecimal false 25 (-3), .ofDecimal false 5 (-2), .ofDecimal false 1 (-1),
    .ofDecimal false 25 (-2), .ofDecimal false 5 (-1), .ofInt 1, .ofDecimal false 25 (-1), .ofInt 5]

/-- A histogram without observations. -/
def empty : Histogram := ⟨bounds.map fun _ => 0, 0, .zero⟩

/-- Adds an observation. -/
def observe (h : Histogram) (x : Binary64) : Histogram :=
  { within := List.zipWith (fun n bound => if x.le bound then n + 1 else n) h.within bounds
    count := h.count + 1
    sum := h.sum.add x }

end Histogram

/-! ## Families -/

/-- Something that is counted. -/
inductive Observation where
  | validation (entityType : String) (valid : Bool)
  | duration (entityType : String) (seconds : Binary64)
  | issue (kind : String)
  | configWrite (operation : String)
deriving DecidableEq, Repr

/-- The series of all families, with the placement that they are kept by. -/
structure Metrics where
  place : Placement
  configWrites : Series Nat
  durations : Series Histogram
  issues : Series Nat
  validations : Series Nat

namespace Metrics

/-- Metrics that have seen nothing yet. -/
def emptyAt (place : Placement) : Metrics := ⟨place, [], [], [], []⟩

/-- Metrics that have seen nothing yet, with series by the digest of their label values. -/
def empty : Metrics := emptyAt .digest

/-- Counts something. -/
def observe (m : Metrics) : Observation → Metrics
  | .validation entityType valid =>
    let result := if valid then "valid" else "invalid"
    { m with validations := m.validations.increment m.place [entityType, result] }
  | .duration entityType seconds =>
    { m with durations := m.durations.update m.place [entityType] .empty (·.observe seconds) }
  | .issue kind => { m with issues := m.issues.increment m.place [kind] }
  | .configWrite operation =>
    { m with configWrites := m.configWrites.increment m.place [operation] }

end Metrics

end CustomFields
