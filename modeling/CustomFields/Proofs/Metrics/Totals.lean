import CustomFields.Metrics.Basic
import CustomFields.Proofs.Data.Bindings

/-!
# Totals of metrics

Whatever is observed goes to one series of one family, where it counts one more. So the total that
is shown for label values is the number of the observations with these label values, in whatever
order they came, and other observations have no part in it.

A family keeps its series by a digest of their label values, and series with the same digest are
counted as one. So this holds for placements that keep apart the label values that are observed; no
more is asked of the digest, and nothing of label values that do not occur.

## Main definitions

* `Observation.series`: the series that an observation goes to
* `KeptApart`: label values that are observed in one family have places of their own
* `Series.Counts`: a family has counted label values
* `Metrics.total`: how much is shown to have been counted

## Main results

* `Series.Counts.update`: an observation adds one to its series
* `Metrics.total_foldl_observe`: the total of a series is the number of its observations
-/

namespace CustomFields

/-- The families of metrics. -/
inductive MetricFamily where
  | configWrites
  | durations
  | issues
  | validations
deriving DecidableEq

/-- The family and the label values of the series that an observation goes to. -/
def Observation.series : Observation → MetricFamily × List String
  | .validation entityType valid =>
    (.validations, [entityType, if valid then "valid" else "invalid"])
  | .duration entityType _ => (.durations, [entityType])
  | .issue kind => (.issues, [kind])
  | .configWrite operation => (.configWrites, [operation])

/-- A placement keeps apart what is observed: different label values of one family are not at one
place. -/
def KeptApart (place : Placement) (seen : List Observation) : Prop :=
  ∀ o ∈ seen, ∀ o' ∈ seen, o.series.1 = o'.series.1 →
    place o.series.2 = place o'.series.2 → o.series.2 = o'.series.2

instance (place : Placement) (seen : List Observation) : Decidable (KeptApart place seen) :=
  inferInstanceAs (Decidable (∀ o ∈ seen, ∀ o' ∈ seen, _ → _ → _))

/-- The label values that are observed in a family. -/
def observedLabels (family : MetricFamily) (seen : List Observation) : List (List String) :=
  seen.filterMap fun o => if o.series.1 = family then some o.series.2 else none

variable {family : MetricFamily} {seen : List Observation} {o : Observation}

theorem observedLabels_append_self :
    observedLabels o.series.1 (seen ++ [o]) = observedLabels o.series.1 seen ++ [o.series.2] := by
  simp [observedLabels]

theorem observedLabels_append_of_ne (h : o.series.1 ≠ family) :
    observedLabels family (seen ++ [o]) = observedLabels family seen := by
  simp [observedLabels, h]

theorem count_observedLabels (family : MetricFamily) (labels : List String)
    (seen : List Observation) :
    (observedLabels family seen).count labels = seen.countP (·.series = (family, labels)) := by
  rw [observedLabels, List.count, List.countP_filterMap]
  refine List.countP_congr fun o _ => ?_
  obtain ⟨family', labels'⟩ := o.series
  by_cases h : family' = family <;> simp [h]

/-! ## Series -/

namespace Series

variable {α : Type} {place : Placement} {labels : List String} {s : Series α}

/-- Each series is kept at the place of the label values that it is shown with. -/
structure Placed (place : Placement) (s : Series α) : Prop where
  nodup : (Entries.keys s).Nodup
  place_eq : ∀ p labels a, (p, labels, a) ∈ s → place labels = p

theorem Placed.update (h : s.Placed place) (labels : List String) (first : α) (change : α → α) :
    (s.update place labels first change).Placed place where
  nodup := Entries.nodup_keys_assign h.nodup
  place_eq := by
    intro p labels' a hmem
    rcases Entries.eq_or_mem_of_mem_assign hmem with heq | hmem
    · -- the series that is there keeps the label values that it has
      cases hget : Entries.get? (place labels) s with
      | none =>
        rw [hget] at heq
        cases heq
        rfl
      | some known =>
        rw [hget] at heq
        cases heq
        exact h.place_eq _ _ _ (Entries.mem_of_get?_eq_some hget)
    · exact h.place_eq p labels' a hmem

/-- No label values are shown twice. -/
theorem Placed.nodup_shown (h : s.Placed place) : (Entries.keys s.shown).Nodup := by
  have hkeys : (Entries.keys (s.map Prod.snd)).map place = Entries.keys s := by
    rw [Entries.keys, Entries.keys, List.map_map, List.map_map]
    refine List.map_congr_left ?_
    rintro ⟨p, labels, a⟩ hmem
    exact h.place_eq p labels a hmem
  have hperm : (Entries.keys s.shown).Perm (Entries.keys (s.map Prod.snd)) :=
    (List.mergeSort_perm _ _).map Prod.fst
  exact hperm.nodup_iff.2 (List.Nodup.of_map place (hkeys ▸ h.nodup))

/-- What is shown for label values is what is kept at their place, if it has been made for them. -/
theorem Placed.get?_shown (h : s.Placed place) (labels : List String) :
    Entries.get? labels s.shown =
      (Entries.get? (place labels) s).bind fun kept =>
        if kept.1 = labels then some kept.2 else none := by
  refine Option.ext fun a => ?_
  have hkept : (labels, a) ∈ s.map Prod.snd ↔
      Entries.get? (place labels) s = some (labels, a) := by
    rw [Entries.get?_eq_some_iff h.nodup, List.mem_map]
    constructor
    · rintro ⟨⟨p, _⟩, hmem, rfl⟩
      exact h.place_eq p labels a hmem ▸ hmem
    · exact fun hmem => ⟨_, hmem, rfl⟩
  rw [Entries.get?_eq_some_iff h.nodup_shown, shown, List.mem_mergeSort, hkept,
    Option.bind_eq_some_iff]
  constructor
  · exact fun hget => ⟨_, hget, if_pos rfl⟩
  · rintro ⟨⟨labels', a'⟩, hget, ha⟩
    obtain ⟨rfl, rfl⟩ : labels' = labels ∧ a' = a := by simpa using ha
    exact hget

/-- A family has counted label values, as a measure of its states tells. -/
structure Counts (place : Placement) (count : α → ℕ) (s : Series α) (seen : List (List String)) :
    Prop where
  placed : s.Placed place
  mem_seen : ∀ p labels a, (p, labels, a) ∈ s → labels ∈ seen
  total : ∀ labels, (Entries.get? labels s.shown).elim 0 count = seen.count labels

variable {count : α → ℕ} {seen : List (List String)}

theorem counts_nil : Counts place count ([] : Series α) [] where
  placed := ⟨List.nodup_nil, by rintro _ _ _ ⟨⟩⟩
  mem_seen := by rintro _ _ _ ⟨⟩
  total _ := by rw [shown, List.map_nil, List.mergeSort_nil]; rfl

/-- **An observation adds one to its series**, and leaves all others as they are, if no other label
values that have been seen are at its place. -/
theorem Counts.update (h : s.Counts place count seen)
    (apart : ∀ labels' ∈ seen, place labels' = place labels → labels' = labels)
    {first : α} {change : α → α} (hfirst : count first = 0)
    (hchange : ∀ a, count (change a) = count a + 1) :
    (s.update place labels first change).Counts place count (seen ++ [labels]) := by
  have hplaced := h.placed.update labels first change
  -- the series at the place has been made for these label values
  have hkept : (Entries.get? (place labels) s).getD (labels, first) =
      (labels, (Entries.get? labels s.shown).getD first) := by
    rw [h.placed.get?_shown]
    cases hget : Entries.get? (place labels) s with
    | none => rfl
    | some kept =>
      obtain ⟨labels', a⟩ := kept
      have hmem := Entries.mem_of_get?_eq_some hget
      obtain rfl := apart labels' (h.mem_seen _ _ _ hmem) (h.placed.place_eq _ _ _ hmem)
      simp
  have hupdate : s.update place labels first change = Entries.assign (place labels)
      (labels, change ((Entries.get? labels s.shown).getD first)) s := by
    rw [Series.update, hkept]
  refine ⟨hplaced, fun p labels' a hmem => ?_, fun labels' => ?_⟩
  · rw [hupdate] at hmem
    rcases Entries.eq_or_mem_of_mem_assign hmem with heq | hmem
    · cases heq
      exact List.mem_append_right _ List.mem_cons_self
    · exact List.mem_append_left _ (h.mem_seen p labels' a hmem)
  · rw [hplaced.get?_shown, hupdate, List.count_append, List.count_singleton, ← h.total]
    by_cases hplace : place labels' = place labels
    · rw [hplace, Entries.get?_assign_self, Option.bind_some]
      by_cases hlabels : labels = labels'
      · subst hlabels
        cases Entries.get? labels s.shown <;> simp [hchange, hfirst]
      · -- nothing is shown for label values that another series has the place of
        have hnone : Entries.get? labels' s.shown = none := by
          refine Option.eq_none_iff_forall_ne_some.2 fun a ha => ?_
          obtain ⟨⟨p, _⟩, hmem, rfl⟩ :=
            List.mem_map.1 (List.mem_mergeSort.1 (Entries.mem_of_get?_eq_some ha))
          exact hlabels (apart labels' (h.mem_seen p _ _ hmem) hplace).symm
        simp [hlabels, hnone]
    · have hlabels : labels ≠ labels' := by
        rintro rfl
        exact hplace rfl
      rw [Entries.get?_assign_of_ne hplace, ← h.placed.get?_shown]
      simp [hlabels]

end Series

/-! ## Metrics -/

namespace Metrics

/-- How much is shown to have been counted: by a counter its value, and by a histogram its
observations. Label values that are not shown have counted nothing. -/
def total (m : Metrics) : MetricFamily × List String → ℕ
  | (.configWrites, labels) => (Entries.get? labels m.configWrites.shown).elim 0 id
  | (.durations, labels) => (Entries.get? labels m.durations.shown).elim 0 (·.count)
  | (.issues, labels) => (Entries.get? labels m.issues.shown).elim 0 id
  | (.validations, labels) => (Entries.get? labels m.validations.shown).elim 0 id

/-- Each family has counted what has been observed in it. -/
structure Counts (place : Placement) (m : Metrics) (seen : List Observation) : Prop where
  place_eq : m.place = place
  configWrites : m.configWrites.Counts place id (observedLabels .configWrites seen)
  durations : m.durations.Counts place (·.count) (observedLabels .durations seen)
  issues : m.issues.Counts place id (observedLabels .issues seen)
  validations : m.validations.Counts place id (observedLabels .validations seen)

variable {place : Placement} {m : Metrics} {seen : List Observation}

theorem counts_emptyAt (place : Placement) : (emptyAt place).Counts place [] where
  place_eq := rfl
  configWrites := Series.counts_nil
  durations := Series.counts_nil
  issues := Series.counts_nil
  validations := Series.counts_nil

/-- An observation is counted in its family, and in no other. -/
theorem Counts.observe (h : m.Counts place seen) {o : Observation}
    (apart : ∀ labels ∈ observedLabels o.series.1 seen,
      place labels = place o.series.2 → labels = o.series.2) :
    (m.observe o).Counts place (seen ++ [o]) := by
  have keep {α : Type} {count : α → ℕ} {s : Series α} {family : MetricFamily}
      (h : s.Counts place count (observedLabels family seen)) (hne : o.series.1 ≠ family) :
      s.Counts place count (observedLabels family (seen ++ [o])) := by
    rwa [observedLabels_append_of_ne hne]
  have step {α : Type} {count : α → ℕ} {s : Series α} (first : α) (change : α → α)
      (h : s.Counts place count (observedLabels o.series.1 seen)) (hfirst : count first = 0)
      (hchange : ∀ a, count (change a) = count a + 1) :
      (s.update place o.series.2 first change).Counts place count
        (observedLabels o.series.1 (seen ++ [o])) := by
    rw [observedLabels_append_self]
    exact h.update apart hfirst hchange
  obtain ⟨rfl, hconfigs, hdurations, hissues, hvalidations⟩ := h
  -- the family of the observation takes a step, the others stay as they are
  cases o with
  | validation e valid =>
    exact ⟨rfl, keep hconfigs nofun, keep hdurations nofun, keep hissues nofun,
      step 0 (· + 1) hvalidations rfl fun _ => rfl⟩
  | duration e seconds =>
    exact ⟨rfl, keep hconfigs nofun,
      step Histogram.empty (Histogram.observe · seconds) hdurations rfl fun _ => rfl,
      keep hissues nofun, keep hvalidations nofun⟩
  | issue kind =>
    exact ⟨rfl, keep hconfigs nofun, keep hdurations nofun, step 0 (· + 1) hissues rfl fun _ => rfl,
      keep hvalidations nofun⟩
  | configWrite operation =>
    exact ⟨rfl, step 0 (· + 1) hconfigs rfl fun _ => rfl, keep hdurations nofun, keep hissues nofun,
      keep hvalidations nofun⟩

/-- What has been counted is what has been observed, if the placement keeps it apart. -/
theorem counts_foldl_observe (apart : KeptApart place seen) :
    (seen.foldl observe (emptyAt place)).Counts place seen := by
  induction seen using List.reverseRecOn with
  | nil => exact counts_emptyAt place
  | append_singleton seen o ih =>
    rw [List.foldl_append]
    refine (ih fun o₁ h₁ o₂ h₂ => apart o₁ (List.mem_append_left _ h₁) o₂
      (List.mem_append_left _ h₂)).observe fun labels hlabels hplace => ?_
    obtain ⟨o', hmem, hsome⟩ := List.mem_filterMap.1 hlabels
    obtain ⟨hfamily, rfl⟩ : o'.series.1 = o.series.1 ∧ o'.series.2 = labels := by simpa using hsome
    exact apart o' (List.mem_append_left _ hmem) o (List.mem_append_right _ List.mem_cons_self)
      hfamily hplace

/-- **The total of a series is the number of its observations**, if the placement keeps apart what
is observed. -/
theorem total_foldl_observe (apart : KeptApart place seen) (key : MetricFamily × List String) :
    (seen.foldl observe (emptyAt place)).total key = seen.countP (·.series = key) := by
  have h := counts_foldl_observe apart
  obtain ⟨family, labels⟩ := key
  rw [← count_observedLabels]
  cases family with
  | configWrites => exact h.configWrites.total labels
  | durations => exact h.durations.total labels
  | issues => exact h.issues.total labels
  | validations => exact h.validations.total labels

end Metrics

end CustomFields
