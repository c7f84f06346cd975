import LogCollector.Proofs.Run.Tallies
import LogCollector.Proofs.Status.DeclaredKeys
import Mathlib.Algebra.BigOperators.Group.List.Lemmas
import Mathlib.Algebra.GroupWithZero.Nat
import Mathlib.Algebra.Ring.Int.Defs
import Mathlib.Data.List.Dedup

/-!
# What the readings of a metric come to

A counter shows, for each of its labels, how often it was touched with this label. The label stands
behind the name of the metric, so that the readings of a metric can be told from those of others;
together they come to how often the metric was touched (`total_eq_touches`). The same is true of
a histogram, but not of a gauge, which shows its last value.
-/

namespace LogCollector

/-- The name of the metric in the name of a reading: what stands before the label. -/
def metricName (reading : String) : String := .ofList (reading.toList.takeWhile (· ≠ '\x7b'))

/-- What readings of a metric come to, over all labels. -/
def totalOf (metric : Metric) (rs : List (String × Int)) : Int :=
  ((rs.filter fun r => metricName r.1 = metric.name).map (·.2)).sum

/-- What the readings of a metric come to after the steps of a journal. -/
def total (metric : Metric) (j : List Step) : Int := totalOf metric (metricReadings j)

/-! ### Names -/

theorem Metric.mem_all (metric : Metric) : metric ∈ all := by
  cases metric <;> decide

theorem Metric.name_injective : Function.Injective Metric.name := by
  have hall : ∀ metric ∈ all, ∀ metric' ∈ all, metric.name = metric'.name → metric = metric' := by
    decide +kernel
  exact fun metric metric' => hall metric metric.mem_all metric' metric'.mem_all

theorem Metric.brace_not_mem_name (metric : Metric) : '\x7b' ∉ metric.name.toList := by
  have hall : ∀ metric ∈ all, '\x7b' ∉ metric.name.toList := by decide +kernel
  exact hall metric metric.mem_all

theorem metricName_append {name label : String} (hname : '\x7b' ∉ name.toList)
    (hlabel : label.toList.takeWhile (· ≠ '\x7b') = []) : metricName (name ++ label) = name := by
  have hall : ∀ c ∈ name.toList, decide (c ≠ '\x7b') = true := fun c hc =>
    decide_eq_true fun h => hname (h ▸ hc)
  rw [metricName, String.toList_append, List.takeWhile_append_of_pos hall, hlabel,
    List.append_nil, String.ofList_toList]

theorem Measurement.metricName_readingName (m : Measurement) :
    metricName m.readingName = m.metric.name := by
  refine metricName_append m.metric.brace_not_mem_name ?_
  cases m.label? with
  | none => rfl
  | some label => simp

/-! ### Sums -/

variable {metric : Metric} {ms : List Measurement}

/-- What a name shows. -/
def reading? (ms : List Measurement) (name : String) : Option (String × Int) :=
  let own := ms.filter (·.readingName == name)
  own.getLast?.map fun last =>
    (name, if last.metric.type = .gauge then last.gaugeValue else own.length)

theorem readings_eq : readings ms =
    (ms.map Measurement.readingName).eraseDups.filterMap (reading? ms) := rfl

/-- A name that belongs to a counter or a histogram shows how often it occurs. -/
theorem reading?_eq (htype : metric.type ≠ .gauge) {name : String}
    (hmem : name ∈ ms.map Measurement.readingName) (hname : metricName name = metric.name) :
    reading? ms name = some (name, ((ms.map Measurement.readingName).count name : Int)) := by
  have hcount : (ms.filter (·.readingName == name)).length =
      (ms.map Measurement.readingName).count name := by
    rw [List.count, List.countP_map, List.countP_eq_length_filter]
    rfl
  obtain ⟨m, hm, rfl⟩ := List.mem_map.1 hmem
  have hne : ms.filter (·.readingName == m.readingName) ≠ [] :=
    List.ne_nil_of_mem (List.mem_filter.2 ⟨hm, beq_self_eq_true _⟩)
  -- The latest measurement with this name is of the same metric.
  have hlast := (List.mem_filter.1 (List.getLast_mem hne)).2
  rw [beq_iff_eq] at hlast
  have hmetric : ((ms.filter (·.readingName == m.readingName)).getLast hne).metric = metric := by
    refine Metric.name_injective ?_
    rw [← Measurement.metricName_readingName, hlast, hname]
  rw [reading?, List.getLast?_eq_some_getLast hne, Option.map_some, hmetric, if_neg htype, hcount]

theorem totalOf_filterMap (htype : metric.type ≠ .gauge) {names : List String}
    (h : ∀ name ∈ names, name ∈ ms.map Measurement.readingName) :
    totalOf metric (names.filterMap (reading? ms)) =
      ((names.filter fun name => metricName name = metric.name).map fun name =>
        (ms.map Measurement.readingName).count name).sum := by
  induction names with
  | nil => rfl
  | cons name names ih =>
    rw [List.forall_mem_cons] at h
    have hrest := ih h.2
    by_cases hname : metricName name = metric.name
    · rw [List.filterMap_cons, reading?_eq htype h.1 hname]
      simp only [totalOf] at hrest ⊢
      simp [hname, hrest]
    · rw [List.filterMap_cons]
      simp only [totalOf] at hrest ⊢
      cases hreading : reading? ms name with
      | none => simp [hname, hrest]
      | some r =>
        obtain ⟨last, -, rfl⟩ := Option.map_eq_some_iff.1 hreading
        simp [hname, hrest]

theorem eraseDups_perm_dedup {α : Type} [DecidableEq α] (l : List α) : l.eraseDups.Perm l.dedup :=
  (List.perm_ext_iff_of_nodup (nodup_eraseDups l) l.nodup_dedup).2 fun _ =>
    List.mem_eraseDups.trans List.mem_dedup.symm

/-- The readings of a counter or a histogram come to the number of its measurements. -/
theorem totalOf_readings (htype : metric.type ≠ .gauge) (ms : List Measurement) :
    totalOf metric (readings ms) = ms.countP (·.metric = metric) := by
  have hfilter := (eraseDups_perm_dedup (ms.map Measurement.readingName)).filter fun name =>
    metricName name = metric.name
  rw [readings_eq, totalOf_filterMap htype fun name h => List.mem_eraseDups.1 h,
    (hfilter.map _).sum_eq, List.sum_map_count_dedup_filter_eq_countP, List.countP_map]
  congr 2
  funext m
  simp [Measurement.metricName_readingName, Metric.name_injective.eq_iff]

/-- **The readings of a metric come to how often it was touched**, unless it is a gauge. -/
theorem total_eq_touches (htype : metric.type ≠ .gauge) (j : List Step) :
    total metric j = touches metric j := by
  rw [total, metricReadings, totalOf_readings htype, List.countP_filterMap, List.countP_reverse]
  congr 2
  funext s
  cases s <;> rfl

end LogCollector
