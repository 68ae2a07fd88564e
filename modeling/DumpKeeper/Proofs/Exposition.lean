import DumpKeeper.Metrics.Exposition
import Mathlib.Data.List.Nodup

/-!
# What is shown of the counters

Whoever reads the text of `exposition` finds a value by the name of its sample.  Samples of buckets
share a name and are told apart by their bounds; all other samples have names of their own
(`nodup_names`), whatever was counted, and so `Metrics.sample?` finds each of them.

* `Family.names` — the names of the samples of a family, but for its buckets.
* `Metrics.sample?_of_mem` — a sample without a bound is found by its name.
* `Metrics.sample?_counter` — what is shown for a `Counter` is what `Metrics.get` gives for it.
-/

set_option autoImplicit false

namespace DumpKeeper

namespace Family

/-- The names of the samples of a family, but for its buckets. -/
def names : Family → List String
  | counter _ name _ => [name ++ "_total"]
  | gauge name _ => [name]
  | histogram _ name _ => [name ++ "_count", name ++ "_sum"]

/-- The names of the samples of `f` do not depend on what was counted. -/
theorem names_eq (m : Metrics) (f : Family) :
    ((f.samples m).filter (·.bound.isNone)).map (·.name) = f.names := by
  cases f with
  | counter | gauge => rfl
  | histogram d name help =>
    have hbuckets : (((d.bounds ++ [infinity]).zip (m.histogram d).cumulative).map fun e =>
        (⟨name ++ "_bucket", some e.1, Float.ofNat e.2⟩ : Sample)).filter (·.bound.isNone) =
          [] := by
      rw [List.filter_eq_nil_iff]
      rintro _ hs
      obtain ⟨e, -, rfl⟩ := List.mem_map.1 hs
      exact Bool.noConfusion
    rw [samples, List.filter_append, hbuckets]
    rfl

end Family

/-- **No two samples have the same name**, but for those of buckets: `Family.names` are all
different. -/
theorem nodup_names : (families.flatMap Family.names).Nodup := by decide +kernel

namespace Metrics

/-- **A sample without a bound is found by its name**, by `Metrics.sample?`. -/
theorem sample?_of_mem {m : Metrics} {s : Sample} (h : s ∈ families.flatMap (Family.samples m))
    (hs : s.bound.isNone = true) : m.sample? s.name = some s.value := by
  let named := (families.flatMap (Family.samples m)).filter (·.bound.isNone)
  have hnodup : (named.map (·.name)).Nodup := by
    simpa only [named, List.filter_flatMap, List.map_flatMap, Family.names_eq] using nodup_names
  have hmem : s ∈ named := List.mem_filter.2 ⟨h, hs⟩
  have hsome : (named.find? (·.name == s.name)).isSome :=
    List.find?_isSome.2 ⟨s, hmem, beq_self_eq_true s.name⟩
  obtain ⟨t, ht⟩ := Option.isSome_iff_exists.1 hsome
  have hname : t.name = s.name := by simpa using List.find?_some ht
  obtain rfl := List.inj_on_of_nodup_map hnodup (List.mem_of_find?_eq_some ht) hmem hname
  simp only [named, List.find?_filter, Bool.decide_and, Bool.decide_eq_true] at ht
  rw [sample?, ht, Option.map_some]

/-- **What is shown for the counter `c` is what was counted**, as `Metrics.get` gives it. -/
theorem sample?_counter (m : Metrics) {c : Counter} {name help : String}
    (h : .counter c name help ∈ families) :
    m.sample? (name ++ "_total") = some (m.get c).toFloat :=
  sample?_of_mem (s := ⟨name ++ "_total", none, (m.get c).toFloat⟩)
    (List.mem_flatMap.2 ⟨_, h, List.mem_singleton.2 rfl⟩) rfl

end Metrics

end DumpKeeper
