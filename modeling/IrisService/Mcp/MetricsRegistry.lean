import IrisService.Mcp.ToolAudit
import Mathlib.Data.Finset.Dedup

/-! `mcp/metrics_registry.py`: the samples of the metric registry, filtered and cached for a short time. -/

namespace IrisService.Mcp
open Tools Effects

/-- A sample of the registry; its value as a text. -/
structure Sample where
  name : String
  labels : Dict String String
  value : String
  deriving DecidableEq, Repr

/-- What prometheus_client appends to the name of a family to name its samples. -/
def sampleSuffixes (type : String) : List String :=
  if type = "counter" then ["_total", "_created"]
  else if type = "histogram" then ["_bucket", "_count", "_sum", "_created"]
  else if type = "summary" then ["", "_count", "_sum", "_created"]
  else if type = "gaugehistogram" then ["_bucket", "_gcount", "_gsum"]
  else if type = "info" then ["_info"]
  else [""]

/-- A metric family with its samples, which are named after it. -/
structure Family where
  name : String
  type : String
  samples : List Sample
  named : ∀ sample ∈ samples, ∃ suffix ∈ sampleSuffixes type, sample.name = name ++ suffix

/-- `_classify` -/
def classify (metricType : String) : String :=
  if metricType = "counter" then "counter"
  else if metricType = "gauge" then "gauge"
  else if metricType = "histogram" then "histogram"
  else if metricType = "summary" then "summary"
  else "untyped"

/-- `_matches_tags` -/
def matchesTags (sampleLabels filterTags : Dict String String) : Bool :=
  filterTags.all fun tag => sampleLabels.get tag.1 = some tag.2

namespace MetricsRegistryReader

/-- The snapshot of one sample. -/
def snapshot (family : Family) (timestamp : DateTime) (sample : Sample) : MetricSnapshot :=
  ⟨sample.name, sample.labels, classify family.type, sample.value, timestamp⟩

/-- `_collect`; the name is tested against the family's. -/
def collect (registry : List Family) (timestamp : DateTime) (nameFilter : Option String)
    (tagsFilter : Dict String String) : List MetricSnapshot :=
  registry.flatMap fun family =>
    if nameFilter.any fun name => !decide (Str.Contains family.name name) then []
    else (family.samples.filter fun sample => matchesTags sample.labels tagsFilter).map (snapshot family timestamp)

/-- What an answer is cached under: the name and the set of tags. -/
abbrev Key := String × Finset (String × String)

/-- `_cache_key` -/
def cacheKey (nameFilter : Option String) (tagsFilter : Option (Dict String String)) : Key :=
  (nameFilter.getD "", (tagsFilter.getD []).toFinset)

/-- The entries of the `TTLCache`: when each was set, and its value. -/
abbrev Cache := Key → Option (ℚ × List MetricSnapshot)

namespace Cache

/-- Nothing is cached. -/
def empty : Cache := fun _ => none

/-- An entry is served while less than `ttl` has passed. -/
def get (ttl : ℚ) (cache : Cache) (key : Key) (now : ℚ) : Option (List MetricSnapshot) :=
  (cache key).bind fun entry => if now - entry.1 < ttl then some entry.2 else none

/-- The cache without some keys. -/
def drop (cache : Cache) (dropped : Key → Bool) : Cache := fun key => if dropped key then none else cache key

/-- An answer is cached, with the time. -/
def set (cache : Cache) (key : Key) (now : ℚ) (value : List MetricSnapshot) : Cache :=
  Function.update cache key (some (now, value))

end Cache

/-- A call of `list_samples`. The cache reads its clock when it looks the key up and when it sets it, and may drop
    other entries for room; `timestamp` is the wall clock. -/
structure Call where
  nameFilter : Option String
  tagsFilter : Option (Dict String String)
  lookup : ℚ
  store : ℚ
  timestamp : DateTime
  dropped : Key → Bool
  lookup_le_store : lookup ≤ store

/-- The key of a call. -/
def Call.key (call : Call) : Key := cacheKey call.nameFilter call.tagsFilter

/-- What `_collect` returns for the filters of the call. -/
def Call.collect (call : Call) (registry : List Family) (timestamp : DateTime) : List MetricSnapshot :=
  MetricsRegistryReader.collect registry timestamp call.nameFilter (call.tagsFilter.getD [])

/-- `list_samples`: the answer, and the cache after it. -/
def listSamples (ttl : ℚ) (registry : List Family) (cache : Cache) (call : Call) : List MetricSnapshot × Cache :=
  match cache.get ttl call.key call.lookup with
  | some cached => (cached, cache)
  | none =>
    let snapshots := call.collect registry call.timestamp
    (snapshots, (cache.drop call.dropped).set call.key call.store snapshots)

/-! ### The filters -/

section Filters
variable {registry : List Family} {timestamp : DateTime} {nameFilter : Option String} {tagsFilter : Dict String String}

/-- The sample has the filter in its own name and carries the tags. -/
def Wanted (nameFilter : Option String) (tagsFilter : Dict String String) (sample : Sample) : Prop :=
  (∀ name ∈ nameFilter, Str.Contains sample.name name) ∧ ∀ tag ∈ tagsFilter, sample.labels.get tag.1 = some tag.2

instance (sample : Sample) : Decidable (Wanted nameFilter tagsFilter sample) := inferInstanceAs (Decidable (_ ∧ _))

/-- The samples of the registry in its order, each with its family. -/
def samples (registry : List Family) : List (Family × Sample) :=
  registry.flatMap fun family => family.samples.map fun sample => (family, sample)

/-- The wanted samples in the order of the registry. -/
def wanted (registry : List Family) (timestamp : DateTime) (nameFilter : Option String)
    (tagsFilter : Dict String String) : List MetricSnapshot :=
  ((samples registry).filter fun s => Wanted nameFilter tagsFilter s.2).map fun s => snapshot s.1 timestamp s.2

/-- The sample that the code takes: the filter is in its family's name. -/
def Taken (nameFilter : Option String) (tagsFilter : Dict String String) (s : Family × Sample) : Prop :=
  (∀ name ∈ nameFilter, Str.Contains s.1.name name) ∧ ∀ tag ∈ tagsFilter, s.2.labels.get tag.1 = some tag.2

instance (s : Family × Sample) : Decidable (Taken nameFilter tagsFilter s) := inferInstanceAs (Decidable (_ ∧ _))

theorem mem_samples {s : Family × Sample} : s ∈ samples registry ↔ s.1 ∈ registry ∧ s.2 ∈ s.1.samples := by
  rw [samples, List.mem_flatMap]
  constructor
  · rintro ⟨family, hfamily, hs⟩
    obtain ⟨sample, hsample, rfl⟩ := List.mem_map.mp hs
    exact ⟨hfamily, hsample⟩
  · rintro ⟨hfamily, hsample⟩
    exact ⟨s.1, hfamily, List.mem_map.mpr ⟨s.2, hsample, rfl⟩⟩

/-- The walk takes the samples one by one, in the order of the registry. -/
theorem collect_eq : collect registry timestamp nameFilter tagsFilter =
    ((samples registry).filter fun s => Taken nameFilter tagsFilter s).map fun s => snapshot s.1 timestamp s.2 := by
  induction registry with
  | nil => rfl
  | cons family registry ih =>
    have hcons : samples (family :: registry) =
      (family.samples.map fun sample => (family, sample)) ++ samples registry := rfl
    rw [collect, List.flatMap_cons, ← collect, ih, hcons, List.filter_append, List.map_append, List.filter_map,
      List.map_map]
    congr 1
    by_cases hname : ∀ name ∈ nameFilter, Str.Contains family.name name
    · have hany : (nameFilter.any fun name => !decide (Str.Contains family.name name)) = false := by
        rw [Option.any_eq_false]
        intro name hmem
        simpa using hname name hmem
      have htaken : (fun sample => decide (Taken nameFilter tagsFilter (family, sample))) =
          fun sample => matchesTags sample.labels tagsFilter := by
        funext sample
        rw [Bool.eq_iff_iff, decide_eq_true_iff, matchesTags, List.all_eq_true]
        simpa [Taken] using fun _ => hname
      rw [hany, if_neg Bool.false_ne_true]
      exact congrArg (fun p => (family.samples.filter p).map (snapshot family timestamp)) htaken.symm
    · have hany : (nameFilter.any fun name => !decide (Str.Contains family.name name)) = true := by
        rw [Option.any_eq_true]
        simp only [not_forall] at hname
        obtain ⟨name, hmem, hnot⟩ := hname
        exact ⟨name, hmem, by simpa using hnot⟩
      have hnone : family.samples.filter
        ((fun s => decide (Taken nameFilter tagsFilter s)) ∘ fun sample => (family, sample)) = [] :=
        List.filter_eq_nil_iff.mpr fun sample _ htaken => hname (of_decide_eq_true htaken).1
      rw [if_pos hany, hnone]
      rfl

/-- Filters of which the one keeps no more than the other agree when they keep the same. -/
theorem map_filter_eq_iff {α β : Type} {f : α → β} {p q : α → Bool} {l : List α} (himp : ∀ x ∈ l, p x = true → q x = true) :
    (l.filter p).map f = (l.filter q).map f ↔ ∀ x ∈ l, q x = true → p x = true := by
  have hfilter : (l.filter q).filter p = l.filter p := by
    rw [List.filter_filter]
    refine List.filter_congr fun x hx => ?_
    rw [Bool.and_eq_left_iff_imp]
    exact himp x hx
  constructor
  · intro heq x hx hq
    have hlength : ((l.filter q).filter p).length = (l.filter q).length := by
      rw [hfilter, ← List.length_map f, heq, List.length_map]
    exact List.length_filter_eq_length_iff.mp hlength x (List.mem_filter.mpr ⟨hx, hq⟩)
  · intro h
    rw [← hfilter, List.filter_eq_self.mpr fun x hx => h x (List.mem_of_mem_filter hx) (List.mem_filter.mp hx).2]

/-- A family with the filter in its name has it in the names of its samples. -/
theorem wanted_of_taken {s : Family × Sample} (hs : s ∈ samples registry) (h : Taken nameFilter tagsFilter s) :
    Wanted nameFilter tagsFilter s.2 := by
  refine ⟨fun name hname => ?_, h.2⟩
  obtain ⟨suffix, -, heq⟩ := s.1.named s.2 (mem_samples.mp hs).2
  rw [heq]
  exact (h.1 name hname).append suffix

theorem collect_eq_wanted_iff :
    collect registry timestamp nameFilter tagsFilter = wanted registry timestamp nameFilter tagsFilter ↔
    ∀ family ∈ registry, ∀ sample ∈ family.samples, Wanted nameFilter tagsFilter sample →
      ∀ name ∈ nameFilter, Str.Contains family.name name := by
  rw [collect_eq, wanted, map_filter_eq_iff fun s hs htaken =>
    decide_eq_true (wanted_of_taken hs (of_decide_eq_true htaken))]
  constructor
  · intro h family hfamily sample hsample hwanted
    have hmem : (family, sample) ∈ samples registry := mem_samples.mpr ⟨hfamily, hsample⟩
    exact (of_decide_eq_true (h _ hmem (decide_eq_true hwanted))).1
  · intro h s hs hwanted
    obtain ⟨hfamily, hsample⟩ := mem_samples.mp hs
    have hw : Wanted nameFilter tagsFilter s.2 := of_decide_eq_true hwanted
    exact decide_eq_true ⟨h s.1 hfamily s.2 hsample hw, hw.2⟩

end Filters

/-- The surroundings of the tool: the reader answers `list_samples`. -/
def answer {σ : Type} (ttl : ℚ) (registry : List Family) (cache : Cache) (call : Call) :
    (β : Type) → Effect σ β → Except Exc β
  | _, .audit _ => .ok ()
  | _, .listSamples nameFilter tagsFilter =>
    .ok (listSamples ttl registry cache { call with nameFilter := nameFilter, tagsFilter := tagsFilter }).1
  | _, _ => .error ⟨.exception, "AssertionError", ""⟩

/-- An uncached answer of `list_samples`, which is also the answer of `get_metrics`, is the wanted samples exactly when
    none of them has the filter in its own name only. -/
theorem listSamples_eq_wanted_iff (ttl : ℚ) (registry : List Family) (cache : Cache) (call : Call) (digest : Digest)
    (deps : Deps) (currentUser : Option McpUser) (huncached : cache.get ttl call.key call.lookup = none) :
    (getMetrics digest deps currentUser call.nameFilter call.tagsFilter).eval (answer ttl registry cache call) =
        .ok (.metricSnapshots (listSamples ttl registry cache call).1) ∧
      ((listSamples ttl registry cache call).1 =
          wanted registry call.timestamp call.nameFilter (call.tagsFilter.getD []) ↔
        ∀ family ∈ registry, ∀ sample ∈ family.samples, Wanted call.nameFilter (call.tagsFilter.getD []) sample →
          ∀ name ∈ call.nameFilter, Str.Contains family.name name) := by
  refine ⟨rfl, ?_⟩
  rw [listSamples, huncached]
  exact collect_eq_wanted_iff

/-- A counter, whose samples end in `_total` and `_created`. -/
def httpRequests : Family where
  name := "http_requests"
  type := "counter"
  samples := [⟨"http_requests_total", [("method", "GET")], "3.0"⟩, ⟨"http_requests_created", [("method", "GET")], "1.0"⟩]
  named := by decide

/-- A call that filters by name alone. -/
def callFor (nameFilter : String) : Call := ⟨some nameFilter, none, 0, 0, ⟨0, some 0⟩, fun _ => false, le_refl 0⟩

theorem listSamples_prefix : (listSamples 5 [httpRequests] .empty (callFor "http_requests")).1 =
    wanted [httpRequests] ⟨0, some 0⟩ (some "http_requests") [] :=
  (listSamples_eq_wanted_iff 5 [httpRequests] .empty (callFor "http_requests") ⟨fun _ => "", id⟩ bareDeps none rfl).2.mpr
    (by decide)

/-- The counter is not found under the name that its sample is shown with. -/
theorem listSamples_total : (listSamples 5 [httpRequests] .empty (callFor "http_requests_total")).1 ≠
    wanted [httpRequests] ⟨0, some 0⟩ (some "http_requests_total") [] := by decide


end MetricsRegistryReader

end IrisService.Mcp
