import IrisService.Library.Runs
import IrisService.Mcp.MetricsRegistry

/-! The cache of the metrics reader over runs: how old an answer can be. -/

namespace IrisService.Mcp.MetricsRegistryReader
open Runs

/-- What happens between two reads of the metrics. -/
inductive Event where
  | listSamples (call : Call)
  | clearCache
  /-- The metrics change. -/
  | update (registry : List Family)
  /-- The cache drops entries. -/
  | drop (dropped : Key → Bool)

/-- The registry and the cache over it. -/
structure State where
  registry : List Family
  cache : Cache

def step (ttl : ℚ) (s : State) : Event → State
  | .listSamples call => { s with cache := (listSamples ttl s.registry s.cache call).2 }
  | .clearCache => { s with cache := .empty }
  | .update registry => { s with registry := registry }
  | .drop dropped => { s with cache := s.cache.drop dropped }

/-- When the call is answered: at its lookup if the cache has the answer, else when it has set it. -/
def Call.answeredAt (ttl : ℚ) (s : State) (call : Call) : ℚ :=
  if (s.cache.get ttl call.key call.lookup).isSome then call.lookup else call.store

/-- The clock of the cache does not go back. -/
def Ordered (events : List Event) : Prop :=
  events.Pairwise fun e e' => ∀ call call', e = .listSamples call → e' = .listSamples call' → call.store ≤ call'.lookup

/-! ### Filters with one key -/

section Keys
variable {registry : List Family} {timestamp : DateTime}

/-- No name and the empty name are one filter. -/
theorem collect_getD (nameFilter : Option String) (tagsFilter : Dict String String) :
    collect registry timestamp nameFilter tagsFilter =
      collect registry timestamp (some (nameFilter.getD "")) tagsFilter := by
  cases nameFilter with
  | some name => rfl
  | none =>
    have hempty : ∀ family : Family, ((some "").any fun name => !decide (Str.Contains family.name name)) = false := by
      intro family
      simpa using Str.contains_empty family.name
    simp only [collect, Option.getD_none, hempty, Option.any_none]

theorem matchesTags_congr {labels tags tags' : Dict String String} (h : tags.toFinset = tags'.toFinset) :
    matchesTags labels tags = matchesTags labels tags' := by
  rw [Bool.eq_iff_iff, matchesTags, matchesTags, List.all_eq_true, List.all_eq_true]
  have hmem : ∀ tag, tag ∈ tags ↔ tag ∈ tags' := fun tag => by
    rw [← List.mem_toFinset, h, List.mem_toFinset]
  exact ⟨fun hall tag htag => hall tag ((hmem tag).mpr htag), fun hall tag htag => hall tag ((hmem tag).mp htag)⟩

/-- Calls that share a cache key ask for the same samples. -/
theorem Call.collect_congr {call call' : Call} (h : call.key = call'.key) (registry : List Family) (timestamp : DateTime) :
    call.collect registry timestamp = call'.collect registry timestamp := by
  obtain ⟨hname, htags⟩ := Prod.ext_iff.mp h
  have hname' : call.nameFilter.getD "" = call'.nameFilter.getD "" := hname
  rw [Call.collect, Call.collect, collect_getD call.nameFilter, collect_getD call'.nameFilter, hname']
  unfold MetricsRegistryReader.collect
  refine List.flatMap_congr fun family _ => ?_
  rw [List.filter_congr fun sample _ => matchesTags_congr htags]

end Keys

/-! ### Where the entries come from -/

/-- `call` has collected samples of `registry` in the run, and the cache has not been cleared since. -/
def CollectedBy (ttl : ℚ) (s : State) (events : List Event) (call : Call) (registry : List Family) : Prop :=
  ∃ pre mid, events = pre ++ .listSamples call :: mid ∧ (∀ e ∈ mid, e ≠ .clearCache) ∧
    registry = (run (step ttl) s pre).registry

/-- Each entry is what a call of the run has collected, set when that call was done. -/
def Traced (ttl : ℚ) (s : State) (events : List Event) (cache : Cache) : Prop :=
  ∀ key time value, cache key = some (time, value) →
    ∃ call registry, CollectedBy ttl s events call registry ∧ call.store = time ∧ call.key = key ∧
      value = call.collect registry call.timestamp

section Trace
variable {ttl : ℚ} {s : State} {events : List Event} {cache : Cache} {e : Event}

theorem CollectedBy.snoc {call : Call} {registry : List Family} (h : CollectedBy ttl s events call registry)
    (he : e ≠ .clearCache) : CollectedBy ttl s (events ++ [e]) call registry := by
  obtain ⟨pre, mid, rfl, hmid, hregistry⟩ := h
  refine ⟨pre, mid ++ [e], by simp, ?_, hregistry⟩
  intro e' he'
  rcases List.mem_append.mp he' with he' | he'
  · exact hmid e' he'
  · rw [List.mem_singleton.mp he']
    exact he

theorem Traced.snoc (h : Traced ttl s events cache) (he : e ≠ .clearCache) : Traced ttl s (events ++ [e]) cache := by
  intro key time value hentry
  obtain ⟨call, registry, hcollected, hrest⟩ := h key time value hentry
  exact ⟨call, registry, hcollected.snoc he, hrest⟩

theorem Traced.drop (h : Traced ttl s events cache) (dropped : Key → Bool) : Traced ttl s events (cache.drop dropped) := by
  intro key time value hentry
  rw [Cache.drop] at hentry
  split at hentry
  · cases hentry
  · exact h key time value hentry

/-- A call that collects leaves its own samples under its key. -/
theorem Traced.set {call : Call} (h : Traced ttl s events cache) :
    Traced ttl s (events ++ [.listSamples call])
      (cache.set call.key call.store (call.collect (run (step ttl) s events).registry call.timestamp)) := by
  intro key time value hentry
  by_cases hkey : key = call.key
  · subst hkey
    rw [Cache.set, Function.update_self, Option.some.injEq, Prod.mk.injEq] at hentry
    obtain ⟨rfl, rfl⟩ := hentry
    exact ⟨call, _, ⟨events, [], rfl, fun e he => absurd he List.not_mem_nil, rfl⟩, rfl, rfl, rfl⟩
  · rw [Cache.set, Function.update_of_ne hkey] at hentry
    exact (h.snoc (by simp)) key time value hentry

theorem traced_step (h : Traced ttl s events (run (step ttl) s events).cache) (e : Event) :
    Traced ttl s (events ++ [e]) (step ttl (run (step ttl) s events) e).cache := by
  cases e with
  | listSamples call =>
    simp only [step, listSamples]
    split
    · exact h.snoc (by simp)
    · exact (h.drop call.dropped).set
  | clearCache =>
    intro key time value hentry
    cases hentry
  | update registry => exact h.snoc (by simp)
  | drop dropped => exact (h.drop dropped).snoc (by simp)

theorem traced_run (registry : List Family) (events : List Event) :
    Traced ttl ⟨registry, .empty⟩ events (run (step ttl) ⟨registry, .empty⟩ events).cache := by
  have hempty : Traced ttl ⟨registry, .empty⟩ [] .empty := by
    intro key time value hentry
    cases hentry
  exact run_induction (P := fun events (t : State) => Traced ttl ⟨registry, .empty⟩ events t.cache) hempty
    (fun events e h => traced_step h e) events

end Trace

/-! ### The age of an answer -/

/-- Each answer is what the filters of its own call find in the registry as it was when some call was done collecting:
    less than `ttl` ago or just now, and not before the last `clear_cache`. -/
theorem answer_recent (ttl : ℚ) (registry : List Family) (pre post : List Event) (call : Call)
    (hclock : Ordered (pre ++ .listSamples call :: post)) :
    ∃ call' registry', CollectedBy ttl ⟨registry, .empty⟩ (pre ++ [.listSamples call]) call' registry' ∧
      call'.store ≤ call.answeredAt ttl (run (step ttl) ⟨registry, .empty⟩ pre) ∧
      (call.answeredAt ttl (run (step ttl) ⟨registry, .empty⟩ pre) - call'.store < ttl ∨
        call.answeredAt ttl (run (step ttl) ⟨registry, .empty⟩ pre) = call'.store) ∧
      (listSamples ttl (run (step ttl) ⟨registry, .empty⟩ pre).registry
        (run (step ttl) ⟨registry, .empty⟩ pre).cache call).1 =
        call.collect registry' call'.timestamp := by
  have htraced : Traced ttl ⟨registry, .empty⟩ pre _ := traced_run registry pre
  generalize hs : run (step ttl) ⟨registry, .empty⟩ pre = s at htraced ⊢
  cases hget : s.cache.get ttl call.key call.lookup with
  | none =>
    have hanswered : call.answeredAt ttl s = call.store := by simp [Call.answeredAt, hget]
    refine ⟨call, s.registry, ⟨pre, [], rfl, fun e he => absurd he List.not_mem_nil, by rw [hs]⟩, hanswered.ge,
      Or.inr hanswered, ?_⟩
    rw [listSamples, hget]
  | some cached =>
    have hanswered : call.answeredAt ttl s = call.lookup := by simp [Call.answeredAt, hget]
    obtain ⟨⟨time, value⟩, hentry, hfresh⟩ := Option.bind_eq_some_iff.mp hget
    split at hfresh
    · rename_i hlt
      obtain ⟨call', registry', hcollected, htime, hkey, hvalue⟩ := htraced call.key time value hentry
      have hbefore : call'.store ≤ call.lookup := by
        obtain ⟨before, mid, rfl, -, -⟩ := hcollected
        rw [List.append_assoc, List.cons_append] at hclock
        have htail := (List.pairwise_append.mp hclock).2.1
        exact (List.pairwise_cons.mp htail).1 _ (List.mem_append_right mid List.mem_cons_self) call' call rfl rfl
      refine ⟨call', registry', hcollected.snoc (by simp), hanswered ▸ hbefore, Or.inl ?_, ?_⟩
      · rw [hanswered, htime]
        exact hlt
      · rw [listSamples, hget, ← Option.some.inj hfresh, hvalue]
        exact Call.collect_congr hkey registry' call'.timestamp
    · cases hfresh

def callAt (time : ℚ) : Call := ⟨some "http_requests", none, time, time, ⟨0, some 0⟩, fun _ => false, le_refl time⟩

/-- A second call three seconds after the first, with other metrics in between, is answered from the cache. -/
theorem answer_recent_cached :
    ∃ call' registry', CollectedBy 5 ⟨[httpRequests], .empty⟩
        ([.listSamples (callAt 0), .update []] ++ [.listSamples (callAt 3)]) call' registry' ∧
      call'.store ≤ (callAt 3).answeredAt 5 (run (step 5) ⟨[httpRequests], .empty⟩ [.listSamples (callAt 0), .update []]) ∧
      ((callAt 3).answeredAt 5 (run (step 5) ⟨[httpRequests], .empty⟩ [.listSamples (callAt 0), .update []]) -
        call'.store < 5 ∨
        (callAt 3).answeredAt 5 (run (step 5) ⟨[httpRequests], .empty⟩ [.listSamples (callAt 0), .update []]) =
          call'.store) ∧
      (listSamples 5 (run (step 5) ⟨[httpRequests], .empty⟩ [.listSamples (callAt 0), .update []]).registry
          (run (step 5) ⟨[httpRequests], .empty⟩ [.listSamples (callAt 0), .update []]).cache (callAt 3)).1 =
        (callAt 3).collect registry' call'.timestamp := by
  refine answer_recent 5 [httpRequests] [.listSamples (callAt 0), .update []] [] (callAt 3) ?_
  refine List.pairwise_cons.mpr ⟨?_, List.pairwise_cons.mpr ⟨?_, List.pairwise_singleton _ _⟩⟩
  · intro e hmem call call' hcall hcall'
    cases hcall
    rcases List.mem_cons.mp hmem with rfl | hmem
    · cases hcall'
    · rw [List.mem_singleton.mp hmem] at hcall'
      cases hcall'
      exact (by decide : (0 : ℚ) ≤ 3)
  · intro e _ call call' hcall
    cases hcall

end IrisService.Mcp.MetricsRegistryReader
