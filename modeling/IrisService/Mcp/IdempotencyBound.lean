import IrisService.Mcp.IdempotencyRuns

/-! How `create_order_cached` bounds the cache of idempotency keys over whole runs of a process. -/

namespace IrisService.Mcp
open ReadCommitted Db Orders Runs

/-! ### One step -/

section Steps
variable {w : World} {i : Nat} {key : String}

/-- What a step makes of the cache: a hit evicts, a call that returns writes and evicts, all else leaves it. -/
theorem cache_cases (w : World) (e : Event) :
    (step w e).cache = w.cache ∨ (step w e).cache = evictOldestIfFull w.cache ∨
      ∃ i clock key ref, e = .step i clock ∧ w.key i = some key ∧ w.at_ i = .committed ref.1 ref.2 ∧
        (step w e).cache = evictOldestIfFull (w.cache.set key ref) := by
  cases e with
  | step i clock =>
    cases hkey : w.key i with
    | none =>
      have hkey' : (w.db.client i).state.call.idempotencyKey = none := hkey
      refine Or.inl ?_
      show w.cacheAfter (w.db.client i).state = w.cache
      rw [World.cacheAfter, hkey']
    | some key =>
      cases hat : w.at_ i with
      | start =>
        have hcache := KeyInv.cache_step hkey hat clock
        cases hget : (w.cache.get key).isSome with
        | true => exact Or.inr (Or.inl (hcache.trans (if_pos hget)))
        | false => exact Or.inl (hcache.trans (if_neg (by rw [hget]; exact Bool.false_ne_true)))
      | committed id order =>
        exact Or.inr (Or.inr ⟨i, clock, key, (id, order), rfl, hkey, hat, KeyInv.cache_step hkey hat clock⟩)
      | missed => exact Or.inl (KeyInv.cache_step hkey hat clock)
      | flushed id => exact Or.inl (KeyInv.cache_step hkey hat clock)
      | refreshed id order => exact Or.inl (KeyInv.cache_step hkey hat clock)
      | done r => exact Or.inl (KeyInv.cache_step hkey hat clock)
  | fail i =>
    refine Or.inl ?_
    simp only [step]
    split <;> rfl
  | lost i =>
    refine Or.inl ?_
    simp only [step]
    split <;> rfl

/-- The cache is within its bound, and the keys are in it once each. -/
structure CacheInv (w : World) : Prop where
  bound : w.cache.length ≤ idempotencyMax
  nodup : w.cache.keys.Nodup

theorem nodup_evict {cache : Dict String OrderRef} (h : cache.keys.Nodup) : (evictOldestIfFull cache).keys.Nodup := by
  unfold evictOldestIfFull
  split
  · exact h.sublist ((List.tail_sublist cache).map Prod.fst)
  · exact h

/-- With the bound, only a call that returns an order changes the cache. -/
theorem CacheInv.cases (h : CacheInv w) (e : Event) :
    (step w e).cache = w.cache ∨ ∃ i clock key ref, e = .step i clock ∧ w.key i = some key ∧
      w.at_ i = .committed ref.1 ref.2 ∧ (step w e).cache = evictOldestIfFull (w.cache.set key ref) := by
  rcases cache_cases w e with hsame | hevict | hwrite
  · exact Or.inl hsame
  · exact Or.inl (hevict.trans (KeyInv.evict_of_le h.bound))
  · exact Or.inr hwrite

theorem CacheInv.step (h : CacheInv w) (e : Event) : CacheInv (step w e) := by
  rcases h.cases e with hsame | ⟨i, clock, key, ref, -, -, -, hwrite⟩
  · exact ⟨hsame ▸ h.bound, hsame ▸ h.nodup⟩
  · exact ⟨hwrite ▸ KeyInv.evict_length (KeyInv.set_length h.bound), hwrite ▸ nodup_evict (Dict.nodup_set h.nodup)⟩

/-- Whether its key was there or not, a written entry survives the eviction. -/
theorem get_written (h : CacheInv w) (key : String) (ref : OrderRef) :
    (evictOldestIfFull (w.cache.set key ref)).get key = some ref := by
  cases hget : w.cache.get key with
  | none => exact KeyInv.get_evict_set_self hget
  | some ref' =>
    have hmem : key ∈ w.cache.keys := by_contra fun hnot => by rw [Dict.get_eq_none_iff.mpr hnot] at hget; cases hget
    have hlength : (w.cache.set key ref).length ≤ idempotencyMax := by
      rw [Dict.length_set, if_pos hmem]
      exact h.bound
    rw [KeyInv.evict_of_le hlength, Dict.get_set_self]

/-- A call that writes returns what it has written. -/
theorem returned_committed {ref : OrderRef} (hat : w.at_ i = .committed ref.1 ref.2) (clock : Clock) :
    (Mcp.step w (.step i clock)).returned i = some ref := by
  have hgoes := at_step w i clock
  rw [hat] at hgoes
  rw [World.returned]
  generalize (Mcp.step w (.step i clock)).at_ i = st at hgoes ⊢
  cases hgoes
  rfl

end Steps

/-! ### How long a key has been in the cache -/

section Residence
variable {start : World} {es : List Event} {e : Event} {key key' : String}

/-- For how many of the last states of the run the key has been in the cache without a break. -/
def residence (start : World) (es : List Event) (key : String) : Nat :=
  held step (fun w => decide (key ∈ w.cache.keys)) start es

theorem residence_concat (h : key ∈ (step (run step start es) e).cache.keys) :
    residence start (es ++ [e]) key = residence start es key + 1 := by
  rw [residence, held_concat, if_pos (decide_eq_true h), residence]

theorem residence_eq_zero_iff : residence start es key = 0 ↔ key ∉ (run step start es).cache.keys := by
  rw [residence, held_eq_zero_iff, decide_eq_false_iff_not]

/-- The keys of the cache stand in the order of their residence. -/
def Ordered (start : World) (es : List Event) (keys : List String) : Prop :=
  keys.Pairwise fun key key' => residence start es key' < residence start es key

/-- The keys that stay have been there for one more state. -/
theorem Ordered.concat {keys : List String} (h : Ordered start es keys) (e : Event)
    (hkeys : ∀ key ∈ keys, key ∈ (step (run step start es) e).cache.keys) : Ordered start (es ++ [e]) keys := by
  refine h.imp_of_mem fun hmem hmem' hlt => ?_
  rw [residence_concat (hkeys _ hmem), residence_concat (hkeys _ hmem')]
  exact Nat.succ_lt_succ hlt

/-- A key that is not in the cache yet comes last. -/
theorem Ordered.push (h : Ordered start es (run step start es).cache.keys) (hnew : key ∉ (run step start es).cache.keys) :
    Ordered start es ((run step start es).cache.keys ++ [key]) := by
  refine List.pairwise_append.mpr ⟨h, List.pairwise_singleton _ key, fun old hold new hmem => ?_⟩
  rw [List.mem_singleton.mp hmem, residence_eq_zero_iff.mpr hnew]
  exact Nat.pos_of_ne_zero fun hzero => residence_eq_zero_iff.mp hzero hold

/-- The order of the keys once an entry is written. -/
theorem Ordered.set (h : Ordered start es (run step start es).cache.keys) (key : String) (ref : OrderRef) :
    Ordered start es ((run step start es).cache.set key ref).keys := by
  rw [Dict.keys_set]
  split
  · exact h
  · rename_i hnew
    exact h.push hnew

theorem keys_evict_sublist (cache : Dict String OrderRef) : (evictOldestIfFull cache).keys.Sublist cache.keys := by
  unfold evictOldestIfFull
  split
  · exact (List.tail_sublist cache).map Prod.fst
  · exact List.Sublist.refl _

/-- A step keeps the order. -/
theorem Ordered.step (h : Ordered start es (run step start es).cache.keys) (hinv : CacheInv (run step start es))
    (e : Event) :
    Ordered start (es ++ [e]) (step (run step start es) e).cache.keys := by
  refine Ordered.concat ?_ e fun _ hmem => hmem
  rcases hinv.cases e with hsame | ⟨i, clock, key, ref, -, -, -, hwrite⟩
  · rw [hsame]
    exact h
  · rw [hwrite]
    exact (h.set key ref).sublist (keys_evict_sublist _)

/-- The oldest entry of a cache whose keys are in the order of their residence. -/
theorem Ordered.head {cache : Dict String OrderRef} (h : Ordered start es cache.keys) {key : String}
    (hhead : cache.keys.head? = some key) :
    ∀ key' ∈ cache.keys, key' ≠ key → residence start es key' < residence start es key := by
  intro key' hmem hne
  obtain ⟨keys, hkeys⟩ := List.head?_eq_some_iff.mp hhead
  rw [Ordered, hkeys, List.pairwise_cons] at h
  rw [hkeys] at hmem
  rcases List.mem_cons.mp hmem with heq | hmem
  · exact absurd heq hne
  · exact h.1 key' hmem

end Residence

/-- What every run keeps. -/
theorem cache_run (rows : Rows Row) (seq : Table → Nat) (calls : Nat → Call) (es : List Event) :
    CacheInv (run step (serve rows seq calls) es) ∧
      Ordered (serve rows seq calls) es (run step (serve rows seq calls) es).cache.keys := by
  refine run_induction (P := fun es w => CacheInv w ∧ Ordered (serve rows seq calls) es w.cache.keys) ?_ ?_ es
  · exact ⟨⟨Nat.zero_le _, List.nodup_nil⟩, List.Pairwise.nil⟩
  · rintro es e ⟨hinv, hordered⟩
    exact ⟨hinv.step e, hordered.step hinv e⟩

/-- Only the eviction drops a key from an overfull cache, and the key that was put in first goes. -/
theorem dropped_oldest {w : World} (hinv : CacheInv w) {e : Event} {key : String} (hmem : key ∈ w.cache.keys)
    (hgone : key ∉ (step w e).cache.keys) : ∃ i clock key' ref, e = .step i clock ∧ w.at_ i = .committed ref.1 ref.2 ∧
      (step w e).cache = evictOldestIfFull (w.cache.set key' ref) ∧ idempotencyMax < (w.cache.set key' ref).length ∧
      (w.cache.set key' ref).keys.head? = some key := by
  rcases hinv.cases e with hsame | ⟨i, clock, key', ref, he, -, hat, hwrite⟩
  · exact absurd (hsame ▸ hmem) hgone
  · have hkept : key ∈ (w.cache.set key' ref).keys := by
      rw [Dict.keys_set]
      split
      · exact hmem
      · exact List.mem_append_left _ hmem
    have hfull : idempotencyMax < (w.cache.set key' ref).length := by
      by_contra hroom
      rw [hwrite, KeyInv.evict_of_le (Nat.le_of_not_lt hroom)] at hgone
      exact hgone hkept
    refine ⟨i, clock, key', ref, he, hat, hwrite, hfull, ?_⟩
    rw [hwrite, evictOldestIfFull, if_pos hfull] at hgone
    cases hcache : w.cache.set key' ref with
    | nil =>
      rw [hcache] at hkept
      cases hkept
    | cons entry cache =>
      rw [hcache] at hkept hgone
      rcases List.mem_cons.mp hkept with rfl | hkept
      · rfl
      · exact absurd hkept hgone

/-- In every run the cache holds at most `idempotencyMax` entries between two steps; a step only drops an entry by an
    eviction, of the key that has been in the cache the longest; and a call that writes an entry leaves it there. -/
theorem bounded_cache (rows : Rows Row) (seq : Table → Nat) (calls : Nat → Call) (es : List Event) (e : Event) :
    (run step (serve rows seq calls) es).cache.length ≤ idempotencyMax ∧
    (∀ key ∈ (run step (serve rows seq calls) es).cache.keys,
      key ∉ (step (run step (serve rows seq calls) es) e).cache.keys →
      ∃ written ref, (step (run step (serve rows seq calls) es) e).cache =
          evictOldestIfFull ((run step (serve rows seq calls) es).cache.set written ref) ∧
        idempotencyMax < ((run step (serve rows seq calls) es).cache.set written ref).length ∧
        ∀ key' ∈ ((run step (serve rows seq calls) es).cache.set written ref).keys, key' ≠ key →
          residence (serve rows seq calls) es key' < residence (serve rows seq calls) es key) ∧
    ∀ i clock key ref, e = .step i clock → (run step (serve rows seq calls) es).key i = some key →
      (run step (serve rows seq calls) es).at_ i = .committed ref.1 ref.2 →
        (step (run step (serve rows seq calls) es) e).returned i = some ref ∧
          (step (run step (serve rows seq calls) es) e).cache.get key = some ref := by
  obtain ⟨hinv, hordered⟩ := cache_run rows seq calls es
  refine ⟨hinv.bound, fun key hmem hgone => ?_, ?_⟩
  · obtain ⟨-, -, written, ref, -, -, hwrite, hfull, hhead⟩ := dropped_oldest hinv hmem hgone
    exact ⟨written, ref, hwrite, hfull, (hordered.set written ref).head hhead⟩
  · rintro i clock key ref rfl hkey hat
    refine ⟨returned_committed hat clock, ?_⟩
    have hcache := KeyInv.cache_step hkey hat clock
    rw [hcache]
    exact get_written hinv key ref

end IrisService.Mcp
