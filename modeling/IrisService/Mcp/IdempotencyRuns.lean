import IrisService.Mcp.IdempotencyInv
import IrisService.Orders.TotalsRuns

/-! The idempotency of `create_order_cached` over whole runs of a process. -/

namespace IrisService.Mcp
open ReadCommitted Db Orders Runs

/-- A key is idempotent as long as its calls do not overlap and it is not evicted. -/
theorem idempotent_of_settled {rows : Rows Row} {seq : Table → Nat} {calls : Nat → Call} {key : String} {es : List Event}
    (h : Meets step (Settled key) (serve rows seq calls) es) :
    ∀ w ∈ states step (serve rows seq calls) es, Idempotent key w :=
  fun w hw => (h.states (P := KeyInv key) (KeyInv.serve rows seq calls) (fun _ _ hinv hok => hinv.step hok) w hw).idempotent

/-- The second call starts when the first has returned. -/
def retry : List Event :=
  [.step 0 stopped, .step 0 stopped, .step 0 stopped, .step 0 stopped, .step 0 stopped, .step 1 stopped]

def retrying : World := serve shop.rows shop.seq fun _ => ⟨1, some "key-1"⟩

/-- While the cache has room, only the lookups matter. -/
theorem settled_of_room {w : World} {key : String} {i : Nat} {clock : Clock} (hroom : w.cache.length < idempotencyMax)
    (hlookup : w.at_ i = .start → w.cache.get key = none → ∀ j, creating (w.at_ j) = false) :
    Settled key w (.step i clock) :=
  ⟨fun _ hat hnone j _ _ => hlookup hat hnone j, fun _ _ _ _ _ _ hfull => absurd hroom (Nat.not_lt.mpr hfull)⟩

theorem retry_settled : Meets step (Settled "key-1") retrying retry := by
  have hpast : ∀ {w : World}, w.cache.length < idempotencyMax → w.at_ 0 ≠ .start → Settled "key-1" w (.step 0 stopped) :=
    fun hroom hat => settled_of_room hroom fun h => absurd h hat
  refine ⟨settled_of_room (by decide) fun _ _ _ => rfl, ?_, ?_, ?_, ?_, settled_of_room (by decide) fun _ h => ?_, trivial⟩
  · exact hpast (by decide) (by rintro ⟨⟩)
  · exact hpast (by decide) (by rintro ⟨⟩)
  · exact hpast (by decide) (by rintro ⟨⟩)
  · exact hpast (by decide) (by rintro ⟨⟩)
  · cases h

theorem retried_once : Idempotent "key-1" (run step retrying retry) ∧
    (run step retrying retry).returned 1 = (run step retrying retry).returned 0 ∧
      (run step retrying retry).ordersFor "key-1" = [1] :=
  ⟨idempotent_of_settled retry_settled _ (run_mem_states _ _), rfl, by decide⟩

-- Between its lookup and its write to the cache a call does not exclude another one with its key.
example : (run step retrying ([0, 1, 0, 1, 0, 1, 0, 1].map fun i => .step i stopped)).ordersFor "key-1" =
    [1, 2] := by decide

/-! ### A call on its own -/

section Lone
variable {w : World} {i : Nat} {key : String}

/-- A call with a key that is not in the cache, with no other call in between, commits an order and caches it. -/
theorem lone_call {customerId : Nat} (clock : Clock) (hcall : w.db.client i = ⟨⟨⟨customerId, some key⟩, .start⟩, .empty⟩)
    (hcustomer : (w.db.committed .customer customerId).isSome = true) (hnone : w.cache.get key = none) :
    ∃ ref, let w' := run step w (List.replicate 5 (.step i clock))
      w'.cache = evictOldestIfFull (w.cache.set key ref) ∧ w'.orders = w.orders ++ [(some key, ref.1)] ∧
        (w'.db.committed .customer customerId).isSome = true ∧ ∀ j, j ≠ i → w'.db.client j = w.db.client j := by
  refine ⟨(w.db.seq .orders, newOrder customerId clock), ?_⟩
  simp +contextual [run, step, List.replicate, World.action, World.cached, World.cacheAfter, World.ordersAfter, hcall,
    hnone, hcustomer, mcpCreateOrder, Action.map, perform, put, finish, Writes.onto]

end Lone

/-! ### Eviction -/

/-- The keys of `n` different requests. -/
def keyOf (n : Nat) : String := String.ofList (List.replicate n 'a')

theorem keyOf_injective {m n : Nat} (h : keyOf m = keyOf n) : m = n := by
  have hlist := congrArg String.toList h
  simpa [keyOf] using congrArg List.length hlist

/-- The first key comes back after those of `idempotencyMax + 1` requests. -/
def late (i : Nat) : Call := ⟨1, some (keyOf (if i ≤ idempotencyMax then i else 0))⟩

/-- The first `n` requests, one after the other. -/
def oneByOne : Nat → List Event
  | 0 => []
  | n + 1 => oneByOne n ++ List.replicate 5 (.step n stopped)

def servedOneByOne (n : Nat) : World := run step (serve shop.rows shop.seq late) (oneByOne n)

/-- The first `n` requests have been served, each with an order of its own, and the others have not started. -/
structure Served (n : Nat) (w : World) : Prop where
  customer : (w.db.committed .customer 1).isSome = true
  waiting : ∀ j, n ≤ j → w.db.client j = ⟨⟨late j, .start⟩, .empty⟩
  orders : w.orders.map Prod.fst = (List.range n).map fun i => (late i).idempotencyKey

/-- The next request is one with a key that is not in the cache. -/
theorem served_next {n : Nat} {key : String} (h : Served n (servedOneByOne n)) (hkey : (late n).idempotencyKey = some key)
    (hnone : (servedOneByOne n).cache.get key = none) : Served (n + 1) (servedOneByOne (n + 1)) ∧
      ∃ ref, (servedOneByOne (n + 1)).cache = evictOldestIfFull ((servedOneByOne n).cache.set key ref) := by
  have hcall : late n = ⟨1, some key⟩ := by rw [← hkey]; rfl
  have hnext : servedOneByOne (n + 1) = run step (servedOneByOne n) (List.replicate 5 (.step n stopped)) :=
    run_append _ _ _
  obtain ⟨ref, hcache, horders, hcustomer, hothers⟩ :=
    lone_call stopped ((h.waiting n (Nat.le_refl n)).trans (by rw [hcall])) h.customer hnone
  rw [← hnext] at hcache horders hcustomer hothers
  refine ⟨⟨hcustomer, fun j hj => ?_, ?_⟩, ref, hcache⟩
  · rw [hothers j (by omega)]
    exact h.waiting j (by omega)
  · rw [horders, List.map_append, h.orders, List.range_succ, List.map_append]
    simp [hkey]

/-- Another key after the first `n`. -/
theorem keys_next {n : Nat} {cache : Dict String OrderRef} (h : cache.keys = (List.range n).map keyOf) (ref : OrderRef) :
    cache.get (keyOf n) = none ∧ (cache.set (keyOf n) ref).keys = (List.range (n + 1)).map keyOf ∧
      (cache.set (keyOf n) ref).length = n + 1 := by
  have hnew : keyOf n ∉ cache.keys := by
    rw [h, List.mem_map]
    rintro ⟨m, hm, heq⟩
    exact absurd (keyOf_injective heq) (Nat.ne_of_lt (List.mem_range.mp hm))
  have hkeys : (cache.set (keyOf n) ref).keys = (List.range (n + 1)).map keyOf := by
    rw [Dict.keys_set, if_neg hnew, h, List.range_succ, List.map_append]
    rfl
  exact ⟨Dict.get_eq_none_iff.mpr hnew, hkeys, by simpa [Dict.keys] using congrArg List.length hkeys⟩

/-- The first `idempotencyMax` requests fill the cache. -/
theorem served_fill {n : Nat} (hn : n ≤ idempotencyMax) :
    Served n (servedOneByOne n) ∧ (servedOneByOne n).cache.keys = (List.range n).map keyOf := by
  induction n with
  | zero => exact ⟨⟨rfl, fun _ _ => rfl, rfl⟩, rfl⟩
  | succ n ih =>
    obtain ⟨hserved, hkeys⟩ := ih (by omega)
    have hkey : (late n).idempotencyKey = some (keyOf n) := by rw [late, if_pos (by omega)]
    obtain ⟨hserved', ref, hcache⟩ := served_next hserved hkey (keys_next hkeys (0, newOrder 1 stopped)).1
    obtain ⟨-, hkeys', hlength⟩ := keys_next hkeys ref
    refine ⟨hserved', ?_⟩
    rw [hcache, KeyInv.evict_of_le (by omega), hkeys']

/-- The next one evicts the first key. -/
theorem served_evict : Served (idempotencyMax + 1) (servedOneByOne (idempotencyMax + 1)) ∧
    (servedOneByOne (idempotencyMax + 1)).cache.get (keyOf 0) = none := by
  obtain ⟨hserved, hkeys⟩ := served_fill (Nat.le_refl idempotencyMax)
  have hkey : (late idempotencyMax).idempotencyKey = some (keyOf idempotencyMax) := by rw [late, if_pos (Nat.le_refl _)]
  obtain ⟨hserved', ref, hcache⟩ := served_next hserved hkey (keys_next hkeys (0, newOrder 1 stopped)).1
  obtain ⟨-, hkeys', hlength⟩ := keys_next hkeys ref
  have hevicted : (servedOneByOne (idempotencyMax + 1)).cache.keys =
    ((List.range (idempotencyMax + 1)).map keyOf).tail := by
    rw [hcache, evictOldestIfFull, if_pos (by omega), ← hkeys']
    exact List.map_tail
  refine ⟨hserved', Dict.get_eq_none_iff.mpr ?_⟩
  rw [hevicted, List.range_succ_eq_map, List.map_cons, List.tail_cons, List.map_map, List.mem_map]
  rintro ⟨m, -, heq⟩
  exact absurd (keyOf_injective heq) (Nat.succ_ne_zero m)

theorem ordersFor_length (w : World) (key : String) :
    (w.ordersFor key).length = (w.orders.map Prod.fst).count (some key) := by
  rw [World.ordersFor, List.length_map, List.count, List.countP_map, List.countP_eq_length_filter]
  exact congrArg List.length (List.filter_congr fun o _ => (beq_eq_decide o.1 (some key)).symm)

theorem second_order_after_eviction :
    ¬∀ (rows : Rows Row) (seq : Table → Nat) (calls : Nat → Call) (es : List Event) (key : String),
    ∀ w ∈ states step (serve rows seq calls) es, Idempotent key w := by
  intro h
  have hone := (h shop.rows shop.seq late (oneByOne (idempotencyMax + 2)) (keyOf 0) _ (run_mem_states _ _)).oneRow
  have hagain : Served (idempotencyMax + 2) (servedOneByOne (idempotencyMax + 2)) :=
    (served_next served_evict.1 (by rw [late, if_neg (by omega)]) served_evict.2).1
  have hfirst : some (keyOf 0) ∈ (List.range (idempotencyMax + 1)).map fun i => (late i).idempotencyKey :=
    List.mem_map.mpr ⟨0, List.mem_range.mpr (Nat.succ_pos _), rfl⟩
  have hlast : (late (idempotencyMax + 1)).idempotencyKey = some (keyOf 0) := by rw [late, if_neg (by omega)]
  rw [ordersFor_length] at hone
  have htwice : 2 ≤ ((servedOneByOne (idempotencyMax + 2)).orders.map Prod.fst).count (some (keyOf 0)) := by
    have hpos := List.count_pos_iff.mpr hfirst
    rw [hagain.orders, List.range_succ, List.map_append, List.count_append, List.map_singleton, hlast,
      List.count_singleton_self]
    omega
  exact absurd hone (Nat.not_le.mpr htwice)

end IrisService.Mcp
