import IrisService.Mcp.CreateOrder

/-! What the calls with one idempotency key keep, step by step. -/

namespace IrisService.Mcp
open ReadCommitted Db Orders Runs

/-! ### One step -/

/-- Where a step leads, given what the cache has under the key of the call. -/
inductive Goes (cached : Option OrderRef) : McpCreateOrder → McpCreateOrder → Prop
  | hit {id order} (h : cached = some (id, order)) : Goes cached .start (.done (.orderRef id order))
  | miss (h : cached = none) : Goes cached .start .missed
  | insert {id} : Goes cached .missed (.flushed id)
  | refuse {customerId} : Goes cached .missed (.done (.toolNotFound "Customer" customerId))
  | refresh {id order} : Goes cached (.flushed id) (.refreshed id order)
  | gone {id} : Goes cached (.flushed id) (.done notRefreshed)
  | commit {id order} : Goes cached (.refreshed id order) (.committed id order)
  | returns {id order} : Goes cached (.committed id order) (.done (.orderRef id order))
  | ended {r} : Goes cached (.done r) (.done r)

theorem mcpCreateOrder_goes (customerId : Nat) (clock : Clock) (cached : Option OrderRef) (st : McpCreateOrder)
    (v : View Row) : (mcpCreateOrder customerId clock cached st v).All (Goes cached st) := by
  cases st with
  | start =>
    simp only [mcpCreateOrder]
    split
    · exact .hit rfl
    · exact .miss rfl
  | missed =>
    simp only [mcpCreateOrder]
    split
    · exact fun id => .insert
    · exact .refuse
  | flushed id =>
    simp only [mcpCreateOrder]
    split
    · exact .refresh
    · exact .gone
  | refreshed id order => exact .commit
  | committed id order => exact .returns
  | done r => exact .ended

/-- No action of a call waits for a row. -/
theorem mcpCreateOrder_not_write {customerId : Nat} {clock : Clock} {cached : Option OrderRef} {st : McpCreateOrder}
    {v : View Row} (cs : List (Change Row)) (s : McpCreateOrder) :
    mcpCreateOrder customerId clock cached st v ≠ .write cs s := by
  intro h
  cases st with
  | start =>
    simp only [mcpCreateOrder] at h
    split at h <;> cases h
  | missed =>
    simp only [mcpCreateOrder] at h
    split at h <;> cases h
  | flushed id =>
    simp only [mcpCreateOrder] at h
    split at h <;> cases h
  | _ => cases h

section Steps
variable {w : World} {i : Nat}

/-- Who the calls are never changes. -/
theorem call_step (w : World) (e : Event) (j : Nat) :
    ((step w e).db.client j).state.call = (w.db.client j).state.call := by
  have hperform : ∀ {i} {a : Action Row Session}, a.All (fun s => s.call = (w.db.client i).state.call) →
      ((w.db.perform i a).client j).state.call = (w.db.client j).state.call := by
    intro i a ha
    by_cases hne : j = i
    · subst hne
      exact perform_state (P := fun s : Session => s.call = (w.db.client j).state.call) rfl ha
    · rw [perform_client_of_ne hne]
  cases e with
  | step i clock => exact hperform (Action.all_map.mpr (Action.all_of_forall fun _ => rfl))
  | fail i =>
    simp only [step]
    split
    · rfl
    · exact hperform (a := .rollback _) rfl
  | lost i =>
    simp only [step]
    split
    · exact hperform (a := .commit _) rfl
    · rfl

/-- A step of a call moves it along its code. -/
theorem at_step (w : World) (i : Nat) (clock : Clock) :
    Goes (w.cached (w.db.client i).state.call) (w.at_ i) ((step w (.step i clock)).at_ i) := by
  have hall : (w.action i clock).All fun s => Goes (w.cached (w.db.client i).state.call) (w.at_ i) s.at_ :=
    Action.all_map.mpr (mcpCreateOrder_goes _ clock _ _ _)
  exact perform_lands (d := w.db) (i := i) (Action.map_ne_write mcpCreateOrder_not_write) hall

theorem at_step_of_ne {clock : Clock} {j : Nat} (h : j ≠ i) : (step w (.step i clock)).at_ j = w.at_ j := by
  show ((w.db.perform i (w.action i clock)).client j).state.at_ = _
  rw [perform_client_of_ne h]
  rfl

theorem key_step (w : World) (e : Event) (j : Nat) : (step w e).key j = w.key j := by
  unfold World.key
  rw [call_step]

end Steps

/-! ### The invariant of a key -/

/-- What holds of a key in every run of calls that do not overlap on it. -/
structure KeyInv (key : String) (w : World) : Prop where
  bound : w.cache.length ≤ idempotencyMax
  alone : ∀ i j, w.key i = some key → w.key j = some key → creating (w.at_ i) = true → creating (w.at_ j) = true → i = j
  stored : ∀ ref, w.cache.get key = some ref → w.ordersFor key = [ref.1] ∧
    (∀ i, w.key i = some key → creating (w.at_ i) = false) ∧
      ∀ i r, w.key i = some key → orderReturned (w.at_ i) = some r → r = ref
  unstored : w.cache.get key = none → (∀ i, w.key i = some key → orderReturned (w.at_ i) = none) ∧
    (w.ordersFor key = [] ∧ (∀ i id order, w.key i = some key → w.at_ i ≠ .committed id order) ∨
      ∃ i id order, w.key i = some key ∧ w.at_ i = .committed id order ∧ w.ordersFor key = [id])

namespace KeyInv
variable {key : String} {w w' : World} {i : Nat}

/-- The invariant is about the calls with the key, their entry and their rows. -/
theorem congr (h : KeyInv key w) (hkey : ∀ j, w'.key j = w.key j) (hat : ∀ j, w.key j = some key → w'.at_ j = w.at_ j)
    (hbound : w'.cache.length ≤ idempotencyMax) (hget : w'.cache.get key = w.cache.get key)
    (horders : w'.ordersFor key = w.ordersFor key) : KeyInv key w' where
  bound := hbound
  alone j k hj hk := by
    rw [hkey] at hj hk
    rw [hat j hj, hat k hk]
    exact h.alone j k hj hk
  stored ref href := by
    rw [hget] at href
    obtain ⟨h1, h2, h3⟩ := h.stored ref href
    refine ⟨horders.trans h1, fun j hj => ?_, fun j r hj => ?_⟩
    · rw [hkey] at hj
      rw [hat j hj]
      exact h2 j hj
    · rw [hkey] at hj
      rw [hat j hj]
      exact h3 j r hj
  unstored hnone := by
    rw [hget] at hnone
    obtain ⟨h1, h2⟩ := h.unstored hnone
    refine ⟨fun j hj => ?_, ?_⟩
    · rw [hkey] at hj
      rw [hat j hj]
      exact h1 j hj
    · rw [horders]
      rcases h2 with ⟨h2, h3⟩ | ⟨j, id, order, hj, hcommitted, h2⟩
      · refine Or.inl ⟨h2, fun j id order hj => ?_⟩
        rw [hkey] at hj
        rw [hat j hj]
        exact h3 j id order hj
      · exact Or.inr ⟨j, id, order, by rw [hkey, hj], by rw [hat j hj, hcommitted], h2⟩

theorem evict_length {cache : Dict String OrderRef} (h : cache.length ≤ idempotencyMax + 1) :
    (evictOldestIfFull cache).length ≤ idempotencyMax := by
  unfold evictOldestIfFull
  split
  · rw [List.length_tail]
    omega
  · omega

theorem evict_of_le {cache : Dict String OrderRef} (h : cache.length ≤ idempotencyMax) : evictOldestIfFull cache = cache :=
  if_neg (by omega)

theorem set_length {cache : Dict String OrderRef} {k : String} {ref : OrderRef} (h : cache.length ≤ idempotencyMax) :
    (cache.set k ref).length ≤ idempotencyMax + 1 := by
  rw [Dict.length_set]
  split <;> omega

/-- Another key's entry is written without evicting this one. -/
theorem get_evict_set {cache : Dict String OrderRef} {k : String} {ref : OrderRef} (h : cache.length ≤ idempotencyMax)
    (hne : key ≠ k) (hroom : k ∉ cache.keys → idempotencyMax ≤ cache.length → cache.keys.head? ≠ some key) :
    (evictOldestIfFull (cache.set k ref)).get key = cache.get key := by
  unfold evictOldestIfFull
  split
  · rename_i hfull
    have hnew : k ∉ cache.keys := by
      intro hk
      rw [Dict.length_set, if_pos hk] at hfull
      omega
    rw [Dict.length_set, if_neg hnew] at hfull
    have hhead : (cache.set k ref).keys.head? ≠ some key := by
      rw [Dict.keys_set, if_neg hnew]
      have hold := hroom hnew (by omega)
      cases hkeys : cache.keys with
      | nil => simpa using hne.symm
      | cons k' ks =>
        rw [hkeys] at hold
        simpa using hold
    rw [Dict.get_tail hhead, Dict.get_set_of_ne hne]
  · exact Dict.get_set_of_ne hne

theorem cacheAfter_length (h : w.cache.length ≤ idempotencyMax) (session : Session) :
    (w.cacheAfter session).length ≤ idempotencyMax := by
  unfold World.cacheAfter
  split
  · split
    · exact evict_length (by omega)
    · exact h
  · exact evict_length (set_length h)
  · exact h

theorem ordersFor_append {orders : List (Option String × Nat)} {k : Option String} {id : Nat} :
    ((orders ++ [(k, id)]).filter fun o => o.1 = some key).map Prod.snd =
      (orders.filter fun o => o.1 = some key).map Prod.snd ++ if k = some key then [id] else [] := by
  rw [List.filter_append, List.map_append]
  congr 1
  by_cases hk : k = some key <;> simp [hk]

/-- A step of a call with another key. -/
theorem step_other (h : KeyInv key w) {clock : Clock} (hsettled : Settled key w (.step i clock))
    (hi : w.key i ≠ some key) : KeyInv key (step w (.step i clock)) := by
  refine h.congr (key_step w _) (fun j hj => at_step_of_ne fun hji => hi (hji ▸ hj)) (cacheAfter_length h.bound _) ?_ ?_
  · show (w.cacheAfter (w.db.client i).state).get key = w.cache.get key
    have hroom := hsettled.2
    unfold World.cacheAfter
    split
    · split
      · rw [evict_of_le h.bound]
      · rfl
    · rename_i k id order hk hat
      exact get_evict_set h.bound (fun heq => hi (by rw [heq]; exact hk)) (hroom k id order hk hat)
    · rfl
  · show ((w.ordersAfter (w.db.client i).state).filter fun o => o.1 = some key).map Prod.snd = w.ordersFor key
    unfold World.ordersAfter
    split
    · have hne : (w.db.client i).state.call.idempotencyKey ≠ some key := hi
      rw [ordersFor_append, if_neg hne, List.append_nil]
      rfl
    · rfl

/-- An order that a call with the key has returned is the one in the cache. -/
theorem returned_stored (h : KeyInv key w) (hi : w.key i = some key) {ref : OrderRef}
    (href : orderReturned (w.at_ i) = some ref) :
    w.cache.get key = some ref := by
  cases hget : w.cache.get key with
  | none =>
    rw [(h.unstored hget).1 i hi] at href
    cases href
  | some ref' => rw [(h.stored ref' hget).2.2 i ref hi href]

/-- While a call with the key is creating there is no entry, and no other call with the key is creating. -/
theorem creating_alone (h : KeyInv key w) (hi : w.key i = some key) (hc : creating (w.at_ i) = true) :
    w.cache.get key = none ∧ ∀ j, j ≠ i → w.key j = some key → creating (w.at_ j) = false := by
  refine ⟨?_, fun j hne hj => ?_⟩
  · cases hget : w.cache.get key with
    | none => rfl
    | some ref => exact absurd hc (by simp [(h.stored ref hget).2.1 i hi])
  · by_contra hcj
    exact hne (h.alone j i hj hi (by simpa using hcj) hc)

/-- A call with the key moves on, and neither its entry nor its rows change. -/
theorem quiet (h : KeyInv key w) (hi : w.key i = some key) (hkey : ∀ j, w'.key j = w.key j)
    (hne : ∀ j, j ≠ i → w'.at_ j = w.at_ j) (hbound : w'.cache.length ≤ idempotencyMax)
    (hget : w'.cache.get key = w.cache.get key) (horders : w'.ordersFor key = w.ordersFor key)
    (hcreating : creating (w'.at_ i) = true →
      w.cache.get key = none ∧ ∀ j, j ≠ i → w.key j = some key → creating (w.at_ j) = false)
    (hreturned : ∀ ref, orderReturned (w'.at_ i) = some ref → w.cache.get key = some ref)
    (hcommitted : ∀ id order, w.at_ i ≠ .committed id order ∧ w'.at_ i ≠ .committed id order) : KeyInv key w' where
  bound := hbound
  alone j k hj hk hcj hck := by
    rw [hkey] at hj hk
    by_cases hji : j = i
    · subst hji
      by_contra hjk
      rw [hne k (Ne.symm hjk), (hcreating hcj).2 k (Ne.symm hjk) hk] at hck
      cases hck
    · rw [hne j hji] at hcj
      by_cases hki : k = i
      · subst hki
        rw [(hcreating hck).2 j hji hj] at hcj
        cases hcj
      · rw [hne k hki] at hck
        exact h.alone j k hj hk hcj hck
  stored ref href := by
    rw [hget] at href
    obtain ⟨h1, h2, h3⟩ := h.stored ref href
    refine ⟨horders.trans h1, fun j hj => ?_, fun j r hj hr => ?_⟩
    · rw [hkey] at hj
      by_cases hji : j = i
      · subst hji
        by_contra hcj
        rw [(hcreating (by simpa using hcj)).1] at href
        cases href
      · rw [hne j hji]
        exact h2 j hj
    · rw [hkey] at hj
      by_cases hji : j = i
      · subst hji
        rw [hreturned r hr] at href
        exact Option.some.inj href
      · rw [hne j hji] at hr
        exact h3 j r hj hr
  unstored hnone := by
    rw [hget] at hnone
    obtain ⟨h1, h2⟩ := h.unstored hnone
    refine ⟨fun j hj => ?_, ?_⟩
    · rw [hkey] at hj
      by_cases hji : j = i
      · subst hji
        by_contra hr
        obtain ⟨ref, href⟩ := Option.ne_none_iff_exists'.mp hr
        rw [hreturned ref href] at hnone
        cases hnone
      · rw [hne j hji]
        exact h1 j hj
    · rw [horders]
      rcases h2 with ⟨h2, h3⟩ | ⟨j, id, order, hj, hat, h2⟩
      · refine Or.inl ⟨h2, fun j id order hj => ?_⟩
        rw [hkey] at hj
        by_cases hji : j = i
        · subst hji
          exact (hcommitted id order).2
        · rw [hne j hji]
          exact h3 j id order hj
      · have hji : j ≠ i := by
          rintro rfl
          exact (hcommitted id order).1 hat
        exact Or.inr ⟨j, id, order, by rw [hkey, hj], by rw [hne j hji, hat], h2⟩

/-- The only call creating commits its row. -/
theorem commits (h : KeyInv key w) (hi : w.key i = some key) {id : Nat} {order : Order}
    (hat : w.at_ i = .refreshed id order)
    (hkey : ∀ j, w'.key j = w.key j) (hne : ∀ j, j ≠ i → w'.at_ j = w.at_ j) (hat' : w'.at_ i = .committed id order)
    (hcache : w'.cache = w.cache) (horders : w'.ordersFor key = w.ordersFor key ++ [id]) : KeyInv key w' := by
  obtain ⟨hnone, hothers⟩ := h.creating_alone hi (by rw [hat]; rfl)
  obtain ⟨hreturned, hrows⟩ := h.unstored hnone
  have hempty : w.ordersFor key = [] := by
    rcases hrows with ⟨hempty, -⟩ | ⟨j, id', order', hj, hatj, -⟩
    · exact hempty
    · by_cases hji : j = i
      · subst hji
        rw [hat] at hatj
        cases hatj
      · exact absurd (hothers j hji hj) (by rw [hatj]; simp [creating])
  refine ⟨hcache ▸ h.bound, fun j k hj hk hcj hck => ?_, fun ref href => ?_, fun _ => ⟨fun j hj => ?_, Or.inr ?_⟩⟩
  · rw [hkey] at hj hk
    have honly : ∀ m, w.key m = some key → creating (w'.at_ m) = true → m = i := by
      intro m hm hcm
      by_contra hmi
      rw [hne m hmi, hothers m hmi hm] at hcm
      cases hcm
    rw [honly j hj hcj, honly k hk hck]
  · rw [hcache, hnone] at href
    cases href
  · rw [hkey] at hj
    by_cases hji : j = i
    · subst hji
      rw [hat']
      rfl
    · rw [hne j hji]
      exact hreturned j hj
  · exact ⟨i, id, order, by rw [hkey, hi], hat', by rw [horders, hempty]; rfl⟩

/-- The entry of a key that was not there is not the oldest of a full cache. -/
theorem get_evict_set_self {cache : Dict String OrderRef} {ref : OrderRef} (hnone : cache.get key = none) :
    (evictOldestIfFull (cache.set key ref)).get key = some ref := by
  have hnew : key ∉ cache.keys := Dict.get_eq_none_iff.mp hnone
  unfold evictOldestIfFull
  split
  · rename_i hfull
    have hhead : (cache.set key ref).keys.head? ≠ some key := by
      rw [Dict.length_set, if_neg hnew] at hfull
      rw [Dict.keys_set, if_neg hnew]
      cases cache with
      | nil => simp [idempotencyMax] at hfull
      | cons e cache =>
        intro hhead
        refine hnew ?_
        obtain rfl : e.1 = key := by simpa [Dict.keys] using hhead
        exact List.mem_cons_self
    rw [Dict.get_tail hhead, Dict.get_set_self]
  · exact Dict.get_set_self

/-- The only call creating writes its order to the cache and returns it. -/
theorem returns (h : KeyInv key w) (hi : w.key i = some key) {id : Nat} {order : Order}
    (hat : w.at_ i = .committed id order) (hkey : ∀ j, w'.key j = w.key j) (hne : ∀ j, j ≠ i → w'.at_ j = w.at_ j)
    (hat' : w'.at_ i = .done (.orderRef id order)) (hcache : w'.cache = evictOldestIfFull (w.cache.set key (id, order)))
    (horders : w'.ordersFor key = w.ordersFor key) : KeyInv key w' := by
  obtain ⟨hnone, hothers⟩ := h.creating_alone hi (by rw [hat]; rfl)
  obtain ⟨hreturned, hrows⟩ := h.unstored hnone
  have hrow : w.ordersFor key = [id] := by
    rcases hrows with ⟨-, hnot⟩ | ⟨j, id', order', hj, hatj, hrow⟩
    · exact absurd hat (hnot i id order hi)
    · by_cases hji : j = i
      · subst hji
        rw [hat, McpCreateOrder.committed.injEq] at hatj
        rw [hrow, hatj.1]
      · exact absurd (hothers j hji hj) (by rw [hatj]; simp [creating])
  have hget : w'.cache.get key = some (id, order) := by rw [hcache, get_evict_set_self hnone]
  have hquiet : ∀ j, w.key j = some key → creating (w'.at_ j) = false := by
    intro j hj
    by_cases hji : j = i
    · subst hji
      rw [hat']
      rfl
    · rw [hne j hji]
      exact hothers j hji hj
  refine ⟨by rw [hcache]; exact evict_length (set_length h.bound), fun j k hj _ hcj => ?_, fun ref href => ?_, fun hn => ?_⟩
  · rw [hkey] at hj
    rw [hquiet j hj] at hcj
    cases hcj
  · rw [hget, Option.some.injEq] at href
    subst href
    refine ⟨horders.trans hrow, fun j hj => hquiet j (by rwa [hkey] at hj), fun j r hj hr => ?_⟩
    rw [hkey] at hj
    by_cases hji : j = i
    · subst hji
      rw [hat'] at hr
      exact (Option.some.inj hr).symm
    · rw [hne j hji, hreturned j hj] at hr
      cases hr
  · rw [hget] at hn
    cases hn

theorem cache_step (hi : w.key i = some key) {st : McpCreateOrder} (hat : w.at_ i = st) (clock : Clock) :
    (step w (.step i clock)).cache = match st with
      | .start => if (w.cache.get key).isSome then evictOldestIfFull w.cache else w.cache
      | .committed id order => evictOldestIfFull (w.cache.set key (id, order))
      | _ => w.cache := by
  show w.cacheAfter (w.db.client i).state = _
  unfold World.key at hi
  unfold World.at_ at hat
  unfold World.cacheAfter
  rw [hi, hat]
  cases st <;> rfl

theorem ordersFor_step (hi : w.key i = some key) {st : McpCreateOrder} (hat : w.at_ i = st) (clock : Clock) :
    (step w (.step i clock)).ordersFor key = match st with
      | .refreshed id _ => w.ordersFor key ++ [id]
      | _ => w.ordersFor key := by
  show ((w.ordersAfter (w.db.client i).state).filter fun o => o.1 = some key).map Prod.snd = _
  unfold World.key at hi
  unfold World.at_ at hat
  unfold World.ordersAfter
  rw [hat]
  cases st with
  | refreshed id order => rw [ordersFor_append, if_pos hi]; rfl
  | _ => rfl

/-- A step of a call with the key. -/
theorem step_own (h : KeyInv key w) {clock : Clock} (hsettled : Settled key w (.step i clock)) (hi : w.key i = some key) :
    KeyInv key (step w (.step i clock)) := by
  have hgoes := at_step w i clock
  have hcached : w.cached (w.db.client i).state.call = w.cache.get key := by
    unfold World.key at hi
    rw [World.cached, hi]
    rfl
  rw [hcached] at hgoes
  have hkey := key_step w (.step i clock)
  have hne : ∀ j, j ≠ i → (step w (.step i clock)).at_ j = w.at_ j := fun j hj => at_step_of_ne hj
  have hbound : (step w (.step i clock)).cache.length ≤ idempotencyMax := cacheAfter_length h.bound _
  generalize hat : w.at_ i = st at hgoes
  generalize hat' : (step w (.step i clock)).at_ i = st' at hgoes
  have hcache := cache_step hi hat clock
  have horders := ordersFor_step hi hat clock
  cases hgoes with
  | hit hget =>
    have hsame : (step w (.step i clock)).cache = w.cache := by
      rw [hcache]
      simp only [hget, Option.isSome_some, if_true]
      exact evict_of_le h.bound
    refine h.quiet hi hkey hne hbound (by rw [hsame]) horders ?_ ?_ ?_
    · simp [hat', creating]
    · simpa [hat', orderReturned] using hget
    · simp [hat, hat']
  | miss hget =>
    have hsame : (step w (.step i clock)).cache = w.cache := by
      rw [hcache]
      simp [hget]
    refine h.quiet hi hkey hne hbound (by rw [hsame]) horders (fun _ => ⟨hget, hsettled.1 hi hat hget⟩) ?_ ?_
    · simp [hat', orderReturned]
    · simp [hat, hat']
  | insert =>
    refine h.quiet hi hkey hne hbound (by rw [hcache]) horders (fun _ => h.creating_alone hi (by rw [hat]; rfl)) ?_ ?_
    · simp [hat', orderReturned]
    · simp [hat, hat']
  | refuse =>
    refine h.quiet hi hkey hne hbound (by rw [hcache]) horders ?_ ?_ ?_
    · simp [hat', creating]
    · simp [hat', orderReturned]
    · simp [hat, hat']
  | refresh =>
    refine h.quiet hi hkey hne hbound (by rw [hcache]) horders (fun _ => h.creating_alone hi (by rw [hat]; rfl)) ?_ ?_
    · simp [hat', orderReturned]
    · simp [hat, hat']
  | gone =>
    refine h.quiet hi hkey hne hbound (by rw [hcache]) horders ?_ ?_ ?_
    · simp [hat', creating]
    · simp [hat', orderReturned, notRefreshed]
    · simp [hat, hat']
  | commit => exact h.commits hi hat hkey hne hat' hcache horders
  | returns => exact h.returns hi hat hkey hne hat' hcache horders
  | ended =>
    refine h.quiet hi hkey hne hbound (by rw [hcache]) horders ?_ ?_ ?_
    · simp [hat', creating]
    · intro ref href
      rw [hat', ← hat] at href
      exact h.returned_stored hi href
    · simp [hat, hat']

/-! ### Calls that are broken off -/

theorem step_fail (h : KeyInv key w) (hsettled : Settled key w (.fail i)) : KeyInv key (step w (.fail i)) := by
  have hkey := key_step w (.fail i)
  have hat' : (step w (.fail i)).at_ i = w.at_ i ∨ ∃ text, (step w (.fail i)).at_ i = .done (.raised text) := by
    simp only [step]
    split
    · exact Or.inl rfl
    · refine Or.inr ⟨"DBAPIError", ?_⟩
      simp [World.at_, perform, finish]
  have hne : ∀ j, j ≠ i → (step w (.fail i)).at_ j = w.at_ j := by
    intro j hj
    simp only [step]
    split
    · rfl
    · show ((w.db.perform i (.rollback _)).client j).state.at_ = _
      rw [perform_client_of_ne hj]
      rfl
  have hsame : (step w (.fail i)).cache = w.cache ∧ (step w (.fail i)).orders = w.orders := by
    simp only [step]
    split <;> exact ⟨rfl, rfl⟩
  have horders : (step w (.fail i)).ordersFor key = w.ordersFor key := by rw [World.ordersFor, hsame.2]; rfl
  have hbound : (step w (.fail i)).cache.length ≤ idempotencyMax := hsame.1 ▸ h.bound
  by_cases hi : w.key i = some key
  · rcases hat' with hat' | ⟨text, hat'⟩
    · refine h.congr hkey (fun j _ => ?_) hbound (by rw [hsame.1]) horders
      by_cases hji : j = i
      · rw [hji, hat']
      · exact hne j hji
    · refine h.quiet hi hkey hne hbound (by rw [hsame.1]) horders ?_ ?_ fun id order => ⟨hsettled hi id order, ?_⟩
      · simp [hat', creating]
      · simp [hat', orderReturned]
      · simp [hat']
  · exact h.congr hkey (fun j hj => hne j fun hji => hi (hji ▸ hj)) hbound (by rw [hsame.1]) horders

theorem step_lost (h : KeyInv key w) (hsettled : Settled key w (.lost i)) : KeyInv key (step w (.lost i)) := by
  have hne : ∀ j, j ≠ i → (step w (.lost i)).at_ j = w.at_ j := by
    intro j hj
    simp only [step]
    split
    · show ((w.db.perform i (.commit _)).client j).state.at_ = _
      rw [perform_client_of_ne hj]
      rfl
    · rfl
  have hcache : (step w (.lost i)).cache = w.cache := by
    simp only [step]
    split <;> rfl
  refine h.congr (key_step w _) (fun j hj => hne j fun hji => hsettled (hji ▸ hj)) (hcache ▸ h.bound) (by rw [hcache]) ?_
  simp only [step]
  split
  · show ((w.ordersAfter (w.db.client i).state).filter fun o => o.1 = some key).map Prod.snd = w.ordersFor key
    have hother : (w.db.client i).state.call.idempotencyKey ≠ some key := hsettled
    unfold World.ordersAfter
    split
    · rw [ordersFor_append, if_neg hother, List.append_nil]
      rfl
    · rfl
  · rfl

theorem step (h : KeyInv key w) {e : Event} (hsettled : Settled key w e) : KeyInv key (step w e) := by
  cases e with
  | step i clock =>
    by_cases hi : w.key i = some key
    · exact h.step_own hsettled hi
    · exact h.step_other hsettled hi
  | fail i => exact h.step_fail hsettled
  | lost i => exact h.step_lost hsettled

theorem serve (rows : Rows Row) (seq : Table → Nat) (calls : Nat → Call) : KeyInv key (serve rows seq calls) where
  bound := Nat.zero_le _
  alone i j _ _ hc := by cases hc
  stored ref href := by cases href
  unstored _ := ⟨fun _ _ => rfl, Or.inl ⟨rfl, fun i id order _ h => by cases h⟩⟩

theorem idempotent (h : KeyInv key w) : Idempotent key w where
  sameRef i j ref ref' hi hj hr hr' := by
    have hget := h.returned_stored hi hr
    rw [h.returned_stored hj hr'] at hget
    exact (Option.some.inj hget).symm
  oneRow := by
    cases hget : w.cache.get key with
    | some ref => rw [(h.stored ref hget).1]; exact Nat.le_refl 1
    | none =>
      rcases (h.unstored hget).2 with ⟨hrow, -⟩ | ⟨i, id, order, -, -, hrow⟩ <;> rw [hrow] <;> simp

end KeyInv

end IrisService.Mcp
