import Mathlib.Data.List.Basic
import Mathlib.Data.List.Nodup

/-! Python's `dict`: entries in the order their keys were first set. -/

namespace IrisService

/-- A `dict`, in insertion order. -/
abbrev Dict (K V : Type) := List (K × V)

namespace Dict

variable {K V : Type} [DecidableEq K] {d : Dict K V} {k k' : K} {v : V}

/-- The keys, in insertion order. -/
def keys (d : Dict K V) : List K := d.map Prod.fst

/-- `d.get(k)` -/
def get : Dict K V → K → Option V
  | [], _ => none
  | (k', v) :: d, k => if k' = k then some v else get d k

/-- `d[k] = v`: a key that is there keeps its place. -/
def set : Dict K V → K → V → Dict K V
  | [], k, v => [(k, v)]
  | (k', v') :: d, k, v => if k' = k then (k, v) :: d else (k', v') :: set d k v

/-- `d.pop(k, None)` -/
def pop : Dict K V → K → Dict K V
  | [], _ => []
  | (k', v) :: d, k => if k' = k then d else (k', v) :: pop d k

theorem get_eq_none_iff : get d k = none ↔ k ∉ keys d := by
  induction d with
  | nil => simp [get, keys]
  | cons e d ih =>
    by_cases h : e.1 = k
    · simp [get, keys, h]
    · have hne : k ≠ e.1 := fun he => h he.symm
      simpa [get, keys, h, hne] using ih

@[simp] theorem get_set_self : get (set d k v) k = some v := by
  induction d with
  | nil => simp [set, get]
  | cons e d ih =>
    by_cases h : e.1 = k
    · simp [set, get, h]
    · simp [set, get, h, ih]

@[simp] theorem get_set_of_ne (h : k' ≠ k) : get (set d k v) k' = get d k' := by
  induction d with
  | nil => simp [set, get, Ne.symm h]
  | cons e d ih =>
    by_cases he : e.1 = k
    · have hne : e.1 ≠ k' := fun h' => h (h'.symm.trans he)
      simp [set, get, he, Ne.symm h]
    · by_cases he' : e.1 = k'
      · subst he'
        simp [set, get, h]
      · simp [set, get, he, he', ih]

theorem keys_set : keys (set d k v) = if k ∈ keys d then keys d else keys d ++ [k] := by
  induction d with
  | nil => simp [set, keys]
  | cons e d ih =>
    by_cases he : e.1 = k
    · simp [set, keys, he]
    · have hne : k ≠ e.1 := fun h => he h.symm
      simp only [keys] at ih
      by_cases hk : k ∈ d.map Prod.fst
      · simp [set, keys, he, hne, ih, hk]
      · simp [set, keys, he, hne, ih, hk]

theorem nodup_set (h : (keys d).Nodup) : (keys (set d k v)).Nodup := by
  rw [keys_set]
  split
  · exact h
  · rename_i hk
    exact List.nodup_append.mpr ⟨h, List.nodup_singleton k, fun a ha b hb => by
      rw [List.mem_singleton.mp hb]
      rintro rfl
      exact hk ha⟩

theorem length_set : (set d k v).length = if k ∈ keys d then d.length else d.length + 1 := by
  have h := congrArg List.length (keys_set (d := d) (k := k) (v := v))
  by_cases hk : k ∈ keys d
  · rw [if_pos hk] at h ⊢
    simpa [keys] using h
  · rw [if_neg hk] at h ⊢
    simpa [keys] using h

theorem mem_of_get (h : get d k = some v) : (k, v) ∈ d := by
  induction d with
  | nil => cases h
  | cons e d ih =>
    by_cases he : e.1 = k
    · simp only [get, he, if_true, Option.some.injEq] at h
      rw [← he, ← h]
      exact List.mem_cons_self
    · simp only [get, he, if_false] at h
      exact List.mem_cons_of_mem e (ih h)

omit [DecidableEq K] in
theorem mem_keys {e : K × V} (h : e ∈ d) : e.1 ∈ keys d := List.mem_map_of_mem h

/-- A new entry comes after those that are there. -/
theorem set_of_notMem (h : k ∉ keys d) : set d k v = d ++ [(k, v)] := by
  induction d with
  | nil => rfl
  | cons e d ih =>
    have hne : e.1 ≠ k := fun he => h (he ▸ List.mem_cons_self)
    have hd : k ∉ keys d := fun hk => h (List.mem_cons_of_mem _ hk)
    simp [set, hne, ih hd]

theorem mem_pop {e : K × V} (h : (keys d).Nodup) : e ∈ pop d k ↔ e ∈ d ∧ e.1 ≠ k := by
  induction d with
  | nil => simp [pop]
  | cons e' d ih =>
    obtain ⟨hnew, hd⟩ := List.nodup_cons.mp h
    by_cases he : e'.1 = k
    · simp only [pop, he, if_true]
      refine ⟨fun hmem => ⟨List.mem_cons_of_mem e' hmem, fun hk => hnew ?_⟩, fun ⟨hmem, hk⟩ => ?_⟩
      · rw [he, ← hk]
        exact mem_keys hmem
      · rcases List.mem_cons.mp hmem with rfl | hmem
        · exact absurd he hk
        · exact hmem
    · simp only [pop, he, if_false, List.mem_cons, ih hd]
      refine ⟨?_, fun ⟨hmem, hk⟩ => hmem.imp_right fun hmem => ⟨hmem, hk⟩⟩
      rintro (rfl | ⟨hmem, hk⟩)
      · exact ⟨Or.inl rfl, he⟩
      · exact ⟨Or.inr hmem, hk⟩

theorem nodup_pop (h : (keys d).Nodup) : (keys (pop d k)).Nodup := by
  have hsub : (pop d k).Sublist d := by
    clear h
    induction d with
    | nil => exact List.Sublist.refl []
    | cons e d ih =>
      by_cases he : e.1 = k
      · simpa only [pop, he, if_true] using List.sublist_cons_self e d
      · simpa only [pop, he, if_false] using ih.cons_cons e
  exact h.sublist (hsub.map Prod.fst)

theorem get_of_mem (h : (keys d).Nodup) (hmem : (k, v) ∈ d) : get d k = some v := by
  induction d with
  | nil => cases hmem
  | cons e d ih =>
    obtain ⟨hnew, hd⟩ := List.nodup_cons.mp h
    rcases List.mem_cons.mp hmem with rfl | hmem
    · exact if_pos rfl
    · have hne : e.1 ≠ k := fun he => hnew (he ▸ mem_keys hmem)
      rw [get, if_neg hne, ih hd hmem]

/-! ### Values that are changed -/

section Values
variable {W : Type} (f : V → W)

omit [DecidableEq K] in
theorem keys_map : keys (d.map fun e => (e.1, f e.2)) = keys d := by
  rw [keys, List.map_map]
  rfl

theorem get_map : get (d.map fun e => (e.1, f e.2)) k = (get d k).map f := by
  induction d with
  | nil => rfl
  | cons e d ih =>
    by_cases he : e.1 = k
    · simp [get, he]
    · simpa [get, he] using ih

end Values

/-! ### Lists under their keys -/

section Lists
variable {index : Dict K (List V)} {entries : List (K × V)}

/-- `d.setdefault(k, []).append(v)` -/
def appendTo (index : Dict K (List V)) (k : K) (v : V) : Dict K (List V) := index.set k ((index.get k).getD [] ++ [v])

/-- Each value appended to the list of its key. -/
def appendAll (index : Dict K (List V)) (entries : List (K × V)) : Dict K (List V) :=
  entries.foldl (fun index e => index.appendTo e.1 e.2) index

theorem appendAll_append (index : Dict K (List V)) (entries entries' : List (K × V)) :
    index.appendAll (entries ++ entries') = (index.appendAll entries).appendAll entries' := List.foldl_append

theorem mem_keys_appendTo : k' ∈ keys (index.appendTo k v) ↔ k' ∈ keys index ∨ k' = k := by
  rw [appendTo, keys_set]
  split
  · rename_i hk
    exact ⟨Or.inl, fun h => h.elim id fun he => he ▸ hk⟩
  · rw [List.mem_append, List.mem_singleton]

/-- The keys are those that were there and those of the values. -/
theorem mem_keys_appendAll : k ∈ keys (index.appendAll entries) ↔ k ∈ keys index ∨ k ∈ entries.map Prod.fst := by
  induction entries generalizing index with
  | nil => simp [appendAll]
  | cons e entries ih =>
    refine (@ih (index.appendTo e.1 e.2)).trans ?_
    rw [mem_keys_appendTo, List.map_cons, List.mem_cons, or_assoc]

theorem nodup_appendAll (h : (keys index).Nodup) : (keys (index.appendAll entries)).Nodup := by
  induction entries generalizing index with
  | nil => exact h
  | cons e entries ih => exact ih (nodup_set h)

/-- The list of a key: what was there, and then its values in their order. -/
theorem getD_appendAll : (get (index.appendAll entries) k).getD [] =
    (get index k).getD [] ++ (entries.filter fun e => e.1 = k).map Prod.snd := by
  induction entries generalizing index with
  | nil => simp [appendAll]
  | cons e entries ih =>
    refine (@ih (index.appendTo e.1 e.2)).trans ?_
    by_cases he : e.1 = k
    · rw [List.filter_cons_of_pos (by simpa using he), appendTo, ← he, get_set_self]
      simp
    · rw [List.filter_cons_of_neg (by simpa using he), appendTo, get_set_of_ne (Ne.symm he)]

end Lists

/-- Dropping the oldest entry hides no other key. -/
theorem get_tail (h : (keys d).head? ≠ some k) : get d.tail k = get d k := by
  cases d with
  | nil => rfl
  | cons e d =>
    have hne : e.1 ≠ k := by simpa [keys] using h
    simp [get, hne]

end Dict

end IrisService
