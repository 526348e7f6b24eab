import Mathlib.Data.List.Dedup
import Mathlib.Data.List.Basic

/-! Grouping rows by a key that some of them lack, and left joins. A series is a column of values with their
index; reading it at an index it does not have gives `none`. -/

namespace GroupBy

variable {R L K V W : Type} [DecidableEq K]

/-- A series, indexed by its keys. -/
abbrev Series (K V : Type) := List (K × V)

/-- The rows with the key `k`. -/
def group (key : R → Option K) (rows : List R) (k : K) : List R := rows.filter fun r => key r = some k

/-- One value for each key that a row has. -/
def agg (key : R → Option K) (rows : List R) (f : List R → V) : Series K V :=
  (rows.filterMap key).dedup.map fun k => (k, f (group key rows k))

/-- The values at the given index. -/
def Series.reindex (s : Series K V) (index : List K) : List (Option V) := index.map fun k => s.lookup k

/-- Two series combined by index. -/
def Series.zipWith (f : V → V → W) (s t : Series K V) : Series K (Option W) :=
  s.map fun e => (e.1, (t.lookup e.1).map (f e.2))

/-- Each row on the left with every row on the right that has its key, or with none. -/
def leftJoin (leftKey : L → K) (rightKey : R → K) (left : List L) (right : List R) : List (L × Option R) :=
  left.flatMap fun l =>
    match right.filter fun r => rightKey r = leftKey l with
    | [] => [(l, none)]
    | r :: rs => (r :: rs).map fun r => (l, some r)

/-! ### Groups -/

section Groups
variable {key : R → Option K} {rows : List R} {k : K}

theorem mem_keys : k ∈ rows.filterMap key ↔ group key rows k ≠ [] := by
  rw [List.mem_filterMap, group, ne_eq, List.filter_eq_nil_iff, not_forall]
  constructor
  · rintro ⟨r, hr, hk⟩
    exact ⟨r, fun h => h hr (by simpa using hk)⟩
  · rintro ⟨r, h⟩
    by_contra hnone
    exact h fun hr hk => hnone ⟨r, hr, by simpa using hk⟩

/-- An aggregate is there for the keys whose group has a row, and is computed from the group. -/
theorem lookup_agg (f : List R → V) :
    (agg key rows f).lookup k = if group key rows k = [] then none else some (f (group key rows k)) := by
  by_cases hk : k ∈ (rows.filterMap key).dedup
  · rw [if_neg (mem_keys.mp (List.mem_dedup.mp hk)), agg, List.lookup_graph _ hk]
  · rw [if_pos (by_contra fun hne => hk (List.mem_dedup.mpr (mem_keys.mpr hne))), agg, List.lookup_eq_none_iff]
    intro e he
    obtain ⟨k', hk', rfl⟩ := List.mem_map.mp he
    have hne : k ≠ k' := fun heq => hk (heq ▸ hk')
    simpa using hne

/-- Where an empty group would give the filling, an aggregate may be read off the group. -/
theorem getD_lookup_agg (f : List R → V) {d : V} (hd : f [] = d) :
    ((agg key rows f).lookup k).getD d = f (group key rows k) := by
  rw [lookup_agg]
  split
  · rename_i hnil
    rw [hnil, hd]
    rfl
  · rfl

/-- An aggregate that may be missing. -/
theorem join_lookup_agg (f : List R → Option V) (hf : f [] = none) :
    ((agg key rows f).lookup k).join = f (group key rows k) := by
  rw [lookup_agg]
  split
  · rename_i hnil
    rw [hnil, hf]
    rfl
  · rfl

theorem lookup_map (f : V → W) (s : Series K V) : List.lookup k (s.map fun e => (e.1, f e.2)) = (s.lookup k).map f := by
  induction s with
  | nil => rfl
  | cons e s ih =>
    obtain ⟨k', v⟩ := e
    by_cases he : k = k'
    · subst he
      simp
    · have hne : (k == k') = false := by simpa using he
      rw [List.map_cons, List.lookup_cons, hne, List.lookup_cons, hne]
      exact ih

theorem lookup_zipWith (f : V → V → W) (s t : Series K V) :
    (Series.zipWith f s t).lookup k = (s.lookup k).map fun v => (t.lookup k).map (f v) := by
  induction s with
  | nil => rfl
  | cons e s ih =>
    obtain ⟨k', v⟩ := e
    by_cases he : k = k'
    · subst he
      simp [Series.zipWith]
    · have hne : (k == k') = false := by simpa using he
      rw [Series.zipWith, List.map_cons, List.lookup_cons, hne, List.lookup_cons, hne]
      exact ih

end Groups

/-! ### Joins -/

section Joins
variable {leftKey : L → K} {rightKey : R → K} {left : List L} {right : List R}

/-- A key that is nowhere twice picks out its row. -/
theorem filter_eq_of_nodup (h : (right.map rightKey).Nodup) {r : R} (hr : r ∈ right) :
    (right.filter fun r' => rightKey r' = rightKey r) = [r] := by
  induction right with
  | nil => cases hr
  | cons r' right ih =>
    obtain ⟨hnew, hright⟩ := List.nodup_cons.mp h
    rcases List.mem_cons.mp hr with rfl | hr
    · rw [List.filter_cons_of_pos (by simp), List.filter_eq_nil_iff.mpr]
      intro s hs heq
      exact hnew (List.mem_map.mpr ⟨s, hs, by simpa using heq⟩)
    · have hne : rightKey r' ≠ rightKey r := fun heq => hnew (List.mem_map.mpr ⟨r, hr, heq.symm⟩)
      rw [List.filter_cons_of_neg (by simpa using hne), ih hright hr]

/-- The rows on the left whose partner satisfies `p` are those with the key of such a row, once each. -/
theorem filter_leftJoin (h : (right.map rightKey).Nodup) (p : R → Bool) :
    ((leftJoin leftKey rightKey left right).filter fun e => e.2.any p).map Prod.fst =
      left.filter fun l => leftKey l ∈ (right.filter p).map rightKey := by
  induction left with
  | nil => rfl
  | cons l left ih =>
    rw [leftJoin, List.flatMap_cons, List.filter_append, List.map_append]
    have htail := ih
    rw [leftJoin] at htail
    rw [htail]
    by_cases hl : ∃ r ∈ right, rightKey r = leftKey l
    · obtain ⟨r, hr, hkey⟩ := hl
      have hpartner : (right.filter fun r' => rightKey r' = leftKey l) = [r] := by
        rw [← hkey]
        exact filter_eq_of_nodup h hr
      have hmem : leftKey l ∈ (right.filter p).map rightKey ↔ p r = true := by
        rw [List.mem_map]
        constructor
        · rintro ⟨r', hr', hkey'⟩
          obtain ⟨hr', hp⟩ := List.mem_filter.mp hr'
          have hsame : r' ∈ right.filter fun r' => rightKey r' = leftKey l :=
            List.mem_filter.mpr ⟨hr', by simpa using hkey'⟩
          rw [hpartner, List.mem_singleton] at hsame
          rwa [hsame] at hp
        · intro hp
          exact ⟨r, List.mem_filter.mpr ⟨hr, hp⟩, hkey⟩
      rw [hpartner]
      by_cases hp : p r = true
      · simp [hp, hmem.mpr hp]
      · simp [hp, mt hmem.mp hp]
    · have hpartner : (right.filter fun r' => rightKey r' = leftKey l) = [] := by
        rw [List.filter_eq_nil_iff]
        intro r hr heq
        exact hl ⟨r, hr, by simpa using heq⟩
      have hmem : leftKey l ∉ (right.filter p).map rightKey := by
        intro hmem
        obtain ⟨r, hr, hkey⟩ := List.mem_map.mp hmem
        exact hl ⟨r, (List.mem_filter.mp hr).1, hkey⟩
      rw [hpartner]
      simp [hmem]

end Joins

end GroupBy
