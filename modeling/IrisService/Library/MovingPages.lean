import IrisService.Library.Pages
import Mathlib.Data.List.Perm.Subperm

/-! Pages of a listing that changes while it is read: the pages are cut from one list after another, all in the same
order. A row is passed over only if a row before it goes away, and shown again only if a row before it comes. -/

namespace Pages

variable {κ : Type} {before : κ → κ → Prop} {rows rows' : List κ} {size : Nat} {x : κ}

open Classical in
/-- How many rows are listed before this one. -/
noncomputable def rank (before : κ → κ → Prop) (rows : List κ) (x : κ) : Nat := rows.countP fun y => before y x

theorem rank_le_of_subset (hnodup : rows.Nodup) (h : ∀ y ∈ rows, before y x → y ∈ rows') :
    rank before rows x ≤ rank before rows' x := by
  classical
  rw [rank, rank, List.countP_eq_length_filter, List.countP_eq_length_filter]
  refine (List.subperm_of_subset (hnodup.filter _) fun y hy => ?_).length_le
  obtain ⟨hmem, hbefore⟩ := List.mem_filter.mp hy
  exact List.mem_filter.mpr ⟨h y hmem (of_decide_eq_true hbefore), hbefore⟩

/-- A row has as many rows before it as its place in the list says. -/
theorem rank_getElem (h : rows.Pairwise before) (hasymm : ∀ x y, before x y → ¬before y x) {j : Nat}
    (hj : rows[j]? = some x) :
    rank before rows x = j := by
  classical
  obtain ⟨hlt, rfl⟩ := List.getElem?_eq_some_iff.mp hj
  have hsplit : rows = rows.take j ++ rows[j] :: rows.drop (j + 1) := by
    rw [List.cons_getElem_drop_succ, List.take_append_drop]
  rw [hsplit, List.pairwise_append, List.pairwise_cons] at h
  obtain ⟨-, ⟨hafter, -⟩, hfirst⟩ := h
  have htake : (rows.take j).countP (fun y => decide (before y rows[j])) = j := by
    rw [List.countP_eq_length.mpr fun y hy => decide_eq_true (hfirst y hy _ List.mem_cons_self), List.length_take,
      Nat.min_eq_left hlt.le]
  have hdrop : (rows.drop (j + 1)).countP (fun y => decide (before y rows[j])) = 0 :=
    List.countP_eq_zero.mpr fun y hy hbefore => hasymm _ _ (hafter y hy) (of_decide_eq_true hbefore)
  have hself : (rows[j] :: rows.drop (j + 1)).countP (fun y => decide (before y rows[j])) =
      (rows.drop (j + 1)).countP fun y => decide (before y rows[j]) :=
    List.countP_cons_of_neg fun hbefore => hasymm _ _ (of_decide_eq_true hbefore) (of_decide_eq_true hbefore)
  calc rank before rows rows[j]
      = (rows.take j ++ rows[j] :: rows.drop (j + 1)).countP fun y => decide (before y rows[j]) := by rw [← hsplit]; rfl
    _ = j := by rw [List.countP_append, hself, htake, hdrop, Nat.add_zero]

/-- The page of a row is told by its rank. -/
theorem mem_page_iff (h : rows.Pairwise before) (hasymm : ∀ x y, before x y → ¬before y x) (hx : x ∈ rows) {k : Nat} :
    x ∈ page rows k size ↔ k * size ≤ rank before rows x ∧ rank before rows x < (k + 1) * size := by
  obtain ⟨j, hj⟩ := List.mem_iff_getElem?.mp hx
  have hrank : ∀ i, rows[i]? = some x → i = j := fun i hi =>
    (rank_getElem h hasymm hi).symm.trans (rank_getElem h hasymm hj)
  rw [rank_getElem h hasymm hj, page, List.mem_iff_getElem?]
  have hnext : (k + 1) * size = k * size + size := Nat.succ_mul k size
  constructor
  · rintro ⟨i, hi⟩
    rw [List.getElem?_take] at hi
    split at hi
    · rw [List.getElem?_drop] at hi
      have := hrank _ hi
      omega
    · cases hi
  · rintro ⟨hlow, hhigh⟩
    refine ⟨j - k * size, ?_⟩
    rw [List.getElem?_take, if_pos (by omega), List.getElem?_drop, Nat.add_sub_cancel' hlow, hj]

/-! ### One list after another -/

variable {books : Nat → List κ} {n : Nat}

/-- The `k`-th list holds what is listed when page `k` is read. -/
structure Moves (before : κ → κ → Prop) (books : Nat → List κ) : Prop where
  ordered : ∀ k, (books k).Pairwise before
  asymm : ∀ x y, before x y → ¬before y x

namespace Moves

theorem nodup (h : Moves before books) (k : Nat) : (books k).Nodup := (h.ordered k).imp fun {a b} hab => by
  rintro rfl
  exact h.asymm a a hab hab

/-- A row that is listed whenever a page is read is on one of the pages before an empty one, unless a row before it goes
    away between two pages. -/
theorem shown_or_gone (h : Moves before books) (hsize : 0 < size) (hx : ∀ k ≤ n, x ∈ books k)
    (hend : page (books n) n size = []) :
    (∃ k < n, x ∈ page (books k) k size) ∨ ∃ k < n, ∃ y ∈ books k, before y x ∧ y ∉ books (k + 1) := by
  by_contra hnot
  push Not at hnot
  obtain ⟨hmissed, hkept⟩ := hnot
  -- The row stays beyond the pages that have been read.
  have hahead : ∀ k ≤ n, k * size ≤ rank before (books k) x := by
    intro k hk
    induction k with
    | zero => simp
    | succ k ih =>
      have hlow := ih (Nat.le_of_succ_le hk)
      have hhigh : (k + 1) * size ≤ rank before (books k) x := by
        by_contra hlt
        exact hmissed k hk ((mem_page_iff (h.ordered k) h.asymm (hx k (Nat.le_of_succ_le hk))).mpr
          ⟨hlow, Nat.not_le.mp hlt⟩)
      exact hhigh.trans (rank_le_of_subset (h.nodup k) fun y hy hbefore => hkept k hk y hy hbefore)
  obtain ⟨j, hj⟩ := List.mem_iff_getElem?.mp (hx n le_rfl)
  have hrank := rank_getElem (h.ordered n) h.asymm hj
  have hlow := hahead n le_rfl
  have hlt := (List.getElem?_eq_some_iff.mp hj).1
  rw [page, List.take_eq_nil_iff, List.drop_eq_nil_iff] at hend
  omega

/-- A row is on one page only, unless a row before it comes between two pages. -/
theorem once_or_came (h : Moves before books) {j k : Nat} (hjk : j < k) (hj : x ∈ page (books j) j size)
    (hk : x ∈ page (books k) k size) : ∃ m, j ≤ m ∧ m < k ∧ ∃ y ∈ books (m + 1), before y x ∧ y ∉ books m := by
  by_contra hnot
  push Not at hnot
  have hfalls : ∀ m, j ≤ m → m ≤ k → rank before (books m) x ≤ rank before (books j) x := by
    intro m hm
    induction m, hm using Nat.le_induction with
    | base => exact fun _ => le_rfl
    | succ m hm ih =>
      intro hlt
      refine le_trans ?_ (ih (Nat.le_of_succ_le hlt))
      exact rank_le_of_subset (h.nodup (m + 1)) fun y hy hbefore => hnot m hm hlt y hy hbefore
  have hmem : ∀ {m}, x ∈ page (books m) m size → x ∈ books m := fun hm =>
    List.mem_of_mem_drop (List.mem_of_mem_take hm)
  have hlow := ((mem_page_iff (h.ordered k) h.asymm (hmem hk)).mp hk).1
  have hhigh := ((mem_page_iff (h.ordered j) h.asymm (hmem hj)).mp hj).2
  have hpages : (j + 1) * size ≤ k * size := Nat.mul_le_mul_right size hjk
  have := hfalls k hjk.le le_rfl
  omega

end Moves

end Pages
