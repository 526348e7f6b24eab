import Mathlib.Algebra.Order.Floor.Semiring
import Mathlib.Data.Rat.Floor
import Mathlib.Data.Set.Card

/-! A listing cut into pages of one size, and what a reader of all of its pages sees. -/

namespace Pages

variable {α : Type}

/-- Page number `page` of `size` rows. -/
def page (rows : List α) (page size : Nat) : List α := (rows.drop (page * size)).take size

/-- The pages of one size show each matching row once, in order, and `total` counts the matching rows. -/
structure Paginates (before : α → α → Prop) (matching : Set α) (size : Nat) (items : Nat → List α)
    (total : Nat → Nat) : Prop where
  complete : ∀ n, ⌈(matching.ncard : ℚ) / size⌉₊ ≤ n → ∀ x, x ∈ (List.range n).flatMap items ↔ x ∈ matching
  once : ∀ n, ((List.range n).flatMap items).Nodup
  ordered : ∀ n, ((List.range n).flatMap items).Pairwise before
  total : ∀ page, total page = matching.ncard
  beyond : ∀ page, ⌈(matching.ncard : ℚ) / size⌉₊ ≤ page → items page = []

variable {before : α → α → Prop} {matching : Set α} {rows : List α} {size : Nat} {items : Nat → List α}
  {total : Nat → Nat}

/-- The first `n` pages are the first `n * size` rows. -/
theorem flatMap_page (rows : List α) (size n : Nat) :
    ((List.range n).flatMap fun p => page rows p size) = rows.take (n * size) := by
  induction n with
  | zero => simp
  | succ n ih =>
    rw [List.range_succ, List.flatMap_append, ih, Nat.succ_mul, List.take_add]
    simp [page]

theorem ceil_div_le_iff (hsize : 0 < size) {count n : Nat} : ⌈(count : ℚ) / size⌉₊ ≤ n ↔ count ≤ n * size := by
  rw [Nat.ceil_le, div_le_iff₀ (by exact_mod_cast hsize)]
  exact_mod_cast Iff.rfl

/-- A listing that is a cut of one ordered list of the matching rows. -/
theorem Paginates.of_list (hsize : 0 < size) (hmem : ∀ x, x ∈ rows ↔ x ∈ matching) (hordered : rows.Pairwise before)
    (hirrefl : ∀ x, ¬ before x x) (hitems : ∀ p, items p = page rows p size) (htotal : ∀ p, total p = rows.length) :
    Paginates before matching size items total := by
  have hnodup : rows.Nodup := hordered.imp fun {a b} h => by
    rintro rfl
    exact hirrefl a h
  have hcard : matching.ncard = rows.length := by
    classical
    have hset : matching = (rows.toFinset : Set α) := by
      ext x
      rw [Finset.mem_coe, List.mem_toFinset, hmem]
    rw [hset, Set.ncard_coe_finset, List.toFinset_card_of_nodup hnodup]
  have hpages : ∀ n, (List.range n).flatMap items = rows.take (n * size) := by
    intro n
    rw [← flatMap_page]
    exact List.flatMap_congr fun p _ => hitems p
  refine ⟨fun n hn x => ?_, fun n => ?_, fun n => ?_, fun p => ?_, fun p hp => ?_⟩
  · rw [hcard, ceil_div_le_iff hsize] at hn
    rw [hpages, List.take_of_length_le hn, hmem]
  · rw [hpages]
    exact hnodup.sublist (List.take_sublist _ _)
  · rw [hpages]
    exact hordered.sublist (List.take_sublist _ _)
  · rw [htotal, hcard]
  · rw [hcard, ceil_div_le_iff hsize] at hp
    rw [hitems, page, List.drop_eq_nil_of_le hp, List.take_nil]

/-- The pages determine the rows that they show. -/
theorem Paginates.matching_eq {matching' : Set α} (h : Paginates before matching size items total)
    (h' : Paginates before matching' size items total) : matching = matching' := by
  ext x
  have hn := h.complete _ (le_max_left _ ⌈(matching'.ncard : ℚ) / size⌉₊) x
  have hn' := h'.complete _ (le_max_right ⌈(matching.ncard : ℚ) / size⌉₊ _) x
  exact hn.symm.trans hn'

end Pages
