import Mathlib.Data.List.DropRight

/-! The last entries of a list: what a bounded queue keeps of what was put into it, and the last entries that meet a
condition. -/

namespace Tails

variable {α : Type}

/-- An append to a queue that keeps the last `n` entries. -/
def push (n : Nat) (queue : List α) (x : α) : List α := (queue ++ [x]).rtake n

theorem rtake_rtake (n m : Nat) (l : List α) : (l.rtake m).rtake n = l.rtake (min n m) := by
  rw [List.rtake_eq_reverse_take_reverse, List.rtake_eq_reverse_take_reverse, List.reverse_reverse, List.take_take,
    ← List.rtake_eq_reverse_take_reverse]

theorem push_rtake (n : Nat) (l : List α) (x : α) : push n (l.rtake n) x = (l ++ [x]).rtake n := by
  cases n with
  | zero => rw [push, List.rtake_zero, List.rtake_zero]
  | succ n =>
    rw [push, List.rtake_concat_succ, List.rtake_concat_succ, rtake_rtake, Nat.min_eq_left (Nat.le_succ n)]

theorem length_push_le (n : Nat) (l : List α) (x : α) : (push n l x).length ≤ n := by
  rw [push, List.rtake, List.length_drop]
  omega

theorem mem_of_mem_rtake {n : Nat} {l : List α} {x : α} (h : x ∈ l.rtake n) : x ∈ l := List.mem_of_mem_drop h

/-- An entry is among the last `n` that meet `q` when fewer than `n` of the later ones meet it. -/
theorem mem_rtake_filter {q : α → Bool} {n : Nat} {l : List α} {x : α} :
    x ∈ (l.filter q).rtake n ↔
      ∃ pre post, l = pre ++ x :: post ∧ q x = true ∧ (post.filter q).length < n := by
  constructor
  · intro hx
    obtain ⟨front, back, hsplit⟩ := List.append_of_mem hx
    have hlast : (l.filter q) = ((l.filter q).rdrop n ++ front) ++ x :: back := by
      rw [List.append_assoc, ← hsplit, List.rdrop, List.rtake, List.take_append_drop]
    obtain ⟨pre, rest, rfl, -, hrest⟩ := List.filter_eq_append_iff.mp hlast
    obtain ⟨skipped, post, rfl, -, hqx, hpost⟩ := List.filter_eq_cons_iff.mp hrest
    refine ⟨pre ++ skipped, post, by simp, hqx, ?_⟩
    have hlength := congrArg List.length hsplit
    rw [List.rtake, List.length_drop, List.length_append, List.length_cons] at hlength
    rw [hpost]
    omega
  · rintro ⟨pre, post, rfl, hqx, hlt⟩
    have hcut : (pre.filter q ++ x :: post.filter q).length - n ≤ (pre.filter q).length := by
      rw [List.length_append, List.length_cons]
      omega
    rw [List.filter_append, List.filter_cons_of_pos hqx, List.rtake, List.drop_append_of_le_length hcut]
    exact List.mem_append_right _ List.mem_cons_self

/-- A stricter condition has the same last `n` entries when all of these meet it. -/
theorem rtake_filter_eq_iff {p q : α → Bool} {n : Nat} {l : List α} (himp : ∀ x ∈ l, p x = true → q x = true) :
    (l.filter p).rtake n = (l.filter q).rtake n ↔ ∀ x ∈ (l.filter q).rtake n, p x = true := by
  have hfilter : l.filter p = (l.filter q).filter p := by
    rw [List.filter_filter]
    refine List.filter_congr fun x hx => ?_
    rw [Bool.eq_iff_iff, Bool.and_eq_true]
    exact ⟨fun hp => ⟨hp, himp x hx hp⟩, fun h => h.1⟩
  constructor
  · intro heq x hx
    rw [← heq] at hx
    exact (List.mem_filter.mp (mem_of_mem_rtake hx)).2
  · intro hall
    rw [hfilter]
    generalize l.filter q = m at hall ⊢
    have hsplit : m = m.rdrop n ++ m.rtake n := by rw [List.rdrop, List.rtake, List.take_append_drop]
    have htail : (m.rtake n).filter p = m.rtake n := List.filter_eq_self.mpr hall
    have hfront : m.filter p = (m.rdrop n).filter p ++ m.rtake n := by
      conv_lhs => rw [hsplit, List.filter_append, htail]
    rw [hfront]
    rcases Nat.lt_or_ge m.length n with hshort | hlong
    · -- All of the list is taken.
      have hnil : m.rdrop n = [] := by
        rw [List.rdrop, Nat.sub_eq_zero_of_le hshort.le, List.take_zero]
      rw [hnil, List.filter_nil, List.nil_append, rtake_rtake, Nat.min_self]
    · have hlength : (m.rtake n).length = n := by
        rw [List.rtake, List.length_drop]
        omega
      rw [List.rtake, List.length_append, hlength, Nat.add_sub_cancel, List.drop_left]

end Tails
