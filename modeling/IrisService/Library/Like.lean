import Mathlib.Data.List.Infix

/-! SQL's `LIKE`. A pattern is a text in which three characters are read as metacharacters: one stands for any run
of characters, one for any single character, and the escape makes the character after it stand for itself. -/

namespace Like

variable {α : Type}

/-- The metacharacters of `LIKE`. -/
structure Metas (α : Type) where
  run : α
  one : α
  escape : α
  run_ne_escape : run ≠ escape

/-- A pattern, read. -/
inductive Piece (α : Type) where
  | run
  | one
  | lit (a : α)
  deriving DecidableEq, Repr

/-- The text matches all of the pieces. -/
def Matches [DecidableEq α] : List (Piece α) → List α → Bool
  | [], t => t.isEmpty
  | .run :: p, t => t.tails.any (Matches p)
  | .one :: _, [] => false
  | .one :: p, _ :: t => Matches p t
  | .lit _ :: _, [] => false
  | .lit a :: p, b :: t => a = b && Matches p t

section Matches
variable [DecidableEq α] {p : List (Piece α)} {w t : List α}

theorem matches_run : Matches (.run :: p) t = true ↔ ∃ s, s <:+ t ∧ Matches p s = true := by
  simp [Matches, List.any_eq_true, List.mem_tails]

theorem matches_lits : Matches (w.map .lit ++ p) t = true ↔ ∃ s, t = w ++ s ∧ Matches p s = true := by
  induction w generalizing t with
  | nil => simp
  | cons a w ih =>
    cases t with
    | nil => simp [Matches]
    | cons b t =>
      simp only [List.map_cons, List.cons_append, Matches, Bool.and_eq_true, decide_eq_true_eq, ih, List.cons.injEq]
      constructor
      · rintro ⟨rfl, s, rfl, hs⟩
        exact ⟨s, ⟨rfl, rfl⟩, hs⟩
      · rintro ⟨s, ⟨rfl, rfl⟩, hs⟩
        exact ⟨rfl, s, rfl, hs⟩

theorem matches_any : Matches [.run] t = true := matches_run.mpr ⟨[], List.nil_suffix, rfl⟩

/-- A literal text between two runs is searched for as a contiguous part. -/
theorem matches_infix : Matches (.run :: (w.map .lit ++ [.run])) t = true ↔ w <:+: t := by
  rw [matches_run]
  constructor
  · rintro ⟨s, ⟨front, rfl⟩, hs⟩
    obtain ⟨back, rfl, -⟩ := matches_lits.mp hs
    exact ⟨front, back, by rw [List.append_assoc]⟩
  · rintro ⟨front, back, rfl⟩
    exact ⟨w ++ back, ⟨front, by rw [List.append_assoc]⟩, matches_lits.mpr ⟨back, rfl, matches_any⟩⟩

end Matches

namespace Metas
variable (m : Metas α)

/-- The character is read as a metacharacter. -/
def IsMeta (c : α) : Prop := c = m.run ∨ c = m.one ∨ c = m.escape

/-- No character of the text is a metacharacter. -/
def Plain (w : List α) : Prop := ∀ c ∈ w, ¬ m.IsMeta c

variable [DecidableEq α]

instance (c : α) : Decidable (m.IsMeta c) := inferInstanceAs (Decidable (_ ∨ _))

instance (w : List α) : Decidable (m.Plain w) := inferInstanceAs (Decidable (∀ c ∈ w, _))

/-- A character that is no escape. -/
def piece (c : α) : Piece α := if c = m.run then .run else if c = m.one then .one else .lit c

/-- The pattern in pieces; `none` when it ends with an escape, which the database refuses. -/
def pieces : List α → Option (List (Piece α))
  | [] => some []
  | [c] => if c = m.escape then none else some [m.piece c]
  | c :: d :: p =>
    if c = m.escape then (pieces p).map (.lit d :: ·)
    else (pieces (d :: p)).map (m.piece c :: ·)

/-- `text LIKE pattern` -/
def like (text pattern : List α) : Bool := (m.pieces pattern).any (Matches · text)

variable {m} {w t : List α} {c d : α}

theorem piece_of_plain (h : ¬ m.IsMeta c) : m.piece c = .lit c := by
  simp only [IsMeta, not_or] at h
  simp [piece, h.1, h.2.1]

theorem piece_run : m.piece m.run = .run := if_pos rfl

theorem pieces_cons (h : c ≠ m.escape) : m.pieces (c :: w) = (m.pieces w).map (m.piece c :: ·) := by
  cases w with
  | nil => simp [pieces, h]
  | cons d p => simp [pieces, h]

theorem pieces_plain (h : m.Plain w) (p : List α) : m.pieces (w ++ p) = (m.pieces p).map (w.map .lit ++ ·) := by
  induction w with
  | nil => simp
  | cons c w ih =>
    obtain ⟨hc, hw⟩ := List.forall_mem_cons.mp h
    have hne : c ≠ m.escape := fun he => hc (Or.inr (Or.inr he))
    rw [List.cons_append, pieces_cons hne, ih hw, Option.map_map, piece_of_plain hc]
    rfl

/-- A text without metacharacters, put between two runs, is searched for as it is. -/
theorem like_plain (h : m.Plain w) : m.like t (m.run :: (w ++ [m.run])) = true ↔ w <:+: t := by
  have hrun : m.pieces [m.run] = some [.run] := by simp [pieces, m.run_ne_escape, piece_run]
  have hpieces : m.pieces (m.run :: (w ++ [m.run])) = some (.run :: (w.map .lit ++ [.run])) := by
    rw [pieces_cons m.run_ne_escape, pieces_plain h, hrun, piece_run]
    rfl
  rw [like, hpieces, Option.any_some, matches_infix]

/-! ### Texts that a metacharacter lets in -/

variable (m) in
/-- A text that the pattern `w` between two runs matches: `d` for each run and each single character, and an
    escape at the end makes a literal of the run after it. -/
def sample (d : α) : List α → List α
  | [] => []
  | [c] => if c = m.escape then [m.run] else [if m.IsMeta c then d else c]
  | c :: e :: w => if c = m.escape then e :: sample d w else (if m.IsMeta c then d else c) :: sample d (e :: w)

theorem matches_piece {p : List (Piece α)} (hc : c ≠ m.escape) (h : Matches p t = true) :
    Matches (m.piece c :: p) ((if m.IsMeta c then d else c) :: t) = true := by
  by_cases hrun : c = m.run
  · subst hrun
    rw [piece_run]
    exact matches_run.mpr ⟨t, List.suffix_cons _ t, h⟩
  · by_cases hone : c = m.one
    · have hp : m.piece c = .one := by rw [piece, if_neg hrun, if_pos hone]
      rw [hp]
      exact h
    · have hplain : ¬ m.IsMeta c := by simp [IsMeta, hrun, hone, hc]
      rw [piece_of_plain hplain, if_neg hplain]
      simpa [Matches] using h

theorem matches_sample (d : α) (w : List α) :
    ∃ p, m.pieces (w ++ [m.run]) = some p ∧ Matches p (m.sample d w) = true := by
  induction w using sample.induct m with
  | case1 => exact ⟨[.run], by simp [pieces, m.run_ne_escape, piece_run], matches_any⟩
  | case2 => exact ⟨[.lit m.run], by simp [pieces], by simp [sample, Matches]⟩
  | case3 c hc =>
    refine ⟨[m.piece c, .run], ?_, ?_⟩
    · simp [pieces, hc, m.run_ne_escape, piece_run]
    · rw [sample, if_neg hc]
      exact matches_piece hc matches_any
  | case4 e w ih =>
    obtain ⟨p, hp, hmatch⟩ := ih
    refine ⟨.lit e :: p, ?_, ?_⟩
    · simp [pieces, hp]
    · simp [sample, Matches, hmatch]
  | case5 c e w hc ih =>
    obtain ⟨p, hp, hmatch⟩ := ih
    refine ⟨m.piece c :: p, ?_, ?_⟩
    · rw [List.cons_append, pieces_cons hc, hp, Option.map_some]
    · rw [sample, if_neg hc]
      exact matches_piece hc hmatch

theorem length_sample_le (d : α) (w : List α) : (m.sample d w).length ≤ w.length := by
  induction w using sample.induct m with
  | case1 => simp [sample]
  | case2 => simp [sample]
  | case3 c hc => simp [sample, hc]
  | case4 e w ih => simp only [sample, if_true, List.length_cons]; omega
  | case5 c e w hc ih => simpa [sample, hc] using ih

theorem plain_of_sample_eq (hd : ¬ m.IsMeta d) (h : m.sample d w = w) : m.Plain w := by
  have hchar : ∀ c, (if m.IsMeta c then d else c) = c → ¬ m.IsMeta c := by
    intro c he hc
    rw [if_pos hc] at he
    exact hd (he ▸ hc)
  induction w using sample.induct m with
  | case1 => exact fun _ hc => absurd hc List.not_mem_nil
  | case2 => simp [sample, m.run_ne_escape] at h
  | case3 c hc =>
    rw [sample, if_neg hc, List.cons.injEq] at h
    simpa [Plain] using hchar c h.1
  | case4 e w ih =>
    have hle := length_sample_le (m := m) d w
    have hlen := congrArg List.length h
    simp only [sample, if_true, List.length_cons] at hlen
    omega
  | case5 c e w hc ih =>
    rw [sample, if_neg hc, List.cons.injEq] at h
    exact List.forall_mem_cons.mpr ⟨hchar c h.1, ih h.2⟩

theorem mem_sample {x : α} (h : x ∈ m.sample d w) : x ∈ w ∨ x = d ∨ x = m.run := by
  induction w using sample.induct m with
  | case1 => exact absurd h List.not_mem_nil
  | case2 =>
    rw [sample, if_pos rfl, List.mem_singleton] at h
    exact Or.inr (Or.inr h)
  | case3 c hc =>
    rw [sample, if_neg hc, List.mem_singleton] at h
    split at h
    · exact Or.inr (Or.inl h)
    · exact Or.inl (List.mem_singleton.mpr h)
  | case4 e w ih =>
    rw [sample, if_pos rfl] at h
    rcases List.mem_cons.mp h with rfl | h
    · exact Or.inl (by simp)
    · rcases ih h with hw | hx
      · exact Or.inl (List.mem_cons_of_mem _ (List.mem_cons_of_mem _ hw))
      · exact Or.inr hx
  | case5 c e w hc ih =>
    rw [sample, if_neg hc] at h
    rcases List.mem_cons.mp h with rfl | h
    · split
      · exact Or.inr (Or.inl rfl)
      · exact Or.inl List.mem_cons_self
    · rcases ih h with hw | hx
      · exact Or.inl (List.mem_cons_of_mem _ hw)
      · exact Or.inr hx

/-- A metacharacter in the text lets in a text that does not contain it. -/
theorem like_sample (hd : ¬ m.IsMeta d) (h : ¬ m.Plain w) :
    m.like (m.sample d w) (m.run :: (w ++ [m.run])) = true ∧ ¬ w <:+: m.sample d w := by
  obtain ⟨p, hp, hmatch⟩ := matches_sample (m := m) d w
  constructor
  · rw [like, pieces_cons m.run_ne_escape, hp, piece_run, Option.map_some, Option.any_some]
    exact matches_run.mpr ⟨_, List.suffix_refl _, hmatch⟩
  · intro hin
    have heq := hin.eq_of_length_le (length_sample_le d w)
    exact h (plain_of_sample_eq hd heq.symm)

end Metas

end Like
