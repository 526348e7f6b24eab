import Mathlib.Data.List.Basic

/-! `str.lower()` and `str.upper()` on the whole of Unicode. The case mappings of single characters are a table; a
capital sigma is lowered by its place in the word. -/

namespace IrisService.Str

/-- The Unicode data that the two methods read. -/
structure CaseMapping where
  /-- The full lower-case mapping of a character by itself. -/
  lowerFull : Char → List Char
  /-- The full upper-case mapping of a character. -/
  upperFull : Char → List Char
  cased : Char → Bool
  ignorable : Char → Bool
  lower_ascii : ∀ c : Char, c.toNat < 128 → lowerFull c = [c.toLower]
  lower_sigma : lowerFull 'σ' = ['σ'] ∧ lowerFull 'ς' = ['ς']
  /-- What a character is lowered to is in lower case. -/
  lower_lower : ∀ c ≠ 'Σ', ∀ d ∈ lowerFull c, lowerFull d = [d] ∧ d ≠ 'Σ'
  upper_upper : ∀ c, ∀ d ∈ upperFull c, upperFull d = [d]

namespace CaseMapping
variable (case : CaseMapping)

/-- `handle_capital_sigma`: the sigma ends a word. `before` is what stands before it, backwards. -/
def finalSigma (before after : List Char) : Bool :=
  (before.dropWhile case.ignorable).head?.any case.cased && !(after.dropWhile case.ignorable).head?.any case.cased

/-- `str.lower` after the characters `before`, which a final sigma looks at. -/
def lowerFrom (before : List Char) : List Char → List Char
  | [] => []
  | c :: after =>
    (if c = 'Σ' then [if case.finalSigma before after then 'ς' else 'σ'] else case.lowerFull c) ++
      lowerFrom (c :: before) after

/-- `s.lower()` -/
def lower (s : String) : String := String.ofList (case.lowerFrom [] s.toList)

/-- `s.upper()` -/
def upper (s : String) : String := String.ofList (s.toList.flatMap case.upperFull)

variable {case}

/-- The character is its own lower case. -/
def IsLower (case : CaseMapping) (c : Char) : Prop := case.lowerFull c = [c] ∧ c ≠ 'Σ'

theorem isLower_of_mem_lowerFrom {before s : List Char} {c : Char} (h : c ∈ case.lowerFrom before s) : case.IsLower c := by
  induction s generalizing before with
  | nil => exact absurd h List.not_mem_nil
  | cons a s ih =>
    rcases List.mem_append.mp h with h | h
    · split at h
      · split at h
        · rw [List.mem_singleton.mp h]
          exact ⟨case.lower_sigma.2, by decide⟩
        · rw [List.mem_singleton.mp h]
          exact ⟨case.lower_sigma.1, by decide⟩
      · rename_i hsigma
        exact case.lower_lower a hsigma c h
    · exact ih h

theorem lowerFrom_of_isLower {before s : List Char} (h : ∀ c ∈ s, case.IsLower c) : case.lowerFrom before s = s := by
  induction s generalizing before with
  | nil => rfl
  | cons a s ih =>
    obtain ⟨ha, hs⟩ := List.forall_mem_cons.mp h
    rw [lowerFrom, if_neg ha.2, ha.1, ih hs]
    rfl

theorem isLower_of_mem_lower {s : String} {c : Char} (h : c ∈ (case.lower s).toList) : case.IsLower c := by
  rw [lower, String.toList_ofList] at h
  exact isLower_of_mem_lowerFrom h

theorem lower_of_isLower {s : String} (h : ∀ c ∈ s.toList, case.IsLower c) : case.lower s = s := by
  rw [lower, lowerFrom_of_isLower h, String.ofList_toList]

/-- An ASCII character that has no other lower case. -/
theorem isLower_of_ascii {c : Char} (hc : c.toNat < 128) (h : c.toLower = c) : case.IsLower c := by
  refine ⟨by rw [case.lower_ascii c hc, h], ?_⟩
  rintro rfl
  exact absurd hc (by decide)

theorem upper_upper_eq (s : String) : case.upper (case.upper s) = case.upper s := by
  have hself : ∀ l : List Char, (∀ c ∈ l, case.upperFull c = [c]) → l.flatMap case.upperFull = l := by
    intro l hl
    induction l with
    | nil => rfl
    | cons a l ih =>
      obtain ⟨ha, hl⟩ := List.forall_mem_cons.mp hl
      rw [List.flatMap_cons, ha, ih hl]
      rfl
  have hupper : ∀ c ∈ s.toList.flatMap case.upperFull, case.upperFull c = [c] := by
    intro c hc
    obtain ⟨a, -, hmem⟩ := List.mem_flatMap.mp hc
    exact case.upper_upper a c hmem
  rw [upper, upper, String.toList_ofList, hself _ hupper]

/-! ### ASCII -/

theorem toLower_cases (c : Char) : c.toLower = c ∨ (97 ≤ c.toLower.val.toNat ∧ c.toLower.val.toNat ≤ 122) := by
  unfold Char.toLower
  split
  · rename_i h
    have hfrom : 65 ≤ c.val.toNat := UInt32.le_iff_toNat_le.mp h.1
    have hto : c.val.toNat ≤ 90 := UInt32.le_iff_toNat_le.mp h.2
    have hval : (c.val + 32).toNat = c.val.toNat + 32 := by
      rw [UInt32.toNat_add]
      show (c.val.toNat + 32) % 2 ^ 32 = _
      omega
    exact Or.inr ⟨by show 97 ≤ (c.val + 32).toNat; omega, by show (c.val + 32).toNat ≤ 122; omega⟩
  · exact Or.inl rfl

theorem toUpper_cases (c : Char) : c.toUpper = c ∨ c.toUpper.val.toNat ≤ 90 := by
  unfold Char.toUpper
  split
  · rename_i h
    have hfrom : 97 ≤ c.val.toNat := UInt32.le_iff_toNat_le.mp h.1
    have hto : c.val.toNat ≤ 122 := UInt32.le_iff_toNat_le.mp h.2
    have hval : (c.val + 4294967264).toNat = c.val.toNat - 32 := by
      rw [UInt32.toNat_add]
      show (c.val.toNat + 4294967264) % 2 ^ 32 = _
      omega
    exact Or.inr (by show (c.val + 4294967264).toNat ≤ 90; omega)
  · exact Or.inl rfl

theorem toLower_toLower (c : Char) : c.toLower.toLower = c.toLower := by
  rcases toLower_cases c with h | ⟨h, -⟩
  · rw [h, h]
  · refine dif_neg fun hcapital => ?_
    have hto : c.toLower.val.toNat ≤ 90 := UInt32.le_iff_toNat_le.mp hcapital.2
    omega

theorem toUpper_toUpper (c : Char) : c.toUpper.toUpper = c.toUpper := by
  rcases toUpper_cases c with h | h
  · rw [h, h]
  · refine dif_neg fun hsmall => ?_
    have hfrom : 97 ≤ c.toUpper.val.toNat := UInt32.le_iff_toNat_le.mp hsmall.1
    omega

theorem toLower_ne_sigma {c : Char} (h : c ≠ 'Σ') : c.toLower ≠ 'Σ' := by
  intro he
  rcases toLower_cases c with hc | ⟨-, hle⟩
  · exact h (hc.symm.trans he)
  · rw [he] at hle
    exact absurd hle (by decide)

/-- The table with no letters but the ASCII ones and the sigmas. -/
def ascii : CaseMapping where
  lowerFull c := if c = 'Σ' then ['σ'] else [c.toLower]
  upperFull c := [c.toUpper]
  cased := Char.isAlpha
  ignorable _ := false
  lower_ascii c hc := if_neg fun h => absurd (h ▸ hc) (by decide)
  lower_sigma := ⟨by decide, by decide⟩
  lower_lower c hc d hd := by
    rw [if_neg hc, List.mem_singleton] at hd
    subst hd
    have hsigma := toLower_ne_sigma hc
    exact ⟨by rw [if_neg hsigma, toLower_toLower], hsigma⟩
  upper_upper c d hd := by
    rw [List.mem_singleton.mp hd, toUpper_toUpper]

end CaseMapping

end IrisService.Str
