import IrisService.Library.Runs
import Mathlib.Data.Set.Card

/-! Single-use tickets. A register grants a new ticket, exchanges a live one for a new one, or drops live ones; what is
known of it is which tickets are live. -/

namespace Tickets
open Runs

variable {τ : Type}

/-- A ticket is granted, exchanged for a new one, or some are dropped. -/
inductive Move (τ : Type) where
  | grant (new : τ)
  | exchange (old new : τ)
  | drop (old : Set τ)

namespace Move

/-- The tickets live after the move. -/
def apply (live : Set τ) : Move τ → Set τ
  | grant new => insert new live
  | exchange old new => insert new (live \ {old})
  | drop old => live \ old

/-- Only a live ticket is exchanged, and only for one that is not live. -/
def Allowed (live : Set τ) : Move τ → Prop
  | grant new => new ∉ live
  | exchange old new => old ∈ live ∧ new ∉ live
  | drop _ => True

def isGrant : Move τ → Bool
  | grant _ => true
  | _ => false

def isDrop : Move τ → Bool
  | drop _ => true
  | _ => false

/-- The move takes the ticket from the register. -/
def Takes (t : τ) : Move τ → Prop
  | grant _ => False
  | exchange old _ => old = t
  | drop old => t ∈ old

/-- The move puts the ticket into the register. -/
def Puts (t : τ) : Move τ → Prop
  | grant new | exchange _ new => new = t
  | drop _ => False

variable {live : Set τ} {m : Move τ} {t : τ}

theorem encard_apply (h : m.Allowed live) :
    (m.apply live).encard ≤ live.encard + (if m.isGrant then 1 else 0) ∧
      (m.isDrop = false → (m.apply live).encard = live.encard + (if m.isGrant then 1 else 0)) := by
  cases m with
  | grant new =>
    have hcard : (insert new live).encard = live.encard + 1 := Set.encard_insert_of_notMem h
    exact ⟨hcard.le, fun _ => hcard⟩
  | exchange old new =>
    have hnew : new ∉ live \ {old} := fun hmem => h.2 hmem.1
    have hcard : (insert new (live \ {old})).encard = live.encard + 0 := by
      rw [Set.encard_insert_of_notMem hnew, Set.encard_sdiff_singleton_add_one h.1, add_zero]
    exact ⟨hcard.le, fun _ => hcard⟩
  | drop old =>
    refine ⟨?_, fun hdrop => by cases hdrop⟩
    have hle : (live \ old).encard ≤ live.encard := Set.encard_le_encard Set.sdiff_subset
    exact hle.trans (le_of_eq (add_zero _).symm)

theorem mem_apply (h : t ∈ live) (htakes : ¬m.Takes t) : t ∈ m.apply live := by
  cases m with
  | grant new => exact Set.mem_insert_of_mem new h
  | exchange old new => exact Set.mem_insert_of_mem new ⟨h, fun heq => htakes heq.symm⟩
  | drop old => exact ⟨h, htakes⟩

theorem not_mem_apply (h : t ∉ live) (hputs : ¬m.Puts t) : t ∉ m.apply live := by
  cases m with
  | grant new => exact fun hmem => hmem.elim (fun heq => hputs heq.symm) h
  | exchange old new => exact fun hmem => hmem.elim (fun heq => hputs heq.symm) fun hmem => h hmem.1
  | drop old => exact fun hmem => h hmem.1

end Move

/-! ### Runs -/

section Runs
variable {live : Set τ} {ms : List (Move τ)} {t : τ}

/-- No more tickets are live than have been granted, and without drops none is lost. -/
theorem encard_run (h : Meets Move.apply Move.Allowed live ms) :
    (run Move.apply live ms).encard ≤ live.encard + ms.countP Move.isGrant ∧
      ((∀ m ∈ ms, m.isDrop = false) → (run Move.apply live ms).encard = live.encard + ms.countP Move.isGrant) := by
  induction ms generalizing live with
  | nil => exact ⟨le_of_eq (add_zero _).symm, fun _ => (add_zero _).symm⟩
  | cons m ms ih =>
    obtain ⟨hle, heq⟩ := Move.encard_apply h.1
    obtain ⟨hrest, hrest'⟩ := ih h.2
    have hcount : (live.encard + (if m.isGrant then 1 else 0) + (ms.countP Move.isGrant : ℕ∞)) =
        live.encard + ((m :: ms).countP Move.isGrant : ℕ∞) := by
      rw [List.countP_cons, Nat.cast_add, add_comm ((ms.countP Move.isGrant : ℕ) : ℕ∞), ← add_assoc]
      cases m.isGrant <;> rfl
    refine ⟨?_, fun hdrops => ?_⟩
    · calc (run Move.apply (m.apply live) ms).encard
          ≤ (m.apply live).encard + ms.countP Move.isGrant := hrest
        _ ≤ live.encard + (if m.isGrant then 1 else 0) + ms.countP Move.isGrant := by gcongr
        _ = _ := hcount
    · calc (run Move.apply (m.apply live) ms).encard
          = (m.apply live).encard + ms.countP Move.isGrant := hrest' fun m hm => hdrops m (List.mem_cons_of_mem _ hm)
        _ = live.encard + (if m.isGrant then 1 else 0) + ms.countP Move.isGrant := by
          rw [heq (hdrops m List.mem_cons_self)]
        _ = _ := hcount

/-- A live ticket stays live until a move takes it. -/
theorem mem_run (h : t ∈ live) (htakes : ∀ m ∈ ms, ¬m.Takes t) : t ∈ run Move.apply live ms := by
  induction ms generalizing live with
  | nil => exact h
  | cons m ms ih =>
    exact ih (Move.mem_apply h (htakes m List.mem_cons_self)) fun m hm => htakes m (List.mem_cons_of_mem _ hm)

/-- A ticket that is not live stays so until a move puts it. -/
theorem not_mem_run (h : t ∉ live) (hputs : ∀ m ∈ ms, ¬m.Puts t) : t ∉ run Move.apply live ms := by
  induction ms generalizing live with
  | nil => exact h
  | cons m ms ih =>
    exact ih (Move.not_mem_apply h (hputs m List.mem_cons_self)) fun m hm => hputs m (List.mem_cons_of_mem _ hm)

end Runs

end Tickets
