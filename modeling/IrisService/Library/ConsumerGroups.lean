import Mathlib.Logic.Function.Basic
import Mathlib.Data.List.Basic

/-! A topic read by consumer groups: every record goes to one member of each group, whichever the broker
chooses. -/

namespace ConsumerGroups

variable {M G R : Type}

/-- The records, and the deliveries so far: an offset and the member that received it. -/
structure Topic (M R : Type) where
  log : List R
  received : List (Nat × M)

namespace Topic

def empty : Topic M R := ⟨[], []⟩

def append (t : Topic M R) (r : R) : Topic M R := { t with log := t.log ++ [r] }

/-- The record is there, and no member of the group of `m` has received it. -/
def Due (group : M → G) (t : Topic M R) (offset : Nat) (m : M) : Prop :=
  offset < t.log.length ∧ ∀ d ∈ t.received, d.1 = offset → group d.2 ≠ group m

instance [DecidableEq G] (group : M → G) (t : Topic M R) (offset : Nat) (m : M) : Decidable (t.Due group offset m) :=
  inferInstanceAs (Decidable (_ ∧ _))

/-- The record goes to the member, if it is due there. -/
def deliver [DecidableEq G] (group : M → G) (t : Topic M R) (offset : Nat) (m : M) : Topic M R :=
  if t.Due group offset m then { t with received := t.received ++ [(offset, m)] } else t

/-- No group has received a record twice. -/
def Once (group : M → G) (t : Topic M R) : Prop :=
  ∀ offset m m', (offset, m) ∈ t.received → (offset, m') ∈ t.received → group m = group m' → m = m'

/-- Every group has received every record. -/
def Complete (group : M → G) (t : Topic M R) : Prop :=
  ∀ offset < t.log.length, ∀ m, ∃ m', group m' = group m ∧ (offset, m') ∈ t.received

variable {group : M → G} {t : Topic M R} {offset : Nat} {a b : M}

theorem once_empty : (empty : Topic M R).Once group := fun _ _ _ h => by cases h

theorem once_append (h : t.Once group) (r : R) : (t.append r).Once group := h

section Deliver
variable [DecidableEq G]

theorem log_deliver : (t.deliver group offset a).log = t.log := by
  unfold deliver
  split <;> rfl

theorem received_deliver {d : Nat × M} (h : d ∈ t.received) : d ∈ (t.deliver group offset a).received := by
  unfold deliver
  split
  · exact List.mem_append_left _ h
  · exact h

theorem mem_deliver_of_due (h : t.Due group offset a) : (offset, a) ∈ (t.deliver group offset a).received := by
  rw [deliver, if_pos h]
  exact List.mem_append_right _ (List.mem_singleton_self _)

theorem once_deliver (h : t.Once group) : (t.deliver group offset a).Once group := by
  unfold deliver
  split
  · rename_i hdue
    intro k m m' hm hm' hgroup
    rcases List.mem_append.mp hm with hold | hnew
    · rcases List.mem_append.mp hm' with hold' | hnew'
      · exact h k m m' hold hold' hgroup
      · obtain ⟨rfl, rfl⟩ := Prod.mk.inj (List.mem_singleton.mp hnew')
        exact absurd hgroup (hdue.2 (k, m) hold rfl)
    · obtain ⟨rfl, rfl⟩ := Prod.mk.inj (List.mem_singleton.mp hnew)
      rcases List.mem_append.mp hm' with hold' | hnew'
      · exact absurd hgroup.symm (hdue.2 (k, m') hold' rfl)
      · exact (Prod.mk.inj (List.mem_singleton.mp hnew')).2.symm
  · exact h

/-- Whatever came before, the group of the member has received the record afterwards. -/
theorem deliver_covers (group : M → G) (a : M) (hoffset : offset < t.log.length) :
    ∃ m, group m = group a ∧ (offset, m) ∈ (t.deliver group offset a).received := by
  by_cases hdue : t.Due group offset a
  · exact ⟨a, rfl, mem_deliver_of_due hdue⟩
  · have hgot : ∃ d ∈ t.received, d.1 = offset ∧ group d.2 = group a := by
      by_contra hnone
      exact hdue ⟨hoffset, fun d hd hk hg => hnone ⟨d, hd, hk, hg⟩⟩
    obtain ⟨⟨k, m⟩, hd, rfl, hg⟩ := hgot
    exact ⟨m, hg, received_deliver hd⟩

end Deliver

/-- A topic reaches every member when each is alone in its group. -/
theorem Complete.received (h : t.Complete group) (hinj : Function.Injective group) (hoffset : offset < t.log.length)
    (m : M) :
    (offset, m) ∈ t.received := by
  obtain ⟨m', hgroup, hreceived⟩ := h offset hoffset m
  rwa [hinj hgroup] at hreceived

/-- What one member of a group has received does not reach another one. -/
theorem Once.not_received (h : t.Once group) (ha : (offset, a) ∈ t.received) (hgroup : group a = group b) (hne : a ≠ b) :
    (offset, b) ∉ t.received :=
  fun hb => hne (h offset a b ha hb hgroup)

end Topic

end ConsumerGroups
