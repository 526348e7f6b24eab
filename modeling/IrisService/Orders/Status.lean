import Mathlib.Tactic.Basic

/-! The status machines of orders and of order lines. -/

namespace IrisService

/-- `OrderStatus` -/
inductive OrderStatus where
  | pending
  | confirmed
  | shipped
  | cancelled
  deriving DecidableEq, Repr

/-- `OrderLineStatus` -/
inductive OrderLineStatus where
  | pending
  | shipped
  | refunded
  deriving DecidableEq, Repr

namespace OrderStatus

/-- The string that the enumeration stands for. -/
def value : OrderStatus → String
  | pending => "PENDING"
  | confirmed => "CONFIRMED"
  | shipped => "SHIPPED"
  | cancelled => "CANCELLED"

/-- `can_transition_to`; a target that is no member is no transition. -/
def canTransitionTo (self : OrderStatus) (target : Option OrderStatus) : Bool :=
  match target with
  | none => false
  | some target =>
    if self = target then true
    else match self with
      | pending => target = confirmed || target = cancelled
      | confirmed => target = shipped || target = cancelled
      | shipped | cancelled => false

/-- A step of the graph, self-loops included. -/
def Allowed (a b : OrderStatus) : Prop := a.canTransitionTo (some b) = true

instance (a b : OrderStatus) : Decidable (Allowed a b) := inferInstanceAs (Decidable (_ = true))

theorem allowed_refl (a : OrderStatus) : Allowed a a := by cases a <;> rfl

theorem eq_of_shipped_allowed {b : OrderStatus} (h : Allowed shipped b) : b = shipped := by
  cases b <;> first | rfl | cases h

/-- A cancellation is a step of the graph from every status but one. -/
theorem allowed_cancelled_iff (a : OrderStatus) : Allowed a cancelled ↔ a ≠ shipped := by
  cases a <;> decide

end OrderStatus

namespace OrderLineStatus

/-- The string that the enumeration stands for. -/
def value : OrderLineStatus → String
  | pending => "PENDING"
  | shipped => "SHIPPED"
  | refunded => "REFUNDED"

/-- `can_transition_to`; a target that is no member is no transition. -/
def canTransitionTo (self : OrderLineStatus) (target : Option OrderLineStatus) : Bool :=
  match target with
  | none => false
  | some target =>
    if self = target then true
    else match self with
      | pending => target = shipped
      | shipped => target = refunded
      | refunded => false

/-- A step of the graph, self-loops included. -/
def Allowed (a b : OrderLineStatus) : Prop := a.canTransitionTo (some b) = true

instance (a b : OrderLineStatus) : Decidable (Allowed a b) := inferInstanceAs (Decidable (_ = true))

theorem allowed_refl (a : OrderLineStatus) : Allowed a a := by cases a <;> rfl

theorem eq_of_refunded_allowed {b : OrderLineStatus} (h : Allowed refunded b) : b = refunded := by
  cases b <;> first | rfl | cases h

end OrderLineStatus

end IrisService
