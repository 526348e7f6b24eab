import IrisService.Mcp.Tools

/-! The audit trail of the tools: which calls leave exactly one record, before anything else they do. -/

namespace IrisService.Mcp.Tools
open Effects Program

/-- The effect is a record of `record_tool_call`. -/
def IsAudit {σ : Type} : Sigma (Effect σ) → Prop
  | ⟨_, .audit _⟩ => True
  | _ => False

/-- The first effect is the record, and no other effect is one. -/
def Audited {σ : Type} (record : AuditRecord) (trace : List (Sigma (Effect σ))) : Prop :=
  ∃ rest, trace = ⟨Unit, .audit record⟩ :: rest ∧ ∀ e ∈ rest, ¬ IsAudit e

namespace ToolCall

/-- The name under which the tool is registered. -/
def name : ToolCall → String
  | listRecentOrders _ _ => "list_recent_orders"
  | getOrderById _ => "get_order_by_id"
  | createOrder _ _ => "create_order"
  | cancelOrder _ => "cancel_order"
  | findLowStockProducts _ => "find_low_stock_products"
  | getCustomer360 _ => "get_customer_360"
  | triggerChaosExperiment _ => "trigger_chaos_experiment"
  | predictCustomerChurn _ => "predict_customer_churn"
  | tailLogs _ _ _ => "tail_logs"
  | getMetrics _ _ => "get_metrics"
  | getHealth => "get_health"
  | getHealthDetail => "get_health_detail"
  | getActuatorEnv _ => "get_actuator_env"
  | getActuatorInfo => "get_actuator_info"
  | getOpenapiSpec _ => "get_openapi_spec"

/-- The arguments by their names. -/
def args : ToolCall → List (String × Arg)
  | listRecentOrders limit status => [("limit", .int limit), ("status", .ofStr (status.map OrderStatus.value))]
  | getOrderById id | cancelOrder id | getCustomer360 id => [("id", .int id)]
  | createOrder customerId idempotencyKey => [("customer_id", .int customerId), ("idempotency_key", .ofStr idempotencyKey)]
  | findLowStockProducts threshold => [("threshold", .int threshold)]
  | triggerChaosExperiment scenario => [("scenario", .str scenario)]
  | predictCustomerChurn customerId => [("customer_id", .ofInt customerId)]
  | tailLogs n level requestId => [("n", .int n), ("level", .ofStr level), ("request_id", .ofStr requestId)]
  | getMetrics nameFilter tagsFilter =>
    [("name_filter", .ofStr nameFilter), ("tags_filter", (tagsFilter.map Arg.dict).getD .none)]
  | getHealth | getHealthDetail | getActuatorInfo => []
  | getActuatorEnv start => [("prefix", .ofStr start)]
  | getOpenapiSpec summary => [("summary", .bool summary)]

/-- The tools for admins. -/
def adminOnly : ToolCall → Bool
  | triggerChaosExperiment _ | getHealthDetail => true
  | _ => false

/-- The record that the trail should have of the call. -/
def record (digest : Digest) (currentUser : Option McpUser) (call : ToolCall) : AuditRecord :=
  recordToolCall digest call.name call.args (currentUser.map McpUser.username) (currentUser.map McpUser.role)

end ToolCall

/-! ### Bodies without a record -/

section Bodies
variable {digest : Digest} {deps : Deps} {currentUser : Option McpUser}

theorem safeUserRole_eq (currentUser : Option McpUser) :
    safeUserRole currentUser = (currentUser.map McpUser.username, currentUser.map McpUser.role) := by
  cases currentUser <;> rfl

theorem silent_withSession {α : Type} {body : Tool deps α} (h : body.Avoids IsAudit) :
    (withSession deps body).Avoids IsAudit :=
  avoids_bind (avoids_effect id) fun _ => avoids_tryFinally h (avoids_effect id)

theorem silent_chaosSlowQuery : (chaosSlowQuery deps).Avoids IsAudit := by
  refine avoids_bind (silent_withSession (avoids_tryCatch (avoids_effect id) fun exc => ?_)) fun _ => avoids_pure _
  split
  · exact avoids_effect id
  · exact avoids_raise exc

theorem silent_chaosDbFailure : (chaosDbFailure deps).Avoids IsAudit := by
  refine avoids_bind (silent_withSession ?_) fun rejected => ?_
  · refine avoids_tryCatch (avoids_bind (avoids_effect id) fun _ => avoids_pure none) fun exc => ?_
    split
    · exact avoids_pure _
    · exact avoids_raise exc
  · split <;> exact avoids_pure _

theorem silent_cachedOrder (idempotencyKey : Option String) : (cachedOrder deps idempotencyKey).Avoids IsAudit := by
  cases idempotencyKey with
  | none => exact avoids_pure none
  | some key => exact avoids_effect fun h => h

theorem silent_orderLinesOf (orderIds : List Nat) : (orderLinesOf deps orderIds).Avoids IsAudit := by
  unfold orderLinesOf
  split
  · exact avoids_pure []
  · exact avoids_effect fun h => h

theorem silent_healthSnapshot (includeDetails : Bool) : (healthSnapshot deps includeDetails).Avoids IsAudit := by
  refine avoids_bind (avoids_effect id) fun _ => ?_
  refine avoids_bind (avoids_tryFinally ?_ ?_) fun _ => avoids_pure _
  · refine avoids_bind (avoids_tryCatch (avoids_bind (avoids_effect id) fun _ => avoids_pure _) fun exc => ?_)
      fun _ => avoids_pure _
    split
    · exact avoids_pure _
    · exact avoids_raise exc
  · refine avoids_tryCatch (avoids_effect id) fun exc => ?_
    split
    · exact avoids_pure _
    · exact avoids_raise exc

/-! ### A record first -/

variable {answers : Answers (Effect deps.scalars.Scalar) Exc}

/-- A body that audits and then leaves the trail alone is audited. -/
theorem audited_of_silent (call : ToolCall) {f : Unit → Tool deps ToolResult}
    (hbody : call.body digest deps currentUser = (audit digest deps currentUser call.name call.args >>= f))
    (h : (f ()).Avoids IsAudit) :
    Audited (call.record digest currentUser) ((call.body digest deps currentUser).trace answers 0) := by
  have hrecord : recordToolCall digest call.name call.args (safeUserRole currentUser).1 (safeUserRole currentUser).2 =
      call.record digest currentUser := by
    rw [safeUserRole_eq]
    rfl
  obtain ⟨rest, htrace, hrest⟩ := trace_effect_bind answers IsAudit
    (.audit (recordToolCall digest call.name call.args (safeUserRole currentUser).1 (safeUserRole currentUser).2)) f 0
  rw [hbody, ← hrecord]
  exact ⟨rest, htrace, hrest fun _ => h⟩

theorem audited_listRecentOrders (limit : Int) (status : Option OrderStatus) :
    Audited ((ToolCall.listRecentOrders limit status).record digest currentUser)
      (((ToolCall.listRecentOrders limit status).body digest deps currentUser).trace answers 0) := by
  refine audited_of_silent _ rfl ?_
  exact avoids_bind (silent_withSession (avoids_effect id)) fun _ => avoids_pure _

theorem audited_getOrderById (id : Int) : Audited ((ToolCall.getOrderById id).record digest currentUser)
    (((ToolCall.getOrderById id).body digest deps currentUser).trace answers 0) := by
  refine audited_of_silent _ rfl ?_
  refine avoids_bind (silent_withSession (avoids_effect fun h => h)) fun found => ?_
  split <;> exact avoids_pure _

theorem audited_createOrder (customerId : Int) (idempotencyKey : Option String) :
    Audited ((ToolCall.createOrder customerId idempotencyKey).record digest currentUser)
      (((ToolCall.createOrder customerId idempotencyKey).body digest deps currentUser).trace answers 0) := by
  refine audited_of_silent _ (bind_assoc _ _ _) ?_
  refine avoids_bind ?_ fun result => ?_
  · refine avoids_bind (silent_cachedOrder idempotencyKey) fun cached => ?_
    split
    · exact avoids_pure _
    · refine avoids_bind (silent_withSession ?_) fun created => ?_
      · refine avoids_bind (avoids_tryCatch ?_ fun exc => ?_) fun flushed => ?_
        · exact avoids_bind (avoids_effect fun h => h) fun _ => avoids_pure true
        · split
          · exact avoids_bind (avoids_effect fun h => h) fun _ => avoids_pure false
          · exact avoids_raise exc
        · split
          · refine avoids_bind (avoids_effect fun h => h) fun order => ?_
            exact avoids_bind (avoids_effect fun h => h) fun _ => avoids_pure _
          · exact avoids_pure none
      · split
        · exact avoids_pure _
        · split
          · exact avoids_pure _
          · exact avoids_bind (avoids_effect fun h => h) fun _ => avoids_pure _
  · split
    · exact avoids_bind (avoids_effect fun h => h) fun _ => avoids_pure _
    · exact avoids_pure _

theorem audited_cancelOrder (id : Int) : Audited ((ToolCall.cancelOrder id).record digest currentUser)
    (((ToolCall.cancelOrder id).body digest deps currentUser).trace answers 0) := by
  refine audited_of_silent _ rfl ?_
  refine avoids_bind (silent_withSession (avoids_bind (avoids_effect fun h => h) fun found => ?_)) fun found => ?_
  · split
    · exact avoids_pure none
    · refine avoids_bind (avoids_effect fun h => h) fun _ => ?_
      exact avoids_bind (avoids_effect fun h => h) fun _ => avoids_pure _
  · split <;> exact avoids_pure _

theorem audited_findLowStockProducts (threshold : Int) :
    Audited ((ToolCall.findLowStockProducts threshold).record digest currentUser)
      (((ToolCall.findLowStockProducts threshold).body digest deps currentUser).trace answers 0) := by
  refine audited_of_silent _ rfl ?_
  exact avoids_bind (silent_withSession (avoids_effect fun h => h)) fun _ => avoids_pure _

theorem audited_getCustomer360 (id : Int) : Audited ((ToolCall.getCustomer360 id).record digest currentUser)
    (((ToolCall.getCustomer360 id).body digest deps currentUser).trace answers 0) := by
  refine audited_of_silent _ rfl ?_
  refine avoids_bind (silent_withSession (avoids_bind (avoids_effect fun h => h) fun found => ?_)) fun found => ?_
  · split
    · exact avoids_pure none
    · exact avoids_bind (avoids_effect fun h => h) fun _ => avoids_pure _
  · split <;> exact avoids_pure _

theorem audited_predictCustomerChurn (customerId : Option Int) :
    Audited ((ToolCall.predictCustomerChurn customerId).record digest currentUser)
      (((ToolCall.predictCustomerChurn customerId).body digest deps currentUser).trace answers 0) := by
  refine audited_of_silent _ rfl ?_
  split
  · exact avoids_pure _
  · split
    · exact avoids_pure _
    · split
      · exact avoids_pure _
      · refine avoids_bind (silent_withSession (avoids_bind (avoids_effect fun h => h) fun found => ?_)) fun found => ?_
        · split
          · exact avoids_pure none
          · refine avoids_bind (avoids_effect fun h => h) fun orders => ?_
            exact avoids_bind (silent_orderLinesOf _) fun lines => avoids_pure _
        · split
          · exact avoids_pure _
          · refine avoids_bind (avoids_effect fun h => h) fun now => ?_
            refine avoids_bind (avoids_effect fun h => h) fun probability => ?_
            refine avoids_bind (avoids_ofExcept _) fun band => ?_
            exact avoids_bind (avoids_ofExcept _) fun _ => avoids_pure _

/-! ### The tools for admins -/

theorem requireRole_admin {user : McpUser} (h : user.role = roleAdmin) :
    requireRole deps (some user) roleAdmin = pure () := by
  simp [requireRole, Mcp.requireRole, getCurrentUser, h]

theorem requireRole_other (deps : Deps) (h : ¬ ∃ user, currentUser = some user ∧ user.role = roleAdmin) :
    ∃ exc, requireRole deps currentUser roleAdmin = raise exc := by
  cases currentUser with
  | none => exact ⟨_, rfl⟩
  | some user =>
    have hrole : user.role ≠ roleAdmin := fun hrole => h ⟨user, rfl, hrole⟩
    have hrefused : Mcp.requireRole (some user) roleAdmin = .error _ := if_neg hrole
    exact ⟨_, by rw [requireRole, hrefused]⟩

/-- An admin passes, and the body goes on. -/
theorem requireRole_bind {user : McpUser} (h : user.role = roleAdmin) (f : Unit → Tool deps ToolResult) :
    (requireRole deps (some user) roleAdmin >>= f) = f () := by
  rw [requireRole_admin h]
  rfl

/-- A body that asks for the role first leaves no record of a caller without it. -/
theorem not_audited_of_refused {f : Unit → Tool deps ToolResult} {record : AuditRecord}
    (h : ¬ ∃ user, currentUser = some user ∧ user.role = roleAdmin) :
    ¬ Audited record ((requireRole deps currentUser roleAdmin >>= f).trace answers 0) := by
  obtain ⟨exc, hexc⟩ := requireRole_other deps h
  rw [hexc]
  rintro ⟨rest, htrace, -⟩
  cases htrace

theorem audited_triggerChaosExperiment {user : McpUser} (h : user.role = roleAdmin) (scenario : String) :
    Audited ((ToolCall.triggerChaosExperiment scenario).record digest (some user))
      (((ToolCall.triggerChaosExperiment scenario).body digest deps (some user)).trace answers 0) := by
  refine audited_of_silent _ (requireRole_bind h _) ?_
  split
  · exact avoids_pure _
  · split
    · exact silent_chaosSlowQuery
    · split
      · exact silent_chaosDbFailure
      · exact avoids_pure _

theorem audited_getHealthDetail {user : McpUser} (h : user.role = roleAdmin) :
    Audited (ToolCall.getHealthDetail.record digest (some user))
      ((ToolCall.getHealthDetail.body digest deps (some user)).trace answers 0) := by
  refine audited_of_silent _ (requireRole_bind h _) ?_
  exact silent_healthSnapshot true

/-! ### Every tool -/

theorem audited_of_not_adminOnly (call : ToolCall) (h : call.adminOnly = false) :
    Audited (call.record digest currentUser) ((call.body digest deps currentUser).trace answers 0) := by
  cases call with
  | listRecentOrders limit status => exact audited_listRecentOrders limit status
  | getOrderById id => exact audited_getOrderById id
  | createOrder customerId idempotencyKey => exact audited_createOrder customerId idempotencyKey
  | cancelOrder id => exact audited_cancelOrder id
  | findLowStockProducts threshold => exact audited_findLowStockProducts threshold
  | getCustomer360 id => exact audited_getCustomer360 id
  | predictCustomerChurn customerId => exact audited_predictCustomerChurn customerId
  | tailLogs n level requestId =>
    exact audited_of_silent _ rfl (avoids_bind (avoids_effect fun h => h) fun _ => avoids_pure _)
  | getMetrics nameFilter tagsFilter =>
    exact audited_of_silent _ rfl (avoids_bind (avoids_effect fun h => h) fun _ => avoids_pure _)
  | getHealth => exact audited_of_silent _ rfl (silent_healthSnapshot false)
  | getActuatorEnv start =>
    exact audited_of_silent _ rfl (avoids_bind (avoids_effect fun h => h) fun _ => avoids_pure _)
  | getActuatorInfo => exact audited_of_silent _ rfl (avoids_pure _)
  | getOpenapiSpec summary =>
    exact audited_of_silent _ rfl (avoids_bind (avoids_effect fun h => h) fun _ => avoids_pure _)
  | triggerChaosExperiment scenario => cases h
  | getHealthDetail => cases h

end Bodies

/-- Whatever the surroundings do, a call leaves its one record first exactly when its tool is for everyone or its
    caller is an admin. -/
theorem audited_iff (digest : Digest) (deps : Deps) (currentUser : Option McpUser)
    (answers : Answers (Effect deps.scalars.Scalar) Exc) (call : ToolCall) :
    Audited (call.record digest currentUser) ((call.body digest deps currentUser).trace answers 0) ↔
      (call.adminOnly = true → ∃ user, currentUser = some user ∧ user.role = roleAdmin) := by
  constructor
  · intro haudited hadmin
    by_contra hrole
    cases call with
    | triggerChaosExperiment scenario => exact not_audited_of_refused hrole haudited
    | getHealthDetail => exact not_audited_of_refused hrole haudited
    | _ => cases hadmin
  · intro h
    cases hadmin : call.adminOnly with
    | false => exact audited_of_not_adminOnly call hadmin
    | true =>
      obtain ⟨user, rfl, hrole⟩ := h hadmin
      cases call with
      | triggerChaosExperiment scenario => exact audited_triggerChaosExperiment hrole scenario
      | getHealthDetail => exact audited_getHealthDetail hrole
      | _ => cases hadmin

def bareDeps : Deps where
  app := ⟨"iris", "1.0", none⟩
  packageVersion := "1.0"
  runtime := ⟨"3.14.0", "Linux", "CPython"⟩
  scalars := Actuator.Scalars.strings
  ringBufferCapacity := 500
  churnPredictor := none
  pydantic := ⟨false, fun _ => ""⟩
  floatStr := fun _ => ""

/-- `require_role` raises before `_audit` is called. -/
theorem not_audited_refused : ¬ ∀ (digest : Digest) (deps : Deps) (currentUser : Option McpUser)
    (answers : Answers (Effect deps.scalars.Scalar) Exc) (call : ToolCall),
    Audited (call.record digest currentUser) ((call.body digest deps currentUser).trace answers 0) := by
  intro h
  have haudited := h ⟨fun _ => "", id⟩ bareDeps (some ⟨"bob", roleUser⟩)
    (fun _ _ _ => .error ⟨.exception, "TimeoutError", ""⟩)
    .getHealthDetail
  refine not_audited_of_refused ?_ haudited
  rintro ⟨user, huser, hrole⟩
  cases huser
  exact absurd hrole (by decide)

end IrisService.Mcp.Tools
