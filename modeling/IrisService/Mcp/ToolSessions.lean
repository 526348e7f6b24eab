import IrisService.Library.EffectLogic
import IrisService.Mcp.Tools

/-! The database sessions of the tools, whatever fails: a tool opens at most one, closes it, makes no statement outside
of it or after one that has failed, and what it answers tells whether it has committed. -/

namespace IrisService.Mcp.Tools
open Effects Program

/-- What an effect does to the session of its tool. -/
inductive Kind where
  | opening
  | closing
  | reading
  | writing
  | committing
  | rollingBack
  /-- A new order goes into the idempotency cache. -/
  | remembering
  | other
  deriving DecidableEq

/-- What the effect does to the session. -/
def Effect.kind {σ β : Type} : Effect σ β → Kind
  | .openSession => .opening
  | .closeSession => .closing
  | .commit => .committing
  | .rollback => .rollingBack
  | .selectRecentOrders _ _ | .getOrder _ | .refreshOrder | .selectProductsBelow _ | .getCustomer _ | .selectOrderRollUp _
  | .selectOrders _ | .selectOrderLines _ | .selectPgSleep | .selectNonexistentTable | .selectOne => .reading
  | .flushNewOrder _ _ _ | .flushOrderStatus _ _ => .writing
  | .cacheSet _ _ => .remembering
  | _ => .other

/-- Where the session of a tool stands. -/
inductive Phase where
  | unopened
  /-- Open, with nothing written. -/
  | clean
  /-- Open, with a statement written and not committed. -/
  | dirty
  /-- Open, and a statement has failed: the server takes nothing but a rollback. -/
  | failed
  | committed
  | closed (committed : Bool)
  deriving DecidableEq

def Phase.isOpen : Phase → Bool
  | .clean | .dirty | .failed | .committed => true
  | _ => false

/-- The session is not open any more, or never was. -/
def Phase.isOver : Phase → Bool
  | .unopened | .closed _ => true
  | _ => false

/-- The session is gone, whether its `close` returns or raises. -/
def Phase.close : Phase → Phase
  | .committed => .closed true
  | _ => .closed false

/-- The effects that the session takes where it stands. -/
def Kind.May : Phase → Kind → Prop
  | q, .opening => q = .unopened
  | q, .closing => q.isOpen = true
  | q, .reading => q = .clean ∨ q = .dirty
  | q, .writing => q = .clean
  | q, .committing => q = .dirty
  | q, .rollingBack => q = .failed
  | q, .remembering => q = .closed true
  | _, .other => True

/-- Where the session stands after the effect; `ok` says that it has returned. -/
def Kind.next (q : Phase) (kind : Kind) (ok : Bool) : Phase :=
  match kind with
  | .opening => if ok then .clean else .closed false
  | .closing => q.close
  | .reading => if ok then q else .failed
  | .writing => if ok then .dirty else .failed
  | .committing => if ok then .committed else .failed
  | .rollingBack => if ok then .clean else .failed
  | .remembering | .other => q

/-- The protocol of a session. -/
def sessions (σ : Type) : Protocol (Effect σ) Exc Phase where
  may q _ e := e.kind.May q
  next q _ e r := e.kind.next q r.toBool

/-! ### What an answer tells -/

/-- The tools that write. -/
def ToolCall.writes : ToolCall → Bool
  | createOrder _ _ | cancelOrder _ => true
  | _ => false

/-- A tool that does not write has not committed, nor has one that finds nothing. A cancellation is committed, and an
    order that is returned is committed, or comes from the cache without a session. -/
def Tells (writes : Bool) : Except Exc ToolResult → Phase → Prop
  | .ok (.notFound _ _), q => q ≠ .closed true
  | .ok (.cancelResult _ _ _), q => q = .closed true
  | .ok (.orderRef _), q => q = .closed true ∨ q = .unopened
  | .ok _, q => q ≠ .closed true
  | .error _, q => writes = false → q ≠ .closed true

/-- The session is over, and the answer tells what it came to. -/
def Settled (writes : Bool) (r : Except Exc ToolResult) (q : Phase) : Prop := q.isOver = true ∧ Tells writes r q

section Rules
variable {digest : Digest} {deps : Deps} {currentUser : Option McpUser} {α : Type}

/-- The protocol at the effects of the tools. -/
abbrev toolSessions (deps : Deps) : Protocol (Effect deps.scalars.Scalar) Exc Phase := sessions deps.scalars.Scalar

theorem settled_unopened {writes : Bool} {x : Exc} : Settled writes (.error x) .unopened := ⟨rfl, by simp [Tells]⟩

theorem settled_closed {writes : Bool} {x : Exc} : Settled writes (.error x) (.closed false) := ⟨rfl, by simp [Tells]⟩

theorem settled_notFound {writes : Bool} {entity : String} {id : Int} :
    Settled writes (.ok (.notFound entity id)) (.closed false) := ⟨rfl, by simp [Tells]⟩

/-- The effects that do not touch the session. -/
theorem wp_other {β : Type} {e : Effect deps.scalars.Scalar α} {f : α → Tool deps β} {post : Except Exc β → Phase → Prop}
    {q : Phase} (he : e.kind = .other) (hok : ∀ a, (f a).wp (toolSessions deps) post q) (herror : ∀ x, post (.error x) q) :
    (effect e >>= f : Tool deps β).wp (toolSessions deps) post q := by
  refine wp_effect_bind (by simp [sessions, he, Kind.May]) (fun a => ?_) fun x => ?_
  · simpa only [sessions, he, Kind.next] using hok a
  · simpa only [sessions, he, Kind.next] using herror x

/-- A body that leaves the session open, however it ends, runs in a session that is closed. -/
theorem wp_withSession {body : Tool deps α} {post : Except Exc α → Phase → Prop}
    (hopen : ∀ x, post (.error x) (.closed false))
    (hbody : body.wp (toolSessions deps)
      (fun r q => q.isOpen = true ∧ post r q.close ∧ ∀ x, post (.error x) q.close) .clean) :
    (withSession deps body).wp (toolSessions deps) post .unopened := by
  refine wp_effect_bind rfl (fun _ => ?_) hopen
  rw [wp_tryFinally]
  refine wp_mono hbody fun r q hq => ⟨hq.1, fun r' => ?_⟩
  cases r' with
  | ok _ => exact hq.2.1
  | error x => exact hq.2.2 x

theorem may_of_kind {q : Phase} {e : Effect deps.scalars.Scalar α} {kind : Kind} (he : e.kind = kind) (h : kind.May q) :
    (toolSessions deps).may q e := by
  simp only [sessions, he]
  exact h

theorem next_of_kind {q : Phase} {e : Effect deps.scalars.Scalar α} {kind : Kind} (he : e.kind = kind) (r : Except Exc α) :
    (toolSessions deps).next q e r = kind.next q r.toBool := by
  simp only [sessions, he]

/-! ### Tools that only read -/

/-- The code makes statements that read, one after the other as long as none fails. -/
def ReadsOnly (body : Tool deps α) : Prop := body.wp (toolSessions deps) (fun _ q => q = .clean ∨ q = .failed) .clean

theorem readsOnly_pure (a : α) : ReadsOnly (pure a : Tool deps α) := Or.inl rfl

theorem readsOnly_effect {e : Effect deps.scalars.Scalar α} (he : e.kind = .reading) :
    ReadsOnly (effect e : Tool deps α) := by
  refine ⟨may_of_kind he (Or.inl rfl), fun r => ?_⟩
  rw [next_of_kind he, wp_done]
  cases r with
  | ok a => exact Or.inl rfl
  | error x => exact Or.inr rfl

theorem readsOnly_bind {β : Type} {e : Effect deps.scalars.Scalar α} {f : α → Tool deps β} (he : e.kind = .reading)
    (hf : ∀ a, ReadsOnly (f a)) : ReadsOnly (effect e >>= f : Tool deps β) := by
  refine wp_effect_bind (may_of_kind he (Or.inl rfl)) (fun a => ?_) fun x => ?_
  · rw [next_of_kind he]
    exact hf a
  · rw [next_of_kind he]
    exact Or.inr rfl

/-- A session that is only read is closed without a commit. -/
theorem wp_readSession {β : Type} {body : Tool deps α} {f : α → Tool deps β} {post : Except Exc β → Phase → Prop}
    (hbody : ReadsOnly body) (hok : ∀ a, (f a).wp (toolSessions deps) post (.closed false))
    (herror : ∀ x, post (.error x) (.closed false)) :
    (withSession deps body >>= f).wp (toolSessions deps) post .unopened := by
  rw [wp_bind]
  refine wp_withSession herror (wp_mono hbody fun r q hq => ?_)
  have hclose : q.isOpen = true ∧ q.close = .closed false := by
    rcases hq with rfl | rfl <;> exact ⟨rfl, rfl⟩
  rw [hclose.2]
  refine ⟨hclose.1, ?_, herror⟩
  cases r with
  | ok a => exact hok a
  | error x => exact herror x

/-- The body of a tool after its record. -/
theorem wp_audited {name : String} {args : List (String × Arg)} {f : Unit → Tool deps ToolResult} {writes : Bool}
    (h : (f ()).wp (toolSessions deps) (Settled writes) .unopened) :
    (audit digest deps currentUser name args >>= f).wp (toolSessions deps) (Settled writes) .unopened :=
  wp_other rfl (fun _ => h) fun _ => settled_unopened

theorem settles_listRecentOrders (limit : Int) (status : Option OrderStatus) :
    (listRecentOrders digest deps currentUser limit status).wp (toolSessions deps) (Settled false) .unopened := by
  refine wp_audited (wp_readSession (readsOnly_effect rfl) (fun rows => ?_) fun x => settled_closed)
  exact ⟨rfl, by simp [Tells]⟩

theorem settles_getOrderById (id : Int) :
    (getOrderById digest deps currentUser id).wp (toolSessions deps) (Settled false) .unopened := by
  refine wp_audited (wp_readSession (readsOnly_effect rfl) (fun found => ?_) fun x => settled_closed)
  cases found with
  | none => exact ⟨rfl, by simp [Tells]⟩
  | some order => exact ⟨rfl, by simp [Tells]⟩

theorem settles_findLowStockProducts (threshold : Int) :
    (findLowStockProducts digest deps currentUser threshold).wp (toolSessions deps) (Settled false) .unopened := by
  refine wp_audited (wp_readSession (readsOnly_effect rfl) (fun rows => ?_) fun x => settled_closed)
  exact ⟨rfl, by simp [Tells]⟩

theorem settles_getCustomer360 (id : Int) :
    (getCustomer360 digest deps currentUser id).wp (toolSessions deps) (Settled false) .unopened := by
  refine wp_audited (wp_readSession ?_ (fun found => ?_) fun x => settled_closed)
  · refine readsOnly_bind rfl fun found => ?_
    cases found with
    | none => exact readsOnly_pure none
    | some customer => exact readsOnly_bind rfl fun row => readsOnly_pure _
  · cases found with
    | none => exact ⟨rfl, by simp [Tells]⟩
    | some row => exact ⟨rfl, by simp [Tells]⟩

theorem readsOnly_orderLinesOf (orderIds : List Nat) : ReadsOnly (orderLinesOf deps orderIds) := by
  unfold orderLinesOf
  split
  · exact readsOnly_pure []
  · exact readsOnly_effect rfl

theorem settles_predictCustomerChurn (customerId : Option Int) :
    (predictCustomerChurn digest deps currentUser customerId).wp (toolSessions deps) (Settled false) .unopened := by
  refine wp_audited ?_
  split
  · exact ⟨rfl, by simp [Tells]⟩
  · split
    · exact ⟨rfl, by simp [Tells]⟩
    · split
      · exact ⟨rfl, by simp [Tells]⟩
      · refine wp_readSession ?_ (fun found => ?_) fun x => settled_closed
        · refine readsOnly_bind rfl fun found => ?_
          cases found with
          | none => exact readsOnly_pure none
          | some customer =>
            refine readsOnly_bind rfl fun orders => ?_
            rw [ReadsOnly, wp_bind]
            refine wp_mono (readsOnly_orderLinesOf _) fun r q hq => ?_
            cases r <;> exact hq
        · cases found with
          | none => exact ⟨rfl, by simp [Tells]⟩
          | some row =>
            -- The session is closed, and what follows is computed.
            refine wp_other rfl (fun now => ?_) fun x => settled_closed
            refine wp_other rfl (fun probability => ?_) fun x => settled_closed
            rw [wp_bind, wp_ofExcept]
            split
            · rw [wp_bind, wp_ofExcept]
              split
              · exact ⟨rfl, by simp [Tells]⟩
              · exact settled_closed
            · exact settled_closed

/-! ### Chaos and health -/

theorem settles_chaosSlowQuery : (chaosSlowQuery deps).wp (toolSessions deps) (Settled false) .unopened := by
  refine wp_readSession ?_ (fun _ => ⟨rfl, by simp [Tells]⟩) fun x => settled_closed
  rw [ReadsOnly, wp_tryCatch, wp_effect]
  refine ⟨Or.inl rfl, fun r => ?_⟩
  cases r with
  | ok _ => exact Or.inl rfl
  | error exc =>
    -- The fallback sleeps without the server.
    simp only
    split
    · exact ⟨trivial, fun r => Or.inr rfl⟩
    · exact Or.inr rfl

theorem settles_chaosDbFailure : (chaosDbFailure deps).wp (toolSessions deps) (Settled false) .unopened := by
  refine wp_readSession ?_ (fun rejected => ?_) fun x => settled_closed
  · rw [ReadsOnly, wp_tryCatch]
    refine wp_effect_bind (Or.inl rfl) (fun _ => Or.inl rfl) fun exc => ?_
    simp only
    split
    · exact Or.inr rfl
    · exact Or.inr rfl
  · cases rejected with
    | none => exact ⟨rfl, by simp [Tells]⟩
    | some exc => exact ⟨rfl, by simp [Tells]⟩

/-- A caller without the role is turned away before anything is done. -/
theorem wp_requireRole {role : String} {f : Unit → Tool deps ToolResult}
    (h : (f ()).wp (toolSessions deps) (Settled false) .unopened) :
    (requireRole deps currentUser role >>= f).wp (toolSessions deps) (Settled false) .unopened := by
  unfold requireRole
  split
  · exact settled_unopened
  · exact h

theorem settles_triggerChaosExperiment (scenario : String) :
    (triggerChaosExperiment digest deps currentUser scenario).wp (toolSessions deps) (Settled false) .unopened := by
  refine wp_requireRole (wp_audited ?_)
  split
  · exact ⟨rfl, by simp [Tells]⟩
  · split
    · exact settles_chaosSlowQuery
    · split
      · exact settles_chaosDbFailure
      · exact ⟨rfl, by simp [Tells]⟩

theorem readsOnly_buildHealthSnapshot (includeDetails : Bool) : ReadsOnly (buildHealthSnapshot deps includeDetails) := by
  rw [ReadsOnly, buildHealthSnapshot, probeDb, wp_bind, wp_tryCatch]
  refine wp_effect_bind (Or.inl rfl) (fun _ => Or.inl rfl) fun exc => ?_
  simp only
  split
  · exact Or.inr rfl
  · exact Or.inr rfl

theorem settles_healthSnapshot (includeDetails : Bool) :
    (healthSnapshot deps includeDetails).wp (toolSessions deps) (Settled false) .unopened := by
  refine wp_effect_bind rfl (fun _ => ?_) fun x => settled_closed
  rw [wp_bind, wp_tryFinally]
  refine wp_mono (readsOnly_buildHealthSnapshot includeDetails) fun r q hq => ?_
  have hclose : q.isOpen = true ∧ q.close = .closed false := by
    rcases hq with rfl | rfl <;> exact ⟨rfl, rfl⟩
  have hend : Settled false (r.map ToolResult.health) (.closed false) := by
    cases r with
    | ok snapshot => exact ⟨rfl, by simp [Tells, Except.map]⟩
    | error x => exact settled_closed
  rw [wp_tryCatch, wp_effect]
  refine ⟨hclose.1, fun r' => ?_⟩
  have hnext : (toolSessions deps).next q .closeSession r' = .closed false := hclose.2
  rw [hnext]
  cases r' with
  | ok _ => cases r <;> exact hend
  | error exc =>
    by_cases hexc : exc.isException = true
    · simp only [if_pos hexc]
      cases r <;> exact hend
    · simp only [if_neg hexc]
      exact settled_closed

/-! ### Tools that write -/

theorem settles_cancelOrder (id : Int) :
    (cancelOrder digest deps currentUser id).wp (toolSessions deps) (Settled true) .unopened := by
  refine wp_audited ?_
  rw [wp_bind]
  refine wp_withSession (fun x => settled_closed) ?_
  refine wp_effect_bind (Or.inl rfl) (fun found => ?_) fun x =>
      ⟨rfl, settled_closed, fun x => settled_closed⟩
  cases found with
  | none => exact ⟨rfl, settled_notFound, fun x => settled_closed⟩
  | some order =>
    refine wp_effect_bind rfl (fun _ => ?_) fun x =>
      ⟨rfl, settled_closed, fun x => settled_closed⟩
    refine wp_effect_bind rfl (fun _ => ?_) fun x =>
      ⟨rfl, settled_closed, fun x => settled_closed⟩
    exact ⟨rfl, ⟨rfl, rfl⟩, fun x => ⟨rfl, by simp [Tells]⟩⟩

/-- How the session of `create_order` ends: committed with the order, or with nothing written. -/
def Created : Except Exc (Option OrderRef) → Phase → Prop
  | .ok (some _), q => q = .committed
  | .ok none, q => q = .clean
  | .error _, q => q = .failed

theorem wp_insertOrder (customerId : Int) : (do
    let flushed ← (do effect (.flushNewOrder customerId .pending 0); return true : Tool deps Bool).tryCatch fun exc =>
      if exc.kind = .integrityError then do
        effect .rollback
        return false
      else raise exc
    if flushed then do
      let order ← effect .refreshOrder
      effect .commit
      return some order
    else return none : Tool deps (Option OrderRef)).wp (toolSessions deps) Created .clean := by
  rw [wp_bind, wp_tryCatch]
  refine wp_effect_bind rfl (fun _ => ?_) fun exc => ?_
  · refine wp_effect_bind (Or.inr rfl) (fun order => ?_) fun x => rfl
    exact wp_effect_bind rfl (fun _ => rfl) fun x => rfl
  · simp only
    split
    · exact wp_effect_bind rfl (fun _ => rfl) fun x => rfl
    · exact rfl

theorem settles_originalCreateOrder (customerId : Int) (idempotencyKey : Option String) :
    (originalCreateOrder digest deps currentUser customerId idempotencyKey).wp (toolSessions deps) (Settled true)
      .unopened := by
  refine wp_audited ?_
  have hcached : ∀ post : Except Exc (Option OrderRef) → Phase → Prop, (∀ cached, post (.ok cached) .unopened) →
      (∀ x, post (.error x) .unopened) → (cachedOrder deps idempotencyKey).wp (toolSessions deps) post .unopened := by
    intro post hok herror
    cases idempotencyKey with
    | none => exact hok none
    | some key =>
      refine ⟨trivial, fun r => ?_⟩
      cases r with
      | ok cached => exact hok cached
      | error x => exact herror x
  rw [wp_bind]
  refine hcached _ (fun cached => ?_) fun x => settled_unopened
  cases cached with
  | some ref => exact ⟨rfl, Or.inr rfl⟩
  | none =>
    simp only
    rw [wp_bind]
    refine wp_withSession (fun x => settled_closed) (wp_mono (wp_insertOrder customerId) fun r q hq => ?_)
    cases r with
    | error x =>
      obtain rfl := hq
      exact ⟨rfl, settled_closed, fun x => settled_closed⟩
    | ok created =>
      cases created with
      | none =>
        obtain rfl := hq
        exact ⟨rfl, settled_notFound, fun x => settled_closed⟩
      | some ref =>
        obtain rfl := hq
        refine ⟨rfl, ?_, fun x => ⟨rfl, by simp [Tells]⟩⟩
        cases idempotencyKey with
        | none => exact ⟨rfl, Or.inl rfl⟩
        | some key => exact wp_effect_bind rfl (fun _ => ⟨rfl, Or.inl rfl⟩) fun x => ⟨rfl, by simp [Tells]⟩

theorem settles_createOrder (customerId : Int) (idempotencyKey : Option String) :
    (createOrder digest deps currentUser customerId idempotencyKey).wp (toolSessions deps) (Settled true) .unopened := by
  refine wp_bind.mpr (wp_mono (settles_originalCreateOrder customerId idempotencyKey) fun r q hq => ?_)
  cases r with
  | error x => exact hq
  | ok result =>
    simp only
    split
    · refine wp_other rfl (fun _ => hq) fun x => ⟨hq.1, by simp [Tells]⟩
    · exact hq

theorem settles (call : ToolCall) :
    (call.body digest deps currentUser).wp (toolSessions deps) (Settled call.writes) .unopened := by
  cases call with
  | listRecentOrders limit status => exact settles_listRecentOrders limit status
  | getOrderById id => exact settles_getOrderById id
  | createOrder customerId idempotencyKey => exact settles_createOrder customerId idempotencyKey
  | cancelOrder id => exact settles_cancelOrder id
  | findLowStockProducts threshold => exact settles_findLowStockProducts threshold
  | getCustomer360 id => exact settles_getCustomer360 id
  | triggerChaosExperiment scenario => exact settles_triggerChaosExperiment scenario
  | predictCustomerChurn customerId => exact settles_predictCustomerChurn customerId
  | tailLogs n level requestId =>
    exact wp_audited (wp_other rfl (fun _ => ⟨rfl, by simp [Tells]⟩) fun x => settled_unopened)
  | getMetrics nameFilter tagsFilter =>
    exact wp_audited (wp_other rfl (fun _ => ⟨rfl, by simp [Tells]⟩) fun x => settled_unopened)
  | getHealth => exact wp_audited (settles_healthSnapshot false)
  | getHealthDetail => exact wp_requireRole (wp_audited (settles_healthSnapshot true))
  | getActuatorEnv start =>
    exact wp_audited (wp_other rfl (fun _ => ⟨rfl, by simp [Tells]⟩) fun x => settled_unopened)
  | getActuatorInfo => exact wp_audited ⟨rfl, by simp [Tells]⟩
  | getOpenapiSpec summary =>
    refine wp_audited (wp_other rfl (fun spec => ⟨rfl, ?_⟩) fun x => settled_unopened)
    unfold buildOpenapi
    split <;> simp [Tells]

end Rules

/-- Whatever the surroundings do, a call of a tool keeps to the protocol of a session: one session at most, statements
    only while it is open and nothing in it has failed, a commit only of what was flushed, an order remembered under its
    key only once it is committed. The session is closed at the end, and the answer tells whether it has committed. -/
theorem tools_keep_sessions (digest : Digest) (deps : Deps) (currentUser : Option McpUser) (call : ToolCall)
    (answers : Answers (Effect deps.scalars.Scalar) Exc) :
    (sessions deps.scalars.Scalar).Accepts .unopened ((call.body digest deps currentUser).log answers 0) ∧
      Settled call.writes ((call.body digest deps currentUser).result answers 0)
        ((sessions deps.scalars.Scalar).after .unopened ((call.body digest deps currentUser).log answers 0)) :=
  wp_sound (settles call) answers 0

end IrisService.Mcp.Tools
