import IrisService.Auth.RefreshSteps
import IrisService.Library.Runs

/-! The jobs that share the store with the calls of `auth/router.py`: the one of `auth/cleanup.py`, and the changes
    that an administrator makes to the accounts. -/

namespace IrisService.Auth
open ReadCommitted Orders

/-! ### cleanup_refresh_tokens -/

/-- The point that a cleanup has come to. -/
inductive Cleanup where
  | start
  | deleted (count : Nat)
  /-- The count of deleted rows is returned. -/
  | done (count : Nat)
  | failed

/-- `revoked IS TRUE OR expires_at < now` -/
def deletable (now : DateTime) (record : RefreshToken) : Bool := record.revoked || decide (record.expiresAt.utc < now.utc)

/-- The rows that the `DELETE` of a cleanup takes. -/
def deletableTokens (v : View Row) (now : DateTime) : List (Nat × RefreshToken) :=
  (select v .refreshToken).filter fun r => deletable now r.2

/-- The job of `auth/cleanup.py`. -/
def cleanupRefreshTokens (now : DateTime) : Cleanup → View Row → Action Row Cleanup
  | .start, v =>
    .write ((deletableTokens v now).map fun r => ⟨.refreshToken, r.1, none⟩) (.deleted (deletableTokens v now).length)
  | .deleted count, _ => .commit (.done count)
  | .done count, _ => .next (.done count)
  | .failed, _ => .next .failed

/-! ### Changes of the accounts -/

/-- A change of `app_user` by an administrator. -/
inductive AccountChange where
  | create (user : AppUser)
  | update (id : Nat) (set : AppUser → AppUser)
  | delete (id : Nat)

/-- The point that such a change has come to. -/
inductive Administer where
  | start
  | changed
  | done
  | failed

/-- The statement of the change, and its commit. -/
def administer (change : AccountChange) : Administer → View Row → Action Row Administer
  | .start, v =>
    match change with
    | .create user => .insert .appUser (fun _ => user) fun _ => .changed
    | .update id set => update v .appUser id set .changed .failed
    | .delete id =>
      match v.rows .appUser id with
      | some _ => .write [⟨.appUser, id, none⟩] .changed
      | none => .next .changed
  | .changed, _ => .commit .done
  | .done, _ => .next .done
  | .failed, _ => .next .failed

/-! ### The store with its clients -/

/-- A client of the store: a call, a cleanup, or a change of an account. -/
inductive Job where
  | call (session : Session)
  | cleanup (at_ : Cleanup)
  | administer (change : AccountChange) (at_ : Administer)

/-- What a job does next, when it reads the clock at `now`. -/
def jobAct (deps : Deps) (now : DateTime) (job : Job) (v : View Row) : Action Row Job :=
  match job with
  | .call session => (act deps now session v).map .call
  | .cleanup st => (cleanupRefreshTokens now st v).map .cleanup
  | .administer change st => (administer change st v).map (.administer change)

/-- What a job comes to when the store refuses its statement or loses its connection. -/
def Job.refused : Job → Job
  | .call session => .call session.refused
  | .cleanup (.done count) => .cleanup (.done count)
  | .cleanup _ => .cleanup .failed
  | .administer change .done => .administer change .done
  | .administer change _ => .administer change .failed

/-- The program that every client of the store runs. -/
def jobs (deps : Deps) : Program Row Job DateTime := ⟨jobAct deps, Job.refused⟩

/-- A step of a job, or the failure of one. -/
def jobStep (deps : Deps) : Db Row Job → Event DateTime → Db Row Job := Db.step (jobs deps)

/-- The call has begun and is not over. -/
def Session.inFlight : Session → Bool
  | .login _ _ _ .start | .login _ _ _ (.done _) | .refresh _ _ .start | .refresh _ _ (.done _) => false
  | _ => true

/-- The job has begun and is not over. -/
def Job.inFlight : Job → Bool
  | .call session => session.inFlight
  | .cleanup (.deleted _) => true
  | .administer _ .changed => true
  | _ => false

/-- What the call is answered. -/
def Job.answer? : Job → Option Answer
  | .call session => session.answer?
  | _ => none

/-- A job that may be started. -/
inductive Task where
  | call (call : Call)
  | cleanup
  | administer (change : AccountChange)

/-- A task that has just been started. -/
def Task.open (jtis : Jtis) : Task → Job
  | .call c => .call (c.open jtis)
  | .cleanup => .cleanup .start
  | .administer change => .administer change .start

theorem jobAct_opens (deps : Deps) (now : DateTime) (job : Job) (v : View Row) :
    (jobAct deps now job v).Opens Job.inFlight job := by
  cases job with
  | call session =>
    have ht : Turns deps now v session (act deps now session v) := act_turns session
    simp only [jobAct]
    generalize act deps now session v = a at ht
    cases ht <;> simp [Action.map, Action.Opens, Job.inFlight, Session.inFlight]
  | cleanup st => cases st <;> simp [jobAct, cleanupRefreshTokens, Action.map, Action.Opens, Job.inFlight]
  | administer change st =>
    cases st with
    | start =>
      cases change with
      | create user => simp [jobAct, administer, Action.map, Action.Opens, Job.inFlight]
      | update id set =>
        simp only [jobAct, administer, update]
        split <;> simp [Action.map, Action.Opens, Job.inFlight]
      | delete id =>
        simp only [jobAct, administer]
        split <;> simp [Action.map, Action.Opens, Job.inFlight]
    | _ => simp [jobAct, administer, Action.map, Action.Opens, Job.inFlight]

theorem refused_not_inFlight (job : Job) : job.refused.inFlight = false := by
  cases job with
  | call session => cases session with
    | login username password jtis st => cases st <;> rfl
    | refresh token jtis st => cases st <;> rfl
  | cleanup st => cases st <;> rfl
  | administer change st => cases st <;> rfl

theorem idle_jobStep {deps : Deps} {d : Db Row Job} (h : d.Idle Job.inFlight) (e : Event DateTime) :
    (jobStep deps d e).Idle Job.inFlight := by
  cases e with
  | step i now => exact h.perform (jobAct_opens deps now _ _)
  | fail i => exact h.perform (a := .rollback _) (refused_not_inFlight _)

end IrisService.Auth
