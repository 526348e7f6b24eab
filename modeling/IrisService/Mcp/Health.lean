import IrisService.Mcp.ToolAudit

/-! The two probes of the database: `build_health_snapshot` of `mcp/actuator.py` and `readiness` of `api/actuator.py`.
    They catch different exceptions. -/

namespace IrisService.Mcp.Tools
open Effects Program

/-- What `readiness` answers with. -/
structure Readiness where
  statusCode : Nat
  status : String
  components : List (String × List (String × String))
  deriving DecidableEq, Repr

/-- The check of `readiness`: the component, and whether the database is up. -/
def checkDb (deps : Deps) : Tool deps (List (String × String) × Bool) :=
  (do effect .selectOne; return ([("status", "UP")], true) : Tool deps (List (String × String) × Bool)).tryCatch fun exc =>
    if exc.isException then return ([("status", "DOWN"), ("error", exc.text)], false) else raise exc

/-- `get_readiness` -/
def readiness (deps : Deps) : Tool deps Readiness := do
  let (db, overallUp) ← checkDb deps
  return ⟨if overallUp then 200 else 503, if overallUp then "UP" else "DOWN", [("db", db)]⟩

/-! ### What each probe makes of an outcome -/

section Probes
variable {deps : Deps} {answer answer' : (β : Type) → Effect deps.scalars.Scalar β → Except Exc β} {exc exc' : Exc}

/-- The details of a failed probe. -/
def downDetails (includeDetails : Bool) (exc : Exc) : List (String × String) :=
  if includeDetails then [("error", exc.name), ("message", String.ofList (exc.text.toList.take 200))] else []

theorem healthSnapshot_up (h : answer Unit .selectOne = .ok ()) (includeDetails : Bool) :
    (buildHealthSnapshot deps includeDetails).eval answer = .ok ⟨"UP", [("db", ⟨"UP", []⟩)]⟩ := by
  simp [buildHealthSnapshot, probeDb, h, Except.tryCatch]

/-- A `SQLAlchemyError` is caught. -/
theorem healthSnapshot_down (h : answer Unit .selectOne = .error exc) (hcaught : exc.isSQLAlchemyError = true)
    (includeDetails : Bool) :
    (buildHealthSnapshot deps includeDetails).eval answer =
      .ok ⟨"DOWN", [("db", ⟨"DOWN", downDetails includeDetails exc⟩)]⟩ := by
  simp [buildHealthSnapshot, probeDb, h, Except.tryCatch, hcaught, downDetails]

/-- Any other exception goes through. -/
theorem healthSnapshot_raises (h : answer Unit .selectOne = .error exc) (hother : exc.isSQLAlchemyError = false)
    (includeDetails : Bool) : (buildHealthSnapshot deps includeDetails).eval answer = .error exc := by
  simp [buildHealthSnapshot, probeDb, h, Except.tryCatch, hother]

theorem readiness_up (h : answer Unit .selectOne = .ok ()) :
    (readiness deps).eval answer = .ok ⟨200, "UP", [("db", [("status", "UP")])]⟩ := by
  simp [readiness, checkDb, h, Except.tryCatch]

/-- Every `Exception` is caught. -/
theorem readiness_down (h : answer Unit .selectOne = .error exc) (hcaught : exc.isException = true) :
    (readiness deps).eval answer = .ok ⟨503, "DOWN", [("db", [("status", "DOWN"), ("error", exc.text)])]⟩ := by
  simp [readiness, checkDb, h, Except.tryCatch, hcaught]

theorem Exc.isException_of_isSQLAlchemyError (h : exc.isSQLAlchemyError = true) : exc.isException = true := by
  cases hkind : exc.kind <;> simp_all [Exc.isSQLAlchemyError, Exc.isDBAPIError, Exc.isException]

/-! ### Agreement -/

/-- The handler reports that the service is up. -/
def ReadinessUp (deps : Deps) (answer : (β : Type) → Effect deps.scalars.Scalar β → Except Exc β) : Prop :=
  ∃ response, (readiness deps).eval answer = .ok response ∧ response.status = "UP"

/-- The snapshot is returned, and is up exactly when the handler reports so. -/
def Agrees (deps : Deps) (answer : (β : Type) → Effect deps.scalars.Scalar β → Except Exc β) : Prop :=
  ∀ includeDetails, ∃ snapshot, (buildHealthSnapshot deps includeDetails).eval answer = .ok snapshot ∧
    (snapshot.status = "UP" ↔ ReadinessUp deps answer)

/-- Two failures show the same snapshot. -/
def Sanitised (deps : Deps) (answer answer' : (β : Type) → Effect deps.scalars.Scalar β → Except Exc β) : Prop :=
  ∀ exc exc', answer Unit .selectOne = .error exc → answer' Unit .selectOne = .error exc' →
    ∃ snapshot, (buildHealthSnapshot deps false).eval answer = .ok snapshot ∧
      (buildHealthSnapshot deps false).eval answer' = .ok snapshot

/-- A failing probe fails with a `SQLAlchemyError`. -/
def FailsInSQLAlchemy (deps : Deps) (answer : (β : Type) → Effect deps.scalars.Scalar β → Except Exc β) : Prop :=
  ∀ exc, answer Unit .selectOne = .error exc → exc.isSQLAlchemyError = true

theorem agrees_iff : Agrees deps answer ↔ FailsInSQLAlchemy deps answer := by
  constructor
  · intro hagrees exc hfail
    obtain ⟨snapshot, hok, -⟩ := hagrees false
    cases hcaught : exc.isSQLAlchemyError with
    | true => rfl
    | false =>
      rw [healthSnapshot_raises hfail hcaught] at hok
      cases hok
  · intro hfails includeDetails
    cases hprobe : answer Unit .selectOne with
    | ok _ => exact ⟨_, healthSnapshot_up hprobe includeDetails, iff_of_true rfl ⟨_, readiness_up hprobe, rfl⟩⟩
    | error exc =>
      have hcaught := hfails exc hprobe
      refine ⟨_, healthSnapshot_down hprobe hcaught includeDetails, iff_of_false (by simp) ?_⟩
      rintro ⟨response, hresponse, hup⟩
      rw [readiness_down hprobe (Exc.isException_of_isSQLAlchemyError hcaught)] at hresponse
      cases hresponse
      simp at hup

theorem sanitised_of_caught (h : FailsInSQLAlchemy deps answer) (h' : FailsInSQLAlchemy deps answer') :
    Sanitised deps answer answer' := by
  intro exc exc' hfail hfail'
  exact ⟨_, healthSnapshot_down hfail (h exc hfail) false, healthSnapshot_down hfail' (h' exc' hfail') false⟩

end Probes

/-- The snapshot agrees with `readiness`, and tells failures apart no more than it should, exactly when the failures
    are errors of SQLAlchemy: the handler catches every `Exception`, the snapshot does not. -/
theorem health_agreement_iff (deps : Deps) (answer answer' : (β : Type) → Effect deps.scalars.Scalar β → Except Exc β) :
    (Agrees deps answer ∧ Agrees deps answer' ∧ Sanitised deps answer answer') ↔
      FailsInSQLAlchemy deps answer ∧ FailsInSQLAlchemy deps answer' := by
  constructor
  · rintro ⟨hagrees, hagrees', -⟩
    exact ⟨agrees_iff.mp hagrees, agrees_iff.mp hagrees'⟩
  · rintro ⟨hfails, hfails'⟩
    exact ⟨agrees_iff.mpr hfails, agrees_iff.mpr hfails', sanitised_of_caught hfails hfails'⟩

/-- The driver raises an `OSError` of its own when it cannot connect. -/
def connectionRefused : Exc := ⟨.exception, "ConnectionRefusedError", "[Errno 111] Connect call failed"⟩

theorem refused_connection_escapes : ¬∀ (deps : Deps)
    (answer answer' : (β : Type) → Effect deps.scalars.Scalar β → Except Exc β),
    Agrees deps answer ∧ Agrees deps answer' ∧ Sanitised deps answer answer' := by
  intro h
  have hagrees := (h bareDeps (fun _ _ => .error connectionRefused) fun _ _ => .error connectionRefused).1
  exact absurd (agrees_iff.mp hagrees connectionRefused rfl) (by decide)

end IrisService.Mcp.Tools
