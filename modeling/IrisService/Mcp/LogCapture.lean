import IrisService.Library.Runs
import Mathlib.Data.List.Count

/-! The root logger's handlers and the ring buffer's singleton: `attach_ring_buffer` and `get_ring_buffer` of
`mcp/ring_buffer.py`, `configure_logging` of `middleware/logging.py`, and `create_app`, which calls both. -/

namespace IrisService.Mcp.LogCapture
open Runs

/-- What a handler of the root logger is. -/
inductive HandlerKind where
  /-- Wired by whoever ran before the application. -/
  | other
  /-- The `StreamHandler` of `configure_logging`. -/
  | stream
  | ringBuffer (capacity : Nat)
  deriving DecidableEq, Repr

/-- A handler object, by its identity. -/
structure Handler where
  id : Nat
  kind : HandlerKind
  deriving DecidableEq, Repr

/-- `handlers` are those of the root logger, `singleton` is `_handler_singleton`, `next` the next identity. -/
structure Process where
  handlers : List Handler
  singleton : Option Handler
  next : Nat
  deriving DecidableEq, Repr

/-- A process in which no ring buffer is attached yet. -/
def Process.start (kinds : List HandlerKind) : Process where
  handlers := kinds.zipIdx.map fun k => ⟨k.2, k.1⟩
  singleton := none
  next := kinds.length

/-- `Logger.addHandler` -/
def addHandler (handlers : List Handler) (handler : Handler) : List Handler :=
  if handler ∈ handlers then handlers else handlers ++ [handler]

/-- `DEFAULT_RING_BUFFER_SIZE` -/
def defaultRingBufferSize : Nat := 500

/-- `_read_capacity`, from the value of the variable; `int` is Python's, `none` where it raises. -/
def readCapacity (int : String → Option Int) (raw : Option String) : Int :=
  match raw with
  | none => defaultRingBufferSize
  | some raw =>
    match int raw with
    | none => defaultRingBufferSize
    | some size => if size ≤ 0 then defaultRingBufferSize else size

/-- `configure_logging` clears the handlers of the root logger. -/
def configureLogging (p : Process) : Process where
  handlers := [⟨p.next, .stream⟩]
  singleton := p.singleton
  next := p.next + 1

/-- What is raised where no handler comes back. -/
inductive Error where
  | valueError (text : String)
  | settings
  deriving DecidableEq, Repr

section Calls
variable (int : String → Option Int) (raw : Option String)

/-- `raw` is the environment's `IRIS_MCP_RING_BUFFER_SIZE`. -/
def attachRingBuffer (capacity : Option Int) (p : Process) : Except Error Handler × Process :=
  match p.singleton with
  | some handler => (.ok handler, p)
  | none =>
    let cap := capacity.getD (readCapacity int raw)
    if cap ≤ 0 then (.error (.valueError ("capacity must be > 0, got " ++ toString cap)), p)
    else
      let handler : Handler := ⟨p.next, .ringBuffer cap.toNat⟩
      (.ok handler, ⟨addHandler p.handlers handler, some handler, p.next + 1⟩)

/-- `get_ring_buffer` -/
def getRingBuffer (p : Process) : Except Error Handler × Process :=
  match p.singleton with
  | none => attachRingBuffer int raw none p
  | some handler => (.ok handler, p)

/-- `create_app`, as far as it touches the handlers: `get_settings`, `configure_logging`, and `mount_mcp_server` on the
    new application. -/
def createApp (settingsValid : Bool) (p : Process) : Except Error Handler × Process :=
  if settingsValid then attachRingBuffer int raw none (configureLogging p) else (.error .settings, p)

end Calls

/-- The calls that touch the handlers. -/
inductive Call where
  | configureLogging (devMode : Bool)
  | attachRingBuffer (raw : Option String) (capacity : Option Int)
  | getRingBuffer (raw : Option String)
  | createApp (raw : Option String) (settingsValid : Bool)
  deriving DecidableEq, Repr

def step (int : String → Option Int) (p : Process) : Call → Process
  | .configureLogging _ => configureLogging p
  | .attachRingBuffer raw capacity => (attachRingBuffer int raw capacity p).2
  | .getRingBuffer raw => (getRingBuffer int raw p).2
  | .createApp raw settingsValid => (createApp int raw settingsValid p).2

/-- The singleton, if there is one, is among the root logger's handlers exactly once. -/
def Attached (p : Process) : Prop := ∀ handler ∈ p.singleton, p.handlers.count handler = 1

namespace Call

/-- After the call the ring buffer should be attached. -/
def checked : Call → Bool
  | configureLogging _ => false
  | attachRingBuffer _ _ | getRingBuffer _ | createApp _ _ => true

/-- The call leaves a singleton behind. -/
def installs : Call → Bool
  | configureLogging _ => false
  | attachRingBuffer _ capacity => capacity.all (0 < ·)
  | getRingBuffer _ => true
  | createApp _ settingsValid => settingsValid

/-- The call replaces the root logger's handlers. -/
def reconfigures : Call → Bool
  | configureLogging _ => true
  | createApp _ settingsValid => settingsValid
  | attachRingBuffer _ _ | getRingBuffer _ => false

end Call

/-- A call so far has installed the ring buffer. -/
def Installed (calls : List Call) : Prop := ∃ call ∈ calls, call.installs = true

/-- A call that replaces the handlers came after one that installed the ring buffer. -/
def Detached (calls : List Call) : Prop :=
  ∃ pre call post, calls = pre ++ call :: post ∧ call.reconfigures = true ∧ Installed pre

theorem installed_concat {calls : List Call} {call : Call} :
    Installed (calls ++ [call]) ↔ Installed calls ∨ call.installs = true := by
  simp [Installed, or_and_right, exists_or]

theorem detached_concat {calls : List Call} {call : Call} :
    Detached (calls ++ [call]) ↔ Detached calls ∨ (call.reconfigures = true ∧ Installed calls) := by
  constructor
  · rintro ⟨pre, c, post, hsplit, hc, hpre⟩
    rcases List.eq_nil_or_concat post with rfl | ⟨post, last, rfl⟩
    · obtain ⟨rfl, hlast⟩ := List.append_inj' hsplit rfl
      cases hlast
      exact Or.inr ⟨hc, hpre⟩
    · have hinit : calls ++ [call] = (pre ++ c :: post) ++ [last] := by rw [hsplit]; simp
      obtain ⟨rfl, -⟩ := List.append_inj' hinit rfl
      exact Or.inl ⟨pre, c, post, rfl, hc, hpre⟩
  · rintro (⟨pre, c, post, rfl, hc, hpre⟩ | ⟨hc, hpre⟩)
    · exact ⟨pre, c, post ++ [call], by simp, hc, hpre⟩
    · exact ⟨calls, call, [], rfl, hc, hpre⟩

/-! ### What a call does -/

/-- The process after calls that have installed the ring buffer or not, and detached it or not. -/
structure Inv (installed detached : Prop) (p : Process) : Prop where
  handlers_lt : ∀ h ∈ p.handlers, h.id < p.next
  singleton_lt : ∀ h ∈ p.singleton, h.id < p.next
  isSome_iff : p.singleton.isSome = true ↔ installed
  installed_of_detached : detached → installed
  attached : ¬ detached → Attached p
  absent : detached → ∀ h ∈ p.singleton, h ∉ p.handlers

section Step
variable {int : String → Option Int} {raw : Option String} {p : Process} {installed detached : Prop}

theorem readCapacity_pos (int : String → Option Int) (raw : Option String) : 0 < readCapacity int raw := by
  unfold readCapacity
  split
  · decide
  · split
    · decide
    · split
      · decide
      · omega

theorem inv_start (kinds : List HandlerKind) : Inv False False (.start kinds) where
  handlers_lt h hh := by
    obtain ⟨k, hk, rfl⟩ := List.mem_map.mp hh
    exact (List.mem_zipIdx' hk).1
  singleton_lt h hh := absurd hh (Option.not_mem_none h)
  isSome_iff := by simp [Process.start]
  installed_of_detached := id
  attached _ h hh := absurd hh (Option.not_mem_none h)
  absent hd := hd.elim

theorem Inv.singleton_none (h : Inv installed detached p) (hnone : p.singleton = none) : ¬ installed := by
  intro hinstalled
  have hsome := h.isSome_iff.mpr hinstalled
  rw [hnone] at hsome
  cases hsome

/-- The new handlers do not include the ring buffer. -/
theorem Inv.configureLogging (h : Inv installed detached p) : Inv installed installed (configureLogging p) where
  handlers_lt handler hmem := by
    rw [List.mem_singleton.mp hmem]
    exact Nat.lt_succ_self p.next
  singleton_lt handler hmem := Nat.lt_succ_of_lt (h.singleton_lt handler hmem)
  isSome_iff := h.isSome_iff
  installed_of_detached := id
  attached hnot handler hmem := by
    have hsome : p.singleton.isSome = true := Option.isSome_of_mem hmem
    exact absurd (h.isSome_iff.mp hsome) hnot
  absent _ handler hmem hin := by
    have hlt := h.singleton_lt handler hmem
    rw [List.mem_singleton.mp hin] at hlt
    exact lt_irrefl p.next hlt

theorem Inv.attach_new (h : Inv installed detached p) (hnone : p.singleton = none) (kind : HandlerKind) :
    Inv True detached ⟨addHandler p.handlers ⟨p.next, kind⟩, some ⟨p.next, kind⟩, p.next + 1⟩ := by
  have hnew : (⟨p.next, kind⟩ : Handler) ∉ p.handlers := fun hin => lt_irrefl p.next (h.handlers_lt _ hin)
  have hadded : addHandler p.handlers ⟨p.next, kind⟩ = p.handlers ++ [⟨p.next, kind⟩] := if_neg hnew
  have hattached : ¬ detached := fun hd => h.singleton_none hnone (h.installed_of_detached hd)
  rw [hadded]
  refine ⟨fun handler hmem => ?_, fun handler hmem => ?_, by simp, fun _ => trivial, fun _ handler hmem => ?_,
    fun hd => absurd hd hattached⟩
  · rcases List.mem_append.mp hmem with hmem | hmem
    · exact Nat.lt_succ_of_lt (h.handlers_lt handler hmem)
    · rw [List.mem_singleton.mp hmem]
      exact Nat.lt_succ_self p.next
  · cases hmem
    exact Nat.lt_succ_self p.next
  · cases hmem
    rw [List.count_append, List.count_eq_zero.mpr hnew, List.count_singleton_self]

theorem Inv.congr {installed' : Prop} (h : Inv installed detached p) (hiff : installed ↔ installed') :
    Inv installed' detached p := by
  rwa [← propext hiff]

theorem Inv.attachRingBuffer (h : Inv installed detached p) (capacity : Option Int) :
    Inv (installed ∨ capacity.all (0 < ·) = true) detached (attachRingBuffer int raw capacity p).2 := by
  unfold LogCapture.attachRingBuffer
  split
  · rename_i handler hsome
    have hinstalled : installed := h.isSome_iff.mp (by rw [hsome]; rfl)
    exact h.congr ⟨Or.inl, fun _ => hinstalled⟩
  · rename_i hnone
    have hpos : capacity.all (0 < ·) = true ↔ 0 < capacity.getD (readCapacity int raw) := by
      cases capacity with
      | none => simp [readCapacity_pos int raw]
      | some size => simp
    dsimp only
    split
    · rename_i hcap
      refine h.congr ⟨Or.inl, fun hor => hor.resolve_right fun hall => ?_⟩
      exact absurd (hpos.mp hall) (Int.not_lt.mpr hcap)
    · rename_i hcap
      exact (h.attach_new hnone _).congr ⟨fun _ => Or.inr (hpos.mpr (Int.not_le.mp hcap)), fun _ => trivial⟩

theorem Inv.getRingBuffer (h : Inv installed detached p) : Inv True detached (getRingBuffer int raw p).2 := by
  unfold LogCapture.getRingBuffer
  split
  · exact h.attachRingBuffer none |>.congr ⟨fun _ => trivial, fun _ => Or.inr rfl⟩
  · rename_i handler hsome
    exact h.congr ⟨fun _ => trivial, fun _ => h.isSome_iff.mp (by rw [hsome]; rfl)⟩

theorem inv_step {calls : List Call} (h : Inv (Installed calls) (Detached calls) p) (call : Call) :
    Inv (Installed (calls ++ [call])) (Detached (calls ++ [call])) (step int p call) := by
  rw [propext installed_concat, propext detached_concat]
  have hsame : ∀ q, Inv (Installed calls ∨ call.installs = true) (Detached calls) q → call.reconfigures = false →
      Inv (Installed calls ∨ call.installs = true) (Detached calls ∨ (call.reconfigures = true ∧ Installed calls)) q := by
    intro q hq hkeep
    simpa [hkeep] using hq
  have habsorb : (Detached calls ∨ (True ∧ Installed calls)) = Installed calls :=
    propext ⟨fun hor => hor.elim h.installed_of_detached And.right, fun hi => Or.inr ⟨trivial, hi⟩⟩
  cases call with
  | configureLogging devMode =>
    have hnone : (Installed calls ∨ (Call.configureLogging devMode).installs = true) = Installed calls := by
      simp [Call.installs]
    have hall : ((Call.configureLogging devMode).reconfigures = true) = True := by simp [Call.reconfigures]
    rw [hnone, hall, habsorb]
    exact h.configureLogging
  | attachRingBuffer raw capacity => exact hsame _ (h.attachRingBuffer capacity) rfl
  | getRingBuffer raw => exact hsame _ (h.getRingBuffer.congr ⟨fun _ => Or.inr rfl, fun _ => trivial⟩) rfl
  | createApp raw settingsValid =>
    cases settingsValid with
    | false => exact hsame _ (h.congr ⟨Or.inl, fun hor => hor.resolve_right Bool.false_ne_true⟩) rfl
    | true =>
      have hall : ((Call.createApp raw true).reconfigures = true) = True := by simp [Call.reconfigures]
      rw [hall, habsorb]
      exact (h.configureLogging.attachRingBuffer none).congr ⟨fun _ => Or.inr rfl, fun _ => Or.inr rfl⟩

theorem inv_run (kinds : List HandlerKind) (calls : List Call) :
    Inv (Installed calls) (Detached calls) (run (step int) (.start kinds) calls) := by
  have hstart : Inv (Installed []) (Detached []) (.start kinds) := by
    have hnone : Installed [] = False := by simp [Installed]
    have hkept : Detached [] = False := by simp [Detached]
    rw [hnone, hkept]
    exact inv_start kinds
  exact run_induction (P := fun calls p => Inv (Installed calls) (Detached calls) p) hstart
    (fun calls call h => inv_step h call) calls

/-- The ring buffer is attached unless it has been detached. -/
theorem Inv.attached_iff (h : Inv installed detached p) : Attached p ↔ ¬ detached := by
  refine ⟨fun hattached hd => ?_, h.attached⟩
  obtain ⟨handler, hsome⟩ := Option.isSome_iff_exists.mp (h.isSome_iff.mpr (h.installed_of_detached hd))
  have hone := hattached handler hsome
  rw [List.count_eq_zero.mpr (h.absent hd handler hsome)] at hone
  cases hone

end Step

/-! ### The law of the capture -/

/-- After each attach, get and creation of an application the ring buffer is attached once, exactly in the runs in which
    none of these comes with or after a call that replaced the handlers of an installed ring buffer. -/
theorem capture_survives_iff (int : String → Option Int) (kinds : List HandlerKind) (calls : List Call) :
    (∀ pre call post, calls = pre ++ call :: post → call.checked = true →
        Attached (run (step int) (.start kinds) (pre ++ [call]))) ↔
      ∀ pre call post, calls = pre ++ call :: post → call.checked = true → ¬ Detached (pre ++ [call]) := by
  refine forall₃_congr fun pre call post => forall₂_congr fun _ _ => ?_
  exact (inv_run kinds (pre ++ [call])).attached_iff

/-- A second application in the process takes the ring buffer off the root logger. -/
theorem capture_lost : ¬ ∀ (int : String → Option Int) (kinds : List HandlerKind) (calls : List Call),
    ∀ pre call post, calls = pre ++ call :: post → call.checked = true →
      Attached (run (step int) (.start kinds) (pre ++ [call])) := by
  intro h
  have hattached := h (fun _ => none) [] [.createApp none true, .createApp none true] [.createApp none true]
    (.createApp none true) [] rfl rfl
  exact absurd (hattached ⟨1, .ringBuffer 500⟩ rfl) (by decide)

end IrisService.Mcp.LogCapture
