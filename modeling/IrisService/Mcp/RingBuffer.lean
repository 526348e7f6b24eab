import IrisService.Library.Tails
import IrisService.Mcp.Tools
import IrisService.Python.Case

/-! `RingBufferHandler` of `mcp/ring_buffer.py`: the last log records, and what the tail of them shows. -/

namespace IrisService.Mcp
open Tools Tails

/-- An attribute that a record may carry: none, a value that pydantic takes as text, or one that it refuses. -/
inductive Extra where
  | none
  | text (s : String)
  | other
  deriving DecidableEq, Repr

/-- `created` is absent where no date can be made of it, `message` where `getMessage` raises. -/
structure LogRecord where
  created : Option DateTime
  levelname : String
  name : String
  message : Option String
  requestId : Extra
  traceId : Extra
  deriving DecidableEq, Repr

/-- The value of a `str | None` field; `none` where the model raises. -/
def Extra.field : Extra → Option (Option String)
  | .none => some Option.none
  | .text s => some (some s)
  | .other => Option.none

/-- `_to_event`; `none` where it raises. -/
def toEvent (record : LogRecord) : Option LogEvent :=
  match record.created, record.message, record.requestId.field, record.traceId.field with
  | some timestamp, some message, some requestId, some traceId =>
    some ⟨timestamp, record.levelname, record.name, message, requestId, traceId⟩
  | _, _, _, _ => none

/-- The handler; its buffer is a deque that holds `capacity` entries. -/
structure RingBufferHandler where
  capacity : Nat
  buffer : List LogEvent
  capacity_pos : 0 < capacity
  length_le : buffer.length ≤ capacity

namespace RingBufferHandler

/-- `RingBufferHandler.__init__` -/
def new (capacity : Nat) (h : 0 < capacity) : RingBufferHandler := ⟨capacity, [], h, Nat.zero_le _⟩

/-- `emit`; `handleError` swallows what the conversion raises. -/
def emit (handler : RingBufferHandler) (record : LogRecord) : RingBufferHandler :=
  match toEvent record with
  | some event =>
    ⟨handler.capacity, push handler.capacity handler.buffer event, handler.capacity_pos, length_push_le _ _ _⟩
  | none => handler

/-- The loop of `snapshot` over the entries from the newest on. -/
def scan (wantedLevel requestId : Option String) (n : Int) : List LogEvent → List LogEvent → List LogEvent
  | [], result => result
  | event :: events, result =>
    if wantedLevel.any (event.level ≠ ·) then scan wantedLevel requestId n events result
    else if requestId.any (event.requestId ≠ some ·) then scan wantedLevel requestId n events result
    else if n ≤ (result ++ [event]).length then result ++ [event]
    else scan wantedLevel requestId n events (result ++ [event])

variable (case : Str.CaseMapping)

/-- `level.upper() if level else None` -/
def wantedLevel (level : Option String) : Option String :=
  level.bind fun l => if l = "" then none else some (case.upper l)

/-- `snapshot`: the newest `n` that match, oldest first. -/
def snapshot (handler : RingBufferHandler) (n : Int) (level requestId : Option String) : List LogEvent :=
  if n ≤ 0 then []
  else (scan (wantedLevel case level) requestId n handler.buffer.reverse []).reverse

/-! ### What the buffer holds -/

section Buffer
variable {case} {handler : RingBufferHandler} {n : Int} {level requestId : Option String}

/-- The records emitted one after another. -/
def emitAll (handler : RingBufferHandler) (records : List LogRecord) : RingBufferHandler := records.foldl emit handler

/-- The last `capacity` events that the records were converted to. -/
def retained (capacity : Nat) (records : List LogRecord) : List LogEvent := (records.filterMap toEvent).rtake capacity

theorem emit_eq (handler : RingBufferHandler) (record : LogRecord) :
    (handler.emit record).capacity = handler.capacity ∧
      (handler.emit record).buffer = (toEvent record).elim handler.buffer (push handler.capacity handler.buffer) := by
  unfold emit
  cases toEvent record <;> exact ⟨rfl, rfl⟩

theorem emitAll_eq (capacity : Nat) (h : 0 < capacity) (records : List LogRecord) :
    ((new capacity h).emitAll records).capacity = capacity ∧
      ((new capacity h).emitAll records).buffer = retained capacity records := by
  induction records using List.reverseRecOn with
  | nil => exact ⟨rfl, (List.rtake_nil capacity).symm⟩
  | append_singleton records record ih =>
    obtain ⟨hcapacity, hbuffer⟩ := ih
    rw [emitAll, List.foldl_append, List.foldl_cons, List.foldl_nil, ← emitAll]
    obtain ⟨hcapacity', hbuffer'⟩ := emit_eq ((new capacity h).emitAll records) record
    refine ⟨hcapacity'.trans hcapacity, ?_⟩
    rw [hbuffer', hcapacity, hbuffer, retained, retained, List.filterMap_append]
    cases hevent : toEvent record with
    | none => simp [hevent]
    | some event =>
      simp only [Option.elim_some, List.filterMap_cons, hevent, List.filterMap_nil]
      exact push_rtake _ _ _

/-- The event passes the filters as the code compares them. -/
def passes (wantedLevel requestId : Option String) (event : LogEvent) : Bool :=
  !wantedLevel.any (event.level ≠ ·) && !requestId.any (event.requestId ≠ some ·)

/-- The loop takes the entries that pass until it has `n`. -/
theorem scan_eq {wanted : Option String} {events result : List LogEvent} (hn : (result.length : Int) < n) :
    scan wanted requestId n events result =
      result ++ (events.filter (passes wanted requestId)).take (n.toNat - result.length) := by
  induction events generalizing result with
  | nil => simp [scan]
  | cons event events ih =>
    rw [scan]
    by_cases hlevel : wanted.any (event.level ≠ ·) = true
    · have hnot : passes wanted requestId event = false := by simp only [passes, hlevel, Bool.not_true, Bool.false_and]
      rw [if_pos hlevel, ih hn, List.filter_cons_of_neg (by rw [hnot]; exact Bool.false_ne_true)]
    · by_cases hrequest : requestId.any (event.requestId ≠ some ·) = true
      · have hnot : passes wanted requestId event = false := by
          simp only [passes, hrequest, Bool.not_true, Bool.and_false]
        rw [if_neg hlevel, if_pos hrequest, ih hn, List.filter_cons_of_neg (by rw [hnot]; exact Bool.false_ne_true)]
      · have hpasses : passes wanted requestId event = true := by
          rw [Bool.not_eq_true] at hlevel hrequest
          simp only [passes, hlevel, hrequest, Bool.not_false, Bool.and_self]
        have hlength : (result ++ [event]).length = result.length + 1 := by simp
        rw [if_neg hlevel, if_neg hrequest, List.filter_cons_of_pos hpasses]
        split
        · rename_i hfull
          have hlast : n.toNat - result.length = 0 + 1 := by omega
          rw [hlast, List.take_succ_cons, List.take_zero]
        · rename_i hfull
          have hmore : n.toNat - result.length = (n.toNat - (result ++ [event]).length) + 1 := by omega
          rw [ih (not_le.mp hfull), hmore, List.take_succ_cons, List.append_assoc, List.singleton_append]

theorem snapshot_eq : handler.snapshot case n level requestId =
    (handler.buffer.filter (passes (wantedLevel case level) requestId)).rtake n.toNat := by
  unfold snapshot
  split
  · rename_i hn
    rw [Int.toNat_of_nonpos hn, List.rtake_zero]
  · rename_i hn
    have hpos : ((([] : List LogEvent).length : Nat) : Int) < n := by simpa using hn
    rw [scan_eq hpos, List.nil_append, List.length_nil, Nat.sub_zero, List.filter_reverse,
      ← List.rtake_eq_reverse_take_reverse]

end Buffer

/-! ### Level names ignoring case -/

/-- The event has the level, if one is asked for, whatever the letter case of either, and the request id. -/
def Matches (level requestId : Option String) (event : LogEvent) : Prop :=
  (∀ l ∈ level, l ≠ "" → case.upper event.level = case.upper l) ∧ ∀ r ∈ requestId, event.requestId = some r

instance (level requestId : Option String) (event : LogEvent) : Decidable (Matches case level requestId event) :=
  inferInstanceAs (Decidable (_ ∧ _))

section Levels
variable {case} {level requestId : Option String} {event : LogEvent}

theorem passes_iff : passes (wantedLevel case level) requestId event = true ↔
    (∀ l ∈ level, l ≠ "" → event.level = case.upper l) ∧ ∀ r ∈ requestId, event.requestId = some r := by
  have hlevel : (!(wantedLevel case level).any (event.level ≠ ·)) = true ↔
    ∀ l ∈ level, l ≠ "" → event.level = case.upper l := by
    cases level with
    | none => simp [wantedLevel]
    | some l =>
      by_cases hempty : l = ""
      · simp [wantedLevel, hempty]
      · simp [wantedLevel, hempty]
  have hrequest : (!requestId.any (event.requestId ≠ some ·)) = true ↔ ∀ r ∈ requestId, event.requestId = some r := by
    cases requestId <;> simp
  rw [passes, Bool.and_eq_true, hlevel, hrequest]

/-- The comparison of the code is the stricter one: it leaves the event's level as it is. -/
theorem matches_of_passes (h : passes (wantedLevel case level) requestId event = true) :
    Matches case level requestId event := by
  obtain ⟨hlevel, hrequest⟩ := passes_iff.mp h
  refine ⟨fun l hl hne => ?_, hrequest⟩
  rw [hlevel l hl hne, Str.CaseMapping.upper_upper_eq]

theorem passes_iff_of_matches (h : Matches case level requestId event) :
    passes (wantedLevel case level) requestId event = true ↔
      ∀ l ∈ level, l ≠ "" → case.upper event.level = event.level := by
  rw [passes_iff]
  constructor
  · rintro ⟨hlevel, -⟩ l hl hne
    rw [hlevel l hl hne, Str.CaseMapping.upper_upper_eq]
  · intro hupper
    exact ⟨fun l hl hne => (hupper l hl hne).symm.trans (h.1 l hl hne), h.2⟩

end Levels

/-- The tail is the last matching events exactly when each of these, if a level is asked for, has its level in upper
    case. -/
theorem snapshot_eq_iff (case : Str.CaseMapping) (capacity : Nat) (h : 0 < capacity) (records : List LogRecord) (n : Int)
    (level requestId : Option String) :
    ((new capacity h).emitAll records).snapshot case n level requestId =
        ((retained capacity records).filter (Matches case level requestId)).rtake n.toNat ↔
      ∀ pre event post, retained capacity records = pre ++ event :: post → Matches case level requestId event →
        (((post.filter (Matches case level requestId)).length : Nat) : Int) < n →
          ∀ l ∈ level, l ≠ "" → case.upper event.level = event.level := by
  rw [snapshot_eq, (emitAll_eq capacity h records).2, rtake_filter_eq_iff fun event _ hpasses =>
    decide_eq_true (matches_of_passes hpasses)]
  constructor
  · intro hall pre event post hsplit hmatches hlater
    have hmem : event ∈ ((retained capacity records).filter (Matches case level requestId)).rtake n.toNat :=
      mem_rtake_filter.mpr ⟨pre, post, hsplit, decide_eq_true hmatches, by omega⟩
    exact (passes_iff_of_matches hmatches).mp (hall event hmem)
  · intro hupper event hmem
    obtain ⟨pre, post, hsplit, hmatches, hlater⟩ := mem_rtake_filter.mp hmem
    have hmatches' : Matches case level requestId event := of_decide_eq_true hmatches
    exact (passes_iff_of_matches hmatches').mpr (hupper pre event post hsplit hmatches' (by omega))

def recordAt (levelname message : String) : LogRecord := ⟨some ⟨0, some 0⟩, levelname, "app", some message, .none, .none⟩

/-- Records of the standard levels, one of them asked for in lower case. -/
theorem snapshot_error :
    ((new 2 Nat.two_pos).emitAll [recordAt "ERROR" "a", recordAt "INFO" "b", recordAt "ERROR" "c"]).snapshot
      .ascii 5 (some "error") none =
    ((retained 2 [recordAt "ERROR" "a", recordAt "INFO" "b", recordAt "ERROR" "c"]).filter
      (Matches .ascii (some "error") none)).rtake 5 := by
  refine (snapshot_eq_iff .ascii 2 Nat.two_pos _ 5 (some "error") none).mpr ?_
  intro pre event post hsplit _ _ l _ _
  have hlevels : ∀ e ∈ retained 2 [recordAt "ERROR" "a", recordAt "INFO" "b", recordAt "ERROR" "c"],
      Str.CaseMapping.ascii.upper e.level = e.level := by decide
  exact hlevels event (hsplit ▸ List.mem_append_right pre List.mem_cons_self)

/-- A level named `Trace` is not found by its own name. -/
theorem snapshot_trace : ((new 2 Nat.two_pos).emitAll [recordAt "Trace" "a"]).snapshot .ascii 5 (some "Trace") none ≠
    ((retained 2 [recordAt "Trace" "a"]).filter (Matches .ascii (some "Trace") none)).rtake 5 := by decide

end RingBufferHandler

end IrisService.Mcp
