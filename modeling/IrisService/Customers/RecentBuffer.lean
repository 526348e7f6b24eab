import Mathlib.Data.Finset.Card
import Mathlib.Data.Fintype.Card
import IrisService.Customers.Create
import IrisService.Python.JsonText

/-! `customer/recent_buffer.py`: the Redis list of recent customers under any number of `add`s at once, each of
them an `LPUSH` and, if it gets that far, an `LTRIM`. Redis keeps the bytes of an entry; what `LRANGE` hands out
for it depends on the client. -/

namespace IrisService.Customers
open Runs

/-- What `LRANGE` hands out for an entry: a `str` from a client with `decode_responses`, else `bytes`. -/
inductive Item where
  | bytes (b : ByteArray)
  | str (s : String)

/-- An exception while an entry is read. -/
inductive EntryError where
  | jsonDecodeError
  | unicodeDecodeError
  | validationError
  | valueError
  /-- One that is no `ValueError`, by its class: a `RecursionError` of `json.loads`, say. -/
  | other (cls : String)
  deriving DecidableEq

/-- It is among the `_DECODE_ERRORS`: `json.JSONDecodeError`, pydantic's `ValidationError` and `UnicodeDecodeError` are
    `ValueError`s. -/
def EntryError.isDecodeError : EntryError → Bool
  | .jsonDecodeError | .unicodeDecodeError | .validationError | .valueError => true
  | .other _ => false

/-- `json.loads`, and pydantic's reading and writing of a `CustomerResponse`. -/
structure EntryFormat where
  Value : Type
  loads : String → Except EntryError Value
  modelValidate : Value → Except EntryError CustomerResponse
  modelDumpJson : CustomerResponse → String

/-! ### Lists of Redis, newest entry first -/

section Redis
variable {α : Type}

/-- `LPUSH` -/
def lpush (l : List α) (entry : α) : List α := entry :: l

/-- `LRANGE`, for indices that are not negative -/
def lrange (l : List α) (start stop : Nat) : List α := (l.take (stop + 1)).drop start

/-- `LTRIM`, for indices that are not negative -/
def ltrim (l : List α) (start stop : Nat) : List α := lrange l start stop

@[simp] theorem lrange_zero (l : List α) (stop : Nat) : lrange l 0 stop = l.take (stop + 1) := rfl

@[simp] theorem ltrim_zero (l : List α) (stop : Nat) : ltrim l 0 stop = l.take (stop + 1) := rfl

end Redis

/-- `bytes.decode("utf-8")` -/
def utf8 (b : ByteArray) : Except EntryError String :=
  match String.fromUTF8? b with
  | none => .error .unicodeDecodeError
  | some payload => .ok payload

theorem fromUTF8?_toUTF8 (payload : String) : String.fromUTF8? payload.toUTF8 = some payload :=
  dif_pos payload.isValidUTF8

theorem utf8_toUTF8 (payload : String) : utf8 payload.toUTF8 = .ok payload := by rw [utf8, fromUTF8?_toUTF8]

/-- A client of Redis, with the option of its that bears on replies. -/
structure RedisClient where
  decodeResponses : Bool

/-- The client of `integration/redis_client.py`, the only one there is. -/
def getRedis : RedisClient where
  decodeResponses := true

namespace RedisClient
variable (redis : RedisClient)

/-- An entry in a reply; with `decode_responses` the client decodes it, strictly. -/
def reply (entry : ByteArray) : Except EntryError Item :=
  if redis.decodeResponses then (utf8 entry).map .str else .ok (.bytes entry)

/-- `redis.lrange`: a reply that cannot be decoded raises in the call. -/
def lrange (l : List ByteArray) (start stop : Nat) : Except EntryError (List Item) :=
  (Customers.lrange l start stop).mapM redis.reply

end RedisClient

namespace EntryFormat
variable (format : EntryFormat) (redis : RedisClient)

/-- The body of the `try`. -/
def decode (item : Item) : Except EntryError CustomerResponse := do
  let payload ← match item with
    | .bytes b => utf8 b
    | .str s => .ok s
  let value ← format.loads payload
  format.modelValidate value

/-- The loop of `get_recent` over what `LRANGE` gave: `except _DECODE_ERRORS` goes on to the next item, any other
    exception leaves the loop. -/
def decodeAll : List Item → Except EntryError (List CustomerResponse)
  | [] => .ok []
  | item :: raw => match format.decode item with
    | .ok customer => (decodeAll raw).map (customer :: ·)
    | .error exc => if exc.isDecodeError then decodeAll raw else .error exc

/-- `LRANGE` stands before the loop, outside its `try`. -/
def getRecent (l : List ByteArray) : Except EntryError (List CustomerResponse) := do
  let raw ← redis.lrange l 0 (maxSize - 1)
  format.decodeAll raw

/-! ### Reading one entry -/

/-- What an entry says; it is well formed if this is a customer. -/
def read (entry : ByteArray) : Except EntryError CustomerResponse := format.decode (.bytes entry)

/-- `get_recent` gets past an entry: the client can hand it out, and nothing but a decode error is raised on it. -/
def Harmless (entry : ByteArray) : Prop :=
  (redis.decodeResponses = true → String.fromUTF8? entry ≠ none) ∧
    ∀ exc, format.read entry = .error exc → exc.isDecodeError = true

variable {format redis} {entry : ByteArray} {entries : List ByteArray} {item : Item} {raw : List Item}
  {customers : List CustomerResponse}

/-- An entry that the client hands out says the same as a `str` and as `bytes`. -/
theorem decode_reply (h : redis.reply entry = .ok item) : format.decode item = format.read entry := by
  unfold RedisClient.reply at h
  split at h
  · cases hutf8 : utf8 entry with
    | error exc =>
      rw [hutf8] at h
      cases h
    | ok payload =>
      rw [hutf8] at h
      cases h
      simp only [read, decode, hutf8]
  · cases h
    rfl

theorem reply_iff : (∃ item, redis.reply entry = .ok item) ↔
    (redis.decodeResponses = true → String.fromUTF8? entry ≠ none) := by
  unfold RedisClient.reply utf8
  cases redis.decodeResponses with
  | false => simp
  | true => cases String.fromUTF8? entry <;> simp [Except.map]

/-! ### Reading the list -/

theorem mapM_reply_iff :
    entries.mapM redis.reply = .ok raw ↔ List.Forall₂ (fun e i => redis.reply e = .ok i) entries raw := by
  induction entries generalizing raw with
  | nil => cases raw <;> simp [pure, Except.pure]
  | cons e entries ih =>
    rw [List.mapM_cons]
    cases he : redis.reply e with
    | error exc => cases raw <;> simp [bind, Except.bind, he]
    | ok i =>
      cases htail : entries.mapM redis.reply with
      | error exc => cases raw <;> simp [bind, Except.bind, he, ← ih, htail]
      | ok items => cases raw <;> simp [bind, Except.bind, pure, Except.pure, he, ← ih, htail]

theorem forall₂_reply_iff : (∃ raw, List.Forall₂ (fun e i => redis.reply e = .ok i) entries raw) ↔
    ∀ e ∈ entries, ∃ i, redis.reply e = .ok i := by
  induction entries with
  | nil => exact iff_of_true ⟨[], .nil⟩ fun e he => absurd he List.not_mem_nil
  | cons e entries ih =>
    rw [List.forall_mem_cons, ← ih]
    constructor
    · rintro ⟨raw, h⟩
      cases h with
      | cons he htail => exact ⟨⟨_, he⟩, ⟨_, htail⟩⟩
    · rintro ⟨⟨i, he⟩, raw, htail⟩
      exact ⟨i :: raw, .cons he htail⟩

/-- The `except` catches whatever is raised on the item. -/
def Skipped (format : EntryFormat) (item : Item) : Prop :=
  ∀ exc, format.decode item = .error exc → exc.isDecodeError = true

theorem decodeAll_of_skipped (h : ∀ i ∈ raw, format.Skipped i) :
    format.decodeAll raw = .ok (raw.filterMap fun i => (format.decode i).toOption) := by
  induction raw with
  | nil => rfl
  | cons i raw ih =>
    obtain ⟨hi, hraw⟩ := List.forall_mem_cons.mp h
    cases hdecode : format.decode i with
    | ok customer => simp [decodeAll, hdecode, ih hraw, Except.map, Except.toOption]
    | error exc => simp [decodeAll, hdecode, hi exc hdecode, ih hraw, Except.toOption]

/-- An exception that passes the `except` is what `get_recent` raises. -/
theorem decodeAll_of_not_skipped (h : ¬∀ i ∈ raw, format.Skipped i) :
    ∃ exc, format.decodeAll raw = .error exc ∧ exc.isDecodeError = false := by
  induction raw with
  | nil => exact absurd (fun i hi => absurd hi List.not_mem_nil) h
  | cons i raw ih =>
    rw [List.forall_mem_cons, not_and_or] at h
    cases hdecode : format.decode i with
    | ok customer =>
      have hi : format.Skipped i := by simp [Skipped, hdecode]
      obtain ⟨exc, hexc, hnot⟩ := ih (h.resolve_left (not_not_intro hi))
      exact ⟨exc, by simp [decodeAll, hdecode, hexc, Except.map], hnot⟩
    | error exc =>
      cases hexc : exc.isDecodeError with
      | false => exact ⟨exc, by simp [decodeAll, hdecode, hexc], hexc⟩
      | true =>
        have hi : format.Skipped i := by simp [Skipped, hdecode, hexc]
        obtain ⟨exc', hexc', hnot⟩ := ih (h.resolve_left (not_not_intro hi))
        exact ⟨exc', by simp [decodeAll, hdecode, hexc, hexc'], hnot⟩

/-- The customers of a list of entries, as the client should be told them. -/
def wellFormed (format : EntryFormat) (entries : List ByteArray) : List CustomerResponse :=
  entries.filterMap fun entry => (format.read entry).toOption

theorem wellFormed_of_replies (h : List.Forall₂ (fun e i => redis.reply e = .ok i) entries raw) :
    (raw.filterMap fun i => (format.decode i).toOption) = format.wellFormed entries := by
  induction h with
  | nil => rfl
  | cons he _ ih => simp only [wellFormed, List.filterMap_cons, decode_reply he] at ih ⊢; rw [ih]

theorem skipped_of_replies (h : List.Forall₂ (fun e i => redis.reply e = .ok i) entries raw) :
    (∀ i ∈ raw, format.Skipped i) ↔ ∀ e ∈ entries, ∀ exc, format.read e = .error exc → exc.isDecodeError = true := by
  induction h with
  | nil => exact iff_of_true (fun i hi => absurd hi List.not_mem_nil) fun e he => absurd he List.not_mem_nil
  | cons he _ ih => rw [List.forall_mem_cons, List.forall_mem_cons, ih, Skipped, decode_reply he]

/-- `get_recent` tells the well-formed ones of the ten newest entries, and no exception leaves it, exactly when each of
    the ten is harmless. -/
theorem getRecent_iff : format.getRecent redis entries = .ok (format.wellFormed (entries.take maxSize)) ↔
    ∀ e ∈ entries.take maxSize, format.Harmless redis e := by
  have hget : format.getRecent redis entries = ((entries.take maxSize).mapM redis.reply).bind format.decodeAll := rfl
  have hharmless : (∀ e ∈ entries.take maxSize, format.Harmless redis e) ↔
      (∃ raw, (entries.take maxSize).mapM redis.reply = .ok raw) ∧
        ∀ e ∈ entries.take maxSize, ∀ exc, format.read e = .error exc → exc.isDecodeError = true := by
    simp only [mapM_reply_iff, forall₂_reply_iff, reply_iff, Harmless]
    exact ⟨fun h => ⟨fun e he => (h e he).1, fun e he => (h e he).2⟩, fun h e he => ⟨h.1 e he, h.2 e he⟩⟩
  rw [hget, hharmless]
  cases hraw : (entries.take maxSize).mapM redis.reply with
  | error exc => exact iff_of_false nofun fun h => h.1.elim nofun
  | ok raw =>
    have hreplies := mapM_reply_iff.mp hraw
    show format.decodeAll raw = _ ↔ _
    rw [← skipped_of_replies hreplies, ← wellFormed_of_replies hreplies]
    constructor
    · intro hall
      refine ⟨⟨raw, rfl⟩, ?_⟩
      by_contra hnot
      obtain ⟨exc, hexc, -⟩ := decodeAll_of_not_skipped hnot
      rw [hexc] at hall
      cases hall
    · exact fun h => decodeAll_of_skipped h.2

theorem getRecent_of_replies (h : List.Forall₂ (fun e i => redis.reply e = .ok i) (entries.take maxSize) raw) :
    format.getRecent redis entries = format.decodeAll raw := by
  have hraw := mapM_reply_iff.mpr h
  show ((entries.take maxSize).mapM redis.reply).bind format.decodeAll = _
  rw [hraw]
  rfl

/-- The call of `LRANGE` raises on an entry that the client of `get_redis` cannot decode. -/
theorem getRecent_invalid (h : String.fromUTF8? entry = none) (entries : List ByteArray) :
    format.getRecent getRedis (entry :: entries) = .error .unicodeDecodeError := by
  have hreply : getRedis.reply entry = .error .unicodeDecodeError := by
    simp only [RedisClient.reply, getRedis, if_true, utf8, h]
    rfl
  show (((entry :: entries).take maxSize).mapM getRedis.reply).bind format.decodeAll = _
  rw [maxSize, List.take_succ_cons, List.mapM_cons, hreply]
  rfl

theorem reply_toUTF8 (payload : String) : getRedis.reply payload.toUTF8 = .ok (.str payload) := by
  simp only [RedisClient.reply, getRedis, if_true, utf8_toUTF8]
  rfl

/-! ### The compact format -/

/-- The entries in the compact JSON that `model_dump_json` writes. More than `maxDepth` brackets before anything
    else are a `RecursionError` of `json.loads`. -/
def compact (maxDepth : Nat) : EntryFormat where
  Value := List (String × JsonText.Value)
  loads payload :=
    if maxDepth < (payload.toList.takeWhile (· = '[')).length then .error (.other "RecursionError")
    else match JsonText.read payload with
      | none => .error .jsonDecodeError
      | some value => .ok value
  modelValidate value := match value.lookup "id", value.lookup "name", value.lookup "email" with
    | some (.num id), some (.str name), some (.str email) => .ok ⟨id.toNat, name, email⟩
    | _, _, _ => .error .validationError
  modelDumpJson customer :=
    JsonText.write [("id", .num customer.id), ("name", .str customer.name), ("email", .str customer.email)]

theorem read_toUTF8 (payload : String) : format.read payload.toUTF8 = format.decode (.str payload) := by
  simp only [read, decode, utf8_toUTF8]

theorem read_compact (maxDepth : Nat) (customer : CustomerResponse) :
    (compact maxDepth).read ((compact maxDepth).modelDumpJson customer).toUTF8 = .ok customer := by
  rw [read_toUTF8]
  have hobject : (((compact maxDepth).modelDumpJson customer).toList.takeWhile (· = '[')).length = 0 := by
    simp [compact, JsonText.write]
  simp only [decode, compact, bind, Except.bind] at hobject ⊢
  rw [hobject, if_neg (Nat.not_lt_zero _), JsonText.read_write]
  rfl

/-- The entries of `add` are harmless. -/
theorem harmless_modelDumpJson (maxDepth : Nat) (redis : RedisClient) (customer : CustomerResponse) :
    (compact maxDepth).Harmless redis ((compact maxDepth).modelDumpJson customer).toUTF8 := by
  refine ⟨fun _ => ?_, fun exc hexc => ?_⟩
  · rw [fromUTF8?_toUTF8]
    nofun
  · rw [read_compact] at hexc
    cases hexc

/-- A text of brackets alone -/
def brackets (depth : Nat) : String := String.ofList (List.replicate depth '[')

theorem decode_brackets {maxDepth depth : Nat} (h : maxDepth < depth) :
    (compact maxDepth).decode (.str (brackets depth)) = .error (.other "RecursionError") := by
  have hlength : ((List.replicate depth '[').takeWhile (· = '[')).length = depth := by simp
  simp only [decode, compact, brackets, bind, Except.bind, String.toList_ofList, hlength, if_pos h]

theorem getRecent_brackets {maxDepth depth : Nat} (h : maxDepth < depth) (payload : String) :
    (compact maxDepth).getRecent getRedis [(brackets depth).toUTF8, payload.toUTF8] =
      .error (.other "RecursionError") := by
  have hreplies : List.Forall₂ (fun e i => getRedis.reply e = .ok i)
      ([(brackets depth).toUTF8, payload.toUTF8].take maxSize) [.str (brackets depth), .str payload] :=
    .cons (reply_toUTF8 _) (.cons (reply_toUTF8 _) .nil)
  rw [getRecent_of_replies hreplies, decodeAll, decode_brackets h]
  rfl

end EntryFormat

/-- How far an `add` has come. -/
inductive Add where
  | called
  | pushed
  | trimmed
  /-- Its process died, or Redis failed it; `pushed` says whether its `LPUSH` had been done. -/
  | stopped (pushed : Bool)
  deriving DecidableEq

/-- It has pushed and not trimmed. -/
def Add.untrimmed : Add → Bool
  | .pushed | .stopped true => true
  | _ => false

/-- The list, the `add`s on it, and every entry there has been, newest first. -/
structure Buffer (n : Nat) where
  recent : List ByteArray
  add : Fin n → Add
  history : List ByteArray

/-- One of the two steps of an `add`, or its end before them. -/
inductive AddEvent (n : Nat) where
  | lpush (i : Fin n)
  | ltrim (i : Fin n)
  | stop (i : Fin n)

namespace Buffer
variable {n : Nat} (format : EntryFormat) (customers : Fin n → CustomerResponse)

/-- The entry that `add` pushes; the client encodes the `str`. -/
def entry (i : Fin n) : ByteArray := (format.modelDumpJson (customers i)).toUTF8

/-- The buffer with one `add` further. -/
def setAdd (b : Buffer n) (i : Fin n) (state : Add) : Buffer n := { b with add := Function.update b.add i state }

/-- An event takes effect where its `add` has come to it. -/
def step (b : Buffer n) : AddEvent n → Buffer n
  | .lpush i => match b.add i with
    | .called =>
      { b.setAdd i .pushed with
        recent := Customers.lpush b.recent (entry format customers i)
        history := entry format customers i :: b.history }
    | _ => b
  | .ltrim i => match b.add i with
    | .pushed => { b.setAdd i .trimmed with recent := Customers.ltrim b.recent 0 (maxSize - 1) }
    | _ => b
  | .stop i => match b.add i with
    | .called => b.setAdd i (.stopped false)
    | .pushed => b.setAdd i (.stopped true)
    | _ => b

/-- The `add`s are called on a list that is there already. -/
def start (n : Nat) (initial : List ByteArray) : Buffer n := ⟨initial, fun _ => .called, initial⟩

/-- The `add`s that have pushed and not trimmed. -/
def pending (b : Buffer n) : Finset (Fin n) := Finset.univ.filter fun i => (b.add i).untrimmed

/-! ### Steps -/

variable {format : EntryFormat} {customers : Fin n → CustomerResponse} {b : Buffer n} {i : Fin n}

@[simp] theorem setAdd_recent (state : Add) : (b.setAdd i state).recent = b.recent := rfl

@[simp] theorem setAdd_history (state : Add) : (b.setAdd i state).history = b.history := rfl

@[simp] theorem mem_pending : i ∈ b.pending ↔ (b.add i).untrimmed = true := by
  rw [pending, Finset.mem_filter]
  exact and_iff_right (Finset.mem_univ i)

theorem pending_setAdd_of_eq {state : Add} (h : (b.add i).untrimmed = state.untrimmed) :
    (b.setAdd i state).pending = b.pending := by
  ext j
  by_cases hj : j = i
  · subst hj
    simp [setAdd, h]
  · simp [setAdd, hj]

theorem pending_push (h : b.add i = .called) : (b.setAdd i .pushed).pending = insert i b.pending := by
  ext j
  by_cases hj : j = i
  · subst hj
    simp [setAdd, Add.untrimmed]
  · simp [setAdd, hj]

/-- The list is the newest part of what there has been, ten entries at least, and the pushes not yet trimmed
    account for those beyond. -/
structure Newest (b : Buffer n) : Prop where
  isPrefix : b.recent <+: b.history
  window : b.recent.take maxSize = b.history.take maxSize
  length : b.recent.length ≤ maxSize + b.pending.card

theorem newest_start {initial : List ByteArray} (h : initial.length ≤ maxSize) : Newest (start n initial) where
  isPrefix := List.prefix_rfl
  window := rfl
  length := Nat.le_add_right_of_le h

theorem newest_lpush (h : Newest b) (hi : b.add i = .called) : Newest (step format customers b (.lpush i)) := by
  simp only [step, hi]
  constructor
  · exact List.prefix_cons_inj _ |>.mpr h.isPrefix
  · show (entry format customers i :: b.recent).take maxSize = (entry format customers i :: b.history).take maxSize
    have htail := congrArg (List.take 9) h.window
    simp only [maxSize, List.take_take] at htail
    simpa [maxSize] using htail
  · show b.recent.length + 1 ≤ maxSize + (b.setAdd i .pushed).pending.card
    have hnew : i ∉ b.pending := by simp [hi, Add.untrimmed]
    rw [pending_push hi, Finset.card_insert_of_notMem hnew]
    have hlength := h.length
    omega

theorem newest_ltrim (h : Newest b) (hi : b.add i = .pushed) : Newest (step format customers b (.ltrim i)) := by
  simp only [step, hi]
  constructor
  · exact (List.take_prefix _ _).trans h.isPrefix
  · show (b.recent.take maxSize).take maxSize = b.history.take maxSize
    rw [List.take_take, Nat.min_self]
    exact h.window
  · exact Nat.le_add_right_of_le (List.length_take_le _ _)

theorem newest_setAdd {state : Add} (h : Newest b) (hi : (b.add i).untrimmed = state.untrimmed) :
    Newest (b.setAdd i state) where
  isPrefix := h.isPrefix
  window := h.window
  length := by
    rw [pending_setAdd_of_eq hi]
    exact h.length

theorem newest_step (h : Newest b) (e : AddEvent n) : Newest (step format customers b e) := by
  cases e with
  | lpush i =>
    cases hi : b.add i with
    | called => exact newest_lpush h hi
    | pushed | trimmed | stopped pushed => simpa only [step, hi] using h
  | ltrim i =>
    cases hi : b.add i with
    | pushed => exact newest_ltrim h hi
    | called | trimmed | stopped pushed => simpa only [step, hi] using h
  | stop i =>
    cases hi : b.add i with
    | called | pushed =>
      simp only [step, hi]
      exact newest_setAdd h (by rw [hi]; rfl)
    | trimmed | stopped pushed => simpa only [step, hi] using h

theorem newest_run {initial : List ByteArray} (h : initial.length ≤ maxSize) (es : List (AddEvent n)) :
    Newest (run (step format customers) (start n initial) es) := by
  have hmeets : Meets (step format customers) (fun _ _ => True) (start n initial) es := meets_true _ _
  exact hmeets.run (P := Newest) (newest_start h) fun _ e hb _ => newest_step hb e

/-! ### Reading -/

/-- `get_recent` returns the well-formed ones of the ten newest entries there have been, newest first. -/
def TellsNewest (format : EntryFormat) (redis : RedisClient) (b : Buffer n) : Prop :=
  format.getRecent redis b.recent = .ok (format.wellFormed (b.history.take maxSize))

/-- At every moment of every run the reader sees the well-formed ones of the ten newest entries exactly if each of the
    ten is harmless; an `LTRIM` by any `add` would leave these ten, and the list is as long as the pending trims allow
    at most. -/
theorem recent_of_run (format : EntryFormat) (redis : RedisClient) {n : Nat} (customers : Fin n → CustomerResponse)
    {initial : List ByteArray} (h : initial.length ≤ maxSize) (es : List (AddEvent n)) :
    let b := run (step format customers) (start n initial) es
    (TellsNewest format redis b ↔ ∀ entry ∈ b.history.take maxSize, format.Harmless redis entry) ∧
      (∀ i, b.history.take maxSize <+: (step format customers b (.ltrim i)).recent) ∧
      b.recent.length ≤ maxSize + b.pending.card := by
  intro b
  have hb : Newest b := newest_run h es
  refine ⟨?_, fun i => ?_, hb.length⟩
  · rw [TellsNewest, ← hb.window]
    exact EntryFormat.getRecent_iff
  · have hnext : Newest (step format customers b (.ltrim i)) := newest_step hb (.ltrim i)
    have hhistory : (step format customers b (.ltrim i)).history = b.history := by
      simp only [step]
      split <;> rfl
    rw [← hhistory, ← hnext.window]
    exact List.take_prefix _ _

def ada : CustomerResponse := ⟨1, "ada", "ada@x.io"⟩

def bob : CustomerResponse := ⟨2, "bob", "bob@x.io"⟩

def adaThenBob : Fin 2 → CustomerResponse
  | 0 => ada
  | 1 => bob

/-- An entry that is text, and no JSON -/
theorem read_unclosed : (EntryFormat.compact 1000).read "[".toUTF8 = .error .jsonDecodeError := by
  rw [EntryFormat.read_toUTF8]
  rfl

theorem harmless_unclosed (redis : RedisClient) : (EntryFormat.compact 1000).Harmless redis "[".toUTF8 := by
  refine ⟨fun _ => ?_, fun exc hexc => ?_⟩
  · rw [fromUTF8?_toUTF8]
    nofun
  · cases read_unclosed.symm.trans hexc
    rfl

/-- Two `add`s have pushed and the first of them trims; the list held an entry that is no JSON. -/
theorem recent_of_run_two :
    let b := run (step (.compact 1000) adaThenBob) (start 2 ["[".toUTF8]) [.lpush 0, .lpush 1, .ltrim 0]
    (EntryFormat.compact 1000).getRecent getRedis b.recent = .ok [bob, ada] ∧
      b.recent.length ≤ maxSize + b.pending.card := by
  intro b
  have hfits : ["[".toUTF8].length ≤ maxSize := by decide
  obtain ⟨hrecent, -, hlength⟩ :=
    recent_of_run (.compact 1000) getRedis adaThenBob hfits [.lpush 0, .lpush 1, .ltrim 0]
  have hhistory : b.history.take maxSize =
      [entry (.compact 1000) adaThenBob 1, entry (.compact 1000) adaThenBob 0, "[".toUTF8] := rfl
  have hharmless : ∀ e ∈ b.history.take maxSize, (EntryFormat.compact 1000).Harmless getRedis e := by
    rw [hhistory]
    simp only [List.forall_mem_cons]
    exact ⟨EntryFormat.harmless_modelDumpJson .., EntryFormat.harmless_modelDumpJson .., harmless_unclosed _, nofun⟩
  refine ⟨(hrecent.mpr hharmless).trans ?_, hlength⟩
  rw [hhistory]
  simp only [EntryFormat.wellFormed, entry, List.filterMap_cons, EntryFormat.read_compact, read_unclosed, Except.toOption,
    List.filterMap_nil]
  rfl

/-- An entry of brackets nested too deep, or one that is not UTF-8, is raised on, and a customer in the list with it is
    not told. -/
theorem entry_hides_others :
    let customer := ((EntryFormat.compact 1000).modelDumpJson ada).toUTF8
    let nested := [(EntryFormat.brackets 200000).toUTF8, customer]
    let invalid := [⟨#[0xFF]⟩, customer]
    (EntryFormat.compact 1000).getRecent getRedis nested = .error (.other "RecursionError") ∧
      ¬TellsNewest (.compact 1000) getRedis (start 0 nested) ∧
      (EntryFormat.compact 1000).getRecent getRedis invalid = .error .unicodeDecodeError ∧
      ¬TellsNewest (.compact 1000) getRedis (start 0 invalid) := by
  intro customer nested invalid
  have hnested : (EntryFormat.compact 1000).getRecent getRedis nested = .error (.other "RecursionError") :=
    EntryFormat.getRecent_brackets (by omega) _
  have hinvalid : (EntryFormat.compact 1000).getRecent getRedis invalid = .error .unicodeDecodeError := by
    refine EntryFormat.getRecent_invalid ?_ _
    rw [String.fromUTF8?, dif_neg]
    rw [← ByteArray.validateUTF8_eq_false_iff]
    decide +kernel
  refine ⟨hnested, fun htold => ?_, hinvalid, fun htold => ?_⟩
  · have hok : (EntryFormat.compact 1000).getRecent getRedis nested = .ok _ := htold
    rw [hnested] at hok
    exact absurd hok (by simp only [reduceCtorEq, not_false_eq_true])
  · have hok : (EntryFormat.compact 1000).getRecent getRedis invalid = .ok _ := htold
    rw [hinvalid] at hok
    exact absurd hok (by simp only [reduceCtorEq, not_false_eq_true])

end Buffer
end IrisService.Customers
