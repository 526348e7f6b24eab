import Mathlib.Data.List.Infix
import IrisService.Python.Dict

/-! `build_env_snapshot` of `mcp/actuator.py`: the settings dump flattened to dotted keys and redacted, and what
of a dump its snapshot depends on. -/

namespace IrisService.Mcp.Actuator

/-! ### Keys -/

/-- The words of `SECRET_KEY_PATTERN`. -/
def secretWords : List (List Char) := ["password", "secret", "token", "key", "credential"].map String.toList

/-- `c` is the letter `w` in some letter case, as `(?i)` has it: 'ſ' is an 's', the Kelvin sign a 'k', and the two
    Turkish letters are an 'i'. -/
def sameLetter (w c : Char) : Bool :=
  c = w || c = w.toUpper || (w = 's' && c = '\u017f') || (w = 'k' && c = '\u212a') ||
    (w = 'i' && (c = '\u0130' || c = '\u0131'))

/-- The text begins with the word, in any case. -/
def startsWithWord : List Char → List Char → Bool
  | [], _ => true
  | _ :: _, [] => false
  | w :: word, c :: cs => sameLetter w c && startsWithWord word cs

/-- One of the words begins here. -/
def secretWordAt (cs : List Char) : Bool := secretWords.any (startsWithWord · cs)

/-- `SECRET_KEY_PATTERN.match`: the first `.*` takes any characters but a line break, the last one may take none. -/
def matchSecretKeyPattern : List Char → Bool
  | [] => secretWordAt []
  | c :: cs => secretWordAt (c :: cs) || (c ≠ '\n' && matchSecretKeyPattern cs)

/-- `SECRET_KEY_PATTERN.match(key)` -/
def isSecretKey (key : String) : Bool := matchSecretKeyPattern key.toList

/-! ### Values -/

/-- What `model_dump` returns below its top level. -/
inductive Value (σ : Type) where
  | scalar (s : σ)
  | list (items : List (Value σ))
  | tuple (items : List (Value σ))
  | dict (entries : List (String × Value σ))

/-- The values of a dump that hold no others, with their `str` and `repr`. -/
structure Scalars where
  Scalar : Type
  str : Scalar → String
  repr : Scalar → String
  keyRepr : String → String

namespace Scalars
variable (scalars : Scalars)

mutual

/-- `repr(value)` -/
def reprValue : Value scalars.Scalar → String
  | .scalar s => scalars.repr s
  | .list items => "[" ++ ", ".intercalate (reprItems items) ++ "]"
  | .tuple [item] => "(" ++ reprValue item ++ ",)"
  | .tuple items => "(" ++ ", ".intercalate (reprItems items) ++ ")"
  | .dict entries => "\x7b" ++ ", ".intercalate (reprEntries entries) ++ "\x7d"

/-- `repr` of the items of a list or tuple. -/
def reprItems : List (Value scalars.Scalar) → List String
  | [] => []
  | item :: items => reprValue item :: reprItems items

/-- `repr` of the entries of a dictionary. -/
def reprEntries : List (String × Value scalars.Scalar) → List String
  | [] => []
  | (key, value) :: entries => (scalars.keyRepr key ++ ": " ++ reprValue value) :: reprEntries entries

end

/-- `str(value)`: the text of a scalar, the `repr` of anything else. -/
def strValue : Value scalars.Scalar → String
  | .scalar s => scalars.str s
  | value => scalars.reprValue value

/-- `REDACTED_VALUE` -/
def redactedValue : String := "***REDACTED***"

/-- `redact_value` -/
def redactValue (key : String) (value : Value scalars.Scalar) : String :=
  if isSecretKey key then redactedValue else scalars.strValue value

mutual

/-- `_flatten_into`: a dictionary is gone into, a list is shown as one text. -/
def flattenInto (out : Dict String String) (key : String) : Value scalars.Scalar → Dict String String
  | .dict entries => flattenEntries out key entries
  | .scalar s => out.set key (scalars.redactValue key (.scalar s))
  | .list items => out.set key (scalars.redactValue key (.list items))
  | .tuple items => out.set key (scalars.redactValue key (.tuple items))

/-- The loop of `_flatten_into` over a dictionary. -/
def flattenEntries (out : Dict String String) (key : String) : List (String × Value scalars.Scalar) → Dict String String
  | [] => out
  | (subKey, value) :: entries => flattenEntries (flattenInto out (key ++ "." ++ subKey) value) key entries

end

/-- The flattened settings. -/
structure EnvSnapshot where
  properties : Dict String String
  deriving DecidableEq

/-- The loop of `build_env_snapshot` over the top level. -/
def flatten (out : Dict String String) : List (String × Value scalars.Scalar) → Dict String String
  | [] => out
  | (topKey, topValue) :: dump => flatten (scalars.flattenInto out topKey topValue) dump

/-- `dump` is what `settings.model_dump()` returns. -/
def buildEnvSnapshot (dump : List (String × Value scalars.Scalar)) (start : Option String) : EnvSnapshot :=
  let flat := scalars.flatten [] dump
  match start with
  | none => ⟨flat⟩
  | some start => if start = "" then ⟨flat⟩ else ⟨flat.filter fun e => start.toList.isPrefixOf e.1.toList⟩

end Scalars

/-! ### Dumps of the same shape -/

/-- One step from a value to one inside it. -/
inductive Step where
  | key (k : String)
  | item

section Agree
variable {σ : Type} (hidden : List Step → Bool)

mutual

/-- The values have the same shape, and the same scalars but where the path to the scalar is hidden. -/
def AgreeOutside (path : List Step) : Value σ → Value σ → Prop
  | .scalar s, .scalar s' => hidden path = false → s = s'
  | .list items, .list items' => AgreeItems (path ++ [.item]) items items'
  | .tuple items, .tuple items' => AgreeItems (path ++ [.item]) items items'
  | .dict entries, .dict entries' => AgreeEntries path entries entries'
  | _, _ => False

/-- Items that agree one by one. -/
def AgreeItems (path : List Step) : List (Value σ) → List (Value σ) → Prop
  | [], [] => True
  | item :: items, item' :: items' => AgreeOutside path item item' ∧ AgreeItems path items items'
  | _, _ => False

/-- Entries with the same keys whose values agree. -/
def AgreeEntries (path : List Step) : List (String × Value σ) → List (String × Value σ) → Prop
  | [], [] => True
  | (key, value) :: entries, (key', value') :: entries' =>
    key = key' ∧ AgreeOutside (path ++ [.key key]) value value' ∧ AgreeEntries path entries entries'
  | _, _ => False

end

end Agree

/-- The key contains one of the five words, in any letter case. -/
def hasSecretWord (key : List Char) : Bool := key.tails.any secretWordAt

/-- The path goes through a key that contains one of the words. -/
def throughSecretKey (path : List Step) : Bool :=
  path.any fun step => match step with
    | .key k => hasSecretWord k.toList
    | .item => false

/-- What `.` of a pattern sees of a key. -/
def firstLine (key : String) : List Char := key.toList.takeWhile (· ≠ '\n')

/-- The key has no line break. -/
def oneLine (key : String) : Bool := key.toList.all (· ≠ '\n')

/-- A key contains one of the words, and up to there no key has a line break. -/
def wordBeforeBreak : List String → Bool
  | [] => false
  | k :: keys => hasSecretWord (firstLine k) || (oneLine k && wordBeforeBreak keys)

/-- The keys on the path down to the first list or tuple. -/
def dictKeys : List Step → List String
  | .key k :: path => k :: dictKeys path
  | _ => []

/-- The path goes through a secret key before any list or tuple, and before any line break in a key. -/
def throughRedactedKey (path : List Step) : Bool := wordBeforeBreak (dictKeys path)

/-! ### Secret keys -/

theorem startsWithWord_append_dot {word : List Char} (hword : ∀ w ∈ word, sameLetter w '.' = false) (a b : List Char) :
    startsWithWord word (a ++ '.' :: b) = startsWithWord word a := by
  induction word generalizing a with
  | nil => rfl
  | cons w word ih =>
    cases a with
    | nil => simp [startsWithWord, hword w List.mem_cons_self]
    | cons c a => simp [startsWithWord, ih (fun w' hw' => hword w' (List.mem_cons_of_mem w hw'))]

theorem startsWithWord_takeWhile {word : List Char} (hword : ∀ w ∈ word, sameLetter w '\n' = false) (a : List Char) :
    startsWithWord word (a.takeWhile (· ≠ '\n')) = startsWithWord word a := by
  induction word generalizing a with
  | nil => rfl
  | cons w word ih =>
    cases a with
    | nil => rfl
    | cons c a =>
      by_cases hc : c = '\n'
      · subst hc
        simp [startsWithWord, hword w List.mem_cons_self]
      · have htail := ih (fun w' hw' => hword w' (List.mem_cons_of_mem w hw')) a
        simp only [ne_eq, decide_not] at htail
        simp [startsWithWord, hc, htail]

theorem secretWords_letters : ∀ word ∈ secretWords, ∀ w ∈ word, sameLetter w '.' = false ∧ sameLetter w '\n' = false := by
  have hall : (secretWords.all fun word => word.all fun w => !sameLetter w '.' && !sameLetter w '\n') = true := rfl
  intro word hword w hw
  have hletter := List.all_eq_true.mp (List.all_eq_true.mp hall word hword) w hw
  rwa [Bool.and_eq_true, Bool.not_eq_true', Bool.not_eq_true'] at hletter

theorem secretWordAt_congr {a b : List Char} (h : ∀ word ∈ secretWords, startsWithWord word a = startsWithWord word b) :
    secretWordAt a = secretWordAt b := by
  rw [secretWordAt, secretWordAt, Bool.eq_iff_iff, List.any_eq_true, List.any_eq_true]
  exact exists_congr fun word => and_congr_right fun hword => by rw [h word hword]

theorem secretWordAt_append_dot (a b : List Char) : secretWordAt (a ++ '.' :: b) = secretWordAt a :=
  secretWordAt_congr fun word hword => startsWithWord_append_dot (fun w hw => (secretWords_letters word hword w hw).1) a b

theorem secretWordAt_takeWhile (a : List Char) : secretWordAt (a.takeWhile (· ≠ '\n')) = secretWordAt a :=
  secretWordAt_congr fun word hword => startsWithWord_takeWhile (fun w hw => (secretWords_letters word hword w hw).2) a

theorem hasSecretWord_cons (c : Char) (cs : List Char) :
    hasSecretWord (c :: cs) = (secretWordAt (c :: cs) || hasSecretWord cs) := by
  simp [hasSecretWord]

/-- The pattern finds the words of the first line. -/
theorem matchSecretKeyPattern_eq (cs : List Char) :
    matchSecretKeyPattern cs = hasSecretWord (cs.takeWhile (· ≠ '\n')) := by
  induction cs with
  | nil => rfl
  | cons c cs ih =>
    have hhead := secretWordAt_takeWhile (c :: cs)
    by_cases hc : c = '\n'
    · subst hc
      rw [matchSecretKeyPattern, ← hhead]
      rfl
    · rw [List.takeWhile_cons_of_pos (by simpa using hc)] at hhead ⊢
      rw [matchSecretKeyPattern, hasSecretWord_cons, hhead, ih]
      simp [hc]

/-- A word after a line break is not found. -/
example : isSecretKey "note\npassword" = false := by decide

theorem isSecretKey_eq (key : String) :
    isSecretKey key = hasSecretWord (firstLine key) := matchSecretKeyPattern_eq key.toList

theorem matchSecretKeyPattern_dot (a b : List Char) :
    matchSecretKeyPattern (a ++ '.' :: b) = (matchSecretKeyPattern a || (a.all (· ≠ '\n') && matchSecretKeyPattern b)) := by
  induction a with
  | nil =>
    have hdot : secretWordAt ('.' :: b) = secretWordAt [] := secretWordAt_append_dot [] b
    simp [matchSecretKeyPattern, hdot]
  | cons c a ih =>
    have hhead : secretWordAt (c :: (a ++ '.' :: b)) = secretWordAt (c :: a) := secretWordAt_append_dot (c :: a) b
    simp only [List.cons_append, matchSecretKeyPattern, hhead, ih, List.all_cons, Bool.and_or_distrib_left, Bool.or_assoc,
      Bool.and_assoc]

theorem isSecretKey_dot (key subKey : String) :
    isSecretKey (key ++ "." ++ subKey) = (isSecretKey key || (oneLine key && isSecretKey subKey)) := by
  have h := matchSecretKeyPattern_dot key.toList subKey.toList
  simpa [isSecretKey, oneLine] using h

theorem oneLine_dot (key subKey : String) : oneLine (key ++ "." ++ subKey) = (oneLine key && oneLine subKey) := by
  simp [oneLine]

/-- `key` is the dotted key that the flattening makes of `keys`. -/
structure Dotted (keys : List String) (key : String) : Prop where
  secret : isSecretKey key = wordBeforeBreak keys
  oneLine : oneLine key = keys.all oneLine

theorem wordBeforeBreak_append (keys keys' : List String) :
    wordBeforeBreak (keys ++ keys') = (wordBeforeBreak keys || (keys.all oneLine && wordBeforeBreak keys')) := by
  induction keys with
  | nil => simp [wordBeforeBreak]
  | cons k keys ih =>
    simp only [List.cons_append, wordBeforeBreak, ih, List.all_cons, Bool.and_or_distrib_left, Bool.or_assoc,
      Bool.and_assoc]

theorem dotted_top (key : String) : Dotted [key] key where
  secret := by simp [wordBeforeBreak, isSecretKey_eq]
  oneLine := by simp

theorem Dotted.sub {keys : List String} {key : String} (h : Dotted keys key) (subKey : String) :
    Dotted (keys ++ [subKey]) (key ++ "." ++ subKey) where
  secret := by
    rw [isSecretKey_dot, wordBeforeBreak_append, h.secret, h.oneLine]
    simp [wordBeforeBreak, isSecretKey_eq]
  oneLine := by
    rw [oneLine_dot, h.oneLine, List.all_append]
    simp

theorem dictKeys_keys (keys : List String) (rest : List Step) :
    dictKeys (keys.map Step.key ++ rest) = keys ++ dictKeys rest := by
  induction keys with
  | nil => rfl
  | cons k keys ih => simp only [List.map_cons, List.cons_append, dictKeys, ih]

/-! ### Noninterference -/

section Agree
variable {σ : Type} {hidden : List Step → Bool}

mutual

/-- Where nothing is hidden, the values are the same. -/
theorem AgreeOutside.eq {path : List Step} (hshown : ∀ rest, hidden (path ++ rest) = false) :
    {value value' : Value σ} → AgreeOutside hidden path value value' → value = value'
  | .scalar s, .scalar s', h => by rw [h (by simpa using hshown [])]
  | .list items, .list items', h => by rw [AgreeItems.eq (fun rest => by simpa using hshown (.item :: rest)) h]
  | .tuple items, .tuple items', h => by rw [AgreeItems.eq (fun rest => by simpa using hshown (.item :: rest)) h]
  | .dict entries, .dict entries', h => by rw [AgreeEntries.eq hshown h]

theorem AgreeItems.eq {path : List Step} (hshown : ∀ rest, hidden (path ++ rest) = false) :
    {items items' : List (Value σ)} → AgreeItems hidden path items items' → items = items'
  | [], [], _ => rfl
  | item :: items, item' :: items', h => by rw [AgreeOutside.eq hshown h.1, AgreeItems.eq hshown h.2]

theorem AgreeEntries.eq {path : List Step} (hshown : ∀ rest, hidden (path ++ rest) = false) :
    {entries entries' : List (String × Value σ)} → AgreeEntries hidden path entries entries' → entries = entries'
  | [], [], _ => rfl
  | (key, value) :: entries, (key', value') :: entries', h => by
    rw [h.1, AgreeOutside.eq (fun rest => by simpa using hshown (.key key :: rest)) h.2.1, AgreeEntries.eq hshown h.2.2]

end

end Agree

theorem throughRedactedKey_keys (keys : List String) : throughRedactedKey (keys.map Step.key) = wordBeforeBreak keys := by
  have h := dictKeys_keys keys []
  simp only [List.append_nil, dictKeys] at h
  rw [throughRedactedKey, h]

/-- Below a list or a tuple nothing changes any more. -/
theorem throughRedactedKey_items (keys : List String) (rest : List Step) :
    throughRedactedKey ((keys.map Step.key ++ [.item]) ++ rest) = wordBeforeBreak keys := by
  rw [List.append_assoc, throughRedactedKey, dictKeys_keys]
  simp [dictKeys]

theorem map_key_append (keys : List String) (k : String) : keys.map Step.key ++ [.key k] = (keys ++ [k]).map Step.key := by
  simp

namespace Scalars
variable {scalars : Scalars}

/-- Two values that agree are printed alike, or not at all. -/
theorem redactValue_agree {keys : List String} {key : String} (hkey : Dotted keys key)
    {value value' : Value scalars.Scalar} (h : wordBeforeBreak keys = false → value = value') :
    scalars.redactValue key value = scalars.redactValue key value' := by
  cases hsecret : isSecretKey key with
  | true => simp [redactValue, hsecret]
  | false => rw [h (hkey.secret.symm.trans hsecret)]

mutual

theorem flattenInto_agree {keys : List String} {key : String} (hkey : Dotted keys key) (out : Dict String String) :
    {value value' : Value scalars.Scalar} → AgreeOutside throughRedactedKey (keys.map .key) value value' →
      scalars.flattenInto out key value = scalars.flattenInto out key value'
  | .scalar s, .scalar s', h => by
    rw [flattenInto, flattenInto, redactValue_agree hkey fun hshown => ?_]
    rw [h ((throughRedactedKey_keys keys).trans hshown)]
  | .list items, .list items', h => by
    rw [flattenInto, flattenInto, redactValue_agree hkey fun hshown => ?_]
    rw [AgreeItems.eq (fun rest => (throughRedactedKey_items keys rest).trans hshown) h]
  | .tuple items, .tuple items', h => by
    rw [flattenInto, flattenInto, redactValue_agree hkey fun hshown => ?_]
    rw [AgreeItems.eq (fun rest => (throughRedactedKey_items keys rest).trans hshown) h]
  | .dict entries, .dict entries', h => flattenEntries_agree hkey out h

theorem flattenEntries_agree {keys : List String} {key : String} (hkey : Dotted keys key) (out : Dict String String) :
    {entries entries' : List (String × Value scalars.Scalar)} →
      AgreeEntries throughRedactedKey (keys.map .key) entries entries' →
      scalars.flattenEntries out key entries = scalars.flattenEntries out key entries'
  | [], [], _ => rfl
  | (subKey, value) :: entries, (subKey', value') :: entries', h => by
    obtain ⟨rfl, hvalue, hentries⟩ := h
    rw [map_key_append] at hvalue
    rw [flattenEntries, flattenEntries, flattenInto_agree (hkey.sub subKey) out hvalue]
    exact flattenEntries_agree hkey _ hentries

end

theorem flatten_agree (out : Dict String String) {dump dump' : List (String × Value scalars.Scalar)}
    (h : AgreeEntries throughRedactedKey [] dump dump') : scalars.flatten out dump = scalars.flatten out dump' := by
  induction dump generalizing dump' out with
  | nil => cases dump' with
    | nil => rfl
    | cons e dump' => exact h.elim
  | cons e dump ih => cases dump' with
    | nil => exact h.elim
    | cons e' dump' =>
      obtain ⟨topKey, topValue⟩ := e
      obtain ⟨topKey', topValue'⟩ := e'
      obtain ⟨rfl, hvalue, hdump⟩ := h
      rw [flatten, flatten, flattenInto_agree (dotted_top topKey) out hvalue]
      exact ih _ hdump

theorem buildEnvSnapshot_start (dump : List (String × Value scalars.Scalar)) {start key : String}
    (h : key ∈ (scalars.buildEnvSnapshot dump (some start)).properties.keys) : start.toList <+: key.toList := by
  unfold buildEnvSnapshot at h
  dsimp only at h
  split at h
  · rename_i hempty
    rw [hempty]
    exact List.nil_prefix
  · obtain ⟨e, he, rfl⟩ := List.mem_map.mp h
    exact List.isPrefixOf_iff_prefix.mp (List.mem_filter.mp he).2

/-- What the snapshots promise, where `hidden` says which scalars of a dump they must not depend on. -/
structure Redacts (scalars : Scalars) (hidden : List Step → Bool) : Prop where
  noninterference : ∀ (dump dump' : List (String × Value scalars.Scalar)), AgreeEntries hidden [] dump dump' →
    ∀ start, scalars.buildEnvSnapshot dump start = scalars.buildEnvSnapshot dump' start
  start : ∀ (dump : List (String × Value scalars.Scalar)) (start key : String),
    key ∈ (scalars.buildEnvSnapshot dump (some start)).properties.keys → start.toList <+: key.toList

/-- A snapshot does not depend on the scalars below a secret key of the nested dicts. -/
theorem redacts_below_dict_key (scalars : Scalars) : scalars.Redacts throughRedactedKey where
  noninterference dump dump' h start := by simp only [buildEnvSnapshot, flatten_agree [] h]
  start dump _ _ := buildEnvSnapshot_start dump

/-- Strings, quoted by `repr` where nothing has to be escaped. -/
def strings : Scalars where
  Scalar := String
  str s := s
  repr s := "'" ++ s ++ "'"
  keyRepr k := "'" ++ k ++ "'"

/-- The settings of the tokens, with their secret. -/
def jwt (secret : String) : List (String × Value String) :=
  [("jwt", .dict [("algorithm", .scalar "HS256"), ("secret", .scalar secret)])]

theorem redacts_jwt_secret :
    strings.buildEnvSnapshot (jwt "a") (some "jwt.") = strings.buildEnvSnapshot (jwt "b") (some "jwt.") := by
  have hagree : AgreeEntries throughRedactedKey [] (jwt "a") (jwt "b") := by
    refine ⟨rfl, ⟨rfl, fun _ => rfl, rfl, fun hshown => ?_, trivial⟩, trivial⟩
    have hhidden : throughRedactedKey [.key "jwt", .key "secret"] = true := by decide
    cases hhidden.symm.trans hshown
  exact (redacts_below_dict_key strings).noninterference (jwt "a") (jwt "b") hagree (some "jwt.")

/-- A list of servers, with the password of one. -/
def servers (password : String) : List (String × Value String) :=
  [("servers", .list [.dict [("password", .scalar password)]])]

/-- A list is printed whole, with the secret keys of the dicts in it. -/
theorem not_redacts_below_list : ¬ ∀ scalars : Scalars, scalars.Redacts throughSecretKey := by
  intro h
  have hagree : AgreeEntries throughSecretKey [] (servers "a") (servers "b") := by
    refine ⟨rfl, ⟨⟨rfl, fun hshown => ?_, trivial⟩, trivial⟩, trivial⟩
    have hhidden : throughSecretKey [.key "servers", .item, .key "password"] = true := by decide
    cases hhidden.symm.trans hshown
  have hsame := (h strings).noninterference _ _ hagree none
  have hprinted : strings.buildEnvSnapshot (servers "a") none ≠ strings.buildEnvSnapshot (servers "b") none := by
    decide
  exact hprinted hsame

end Scalars

end IrisService.Mcp.Actuator
