import Mathlib.Data.List.Basic
import Mathlib.Data.Nat.Notation

/-! The JSON text of an object whose fields are integers and strings, as pydantic writes it, and how it is
read back. -/

namespace IrisService.JsonText

/-- The value of a field. -/
inductive Value where
  | num (n : Int)
  | str (s : String)
  deriving DecidableEq, Repr

/-! ### Strings -/

/-- A hexadecimal digit, in lower case. -/
def hexDigit (n : Nat) : Char := Nat.digitChar n

/-- A character inside a string literal. -/
def escapeChar (c : Char) : List Char :=
  if c = '"' then ['\\', '"']
  else if c = '\\' then ['\\', '\\']
  else if c = '\n' then ['\\', 'n']
  else if c = '\r' then ['\\', 'r']
  else if c = '\t' then ['\\', 't']
  else if c = '\x08' then ['\\', 'b']
  else if c = '\x0c' then ['\\', 'f']
  else if c.toNat < 32 then ['\\', 'u', '0', '0', hexDigit (c.toNat / 16), hexDigit (c.toNat % 16)]
  else [c]

/-- The characters of a string with the closing quote. -/
def escape : List Char → List Char
  | [] => ['"']
  | c :: cs => escapeChar c ++ escape cs

/-- The value of such a digit. -/
def hexValue (c : Char) : Nat := if c.isDigit then c.toNat - '0'.toNat else c.toNat - 'a'.toNat + 10

/-- The character that a letter behind a backslash stands for. -/
def unescapeChar : Char → Char
  | 'n' => '\n'
  | 'r' => '\r'
  | 't' => '\t'
  | 'b' => '\x08'
  | 'f' => '\x0c'
  | c => c

/-- The string up to its closing quote, and what follows. -/
def unescape : List Char → Option (List Char × List Char)
  | [] => none
  | '"' :: rest => some ([], rest)
  | '\\' :: 'u' :: '0' :: '0' :: a :: b :: rest =>
    (unescape rest).map fun p => (Char.ofNat (hexValue a * 16 + hexValue b) :: p.1, p.2)
  | '\\' :: c :: rest => (unescape rest).map fun p => (unescapeChar c :: p.1, p.2)
  | c :: rest => (unescape rest).map fun p => (c :: p.1, p.2)

theorem hex_control : ∀ n < 32, hexValue (hexDigit (n / 16)) * 16 + hexValue (hexDigit (n % 16)) = n := by decide

theorem unescape_escapeChar (c : Char) (cs : List Char) :
    unescape (escapeChar c ++ cs) = (unescape cs).map fun p => (c :: p.1, p.2) := by
  by_cases hquote : c = '"'
  · subst hquote
    rfl
  by_cases hbackslash : c = '\\'
  · subst hbackslash
    rfl
  by_cases hn : c = '\n'
  · subst hn
    rfl
  by_cases hr : c = '\r'
  · subst hr
    rfl
  by_cases ht : c = '\t'
  · subst ht
    rfl
  by_cases hb : c = '\x08'
  · subst hb
    rfl
  by_cases hf : c = '\x0c'
  · subst hf
    rfl
  by_cases hcontrol : c.toNat < 32
  · simp only [escapeChar, hquote, hbackslash, hn, hr, ht, hb, hf, hcontrol, if_false, if_true, List.cons_append,
      List.nil_append, unescape, hex_control c.toNat hcontrol, Char.ofNat_toNat]
  · simp [escapeChar, hquote, hbackslash, hn, hr, ht, hb, hf, hcontrol, unescape]

theorem unescape_escape (cs rest : List Char) : unescape (escape cs ++ rest) = some (cs, rest) := by
  induction cs with
  | nil => rfl
  | cons c cs ih => rw [escape, List.append_assoc, unescape_escapeChar, ih, Option.map_some]

/-! ### Integers -/

/-- The digits of an integer. -/
def writeInt (n : Int) : List Char := if n < 0 then '-' :: Nat.toDigits 10 n.natAbs else Nat.toDigits 10 n.natAbs

/-- The digits at the head of a text, and what follows. -/
def readNat (cs : List Char) : Nat × List Char :=
  (Nat.ofDigitChars 10 (cs.takeWhile Char.isDigit) 0, cs.dropWhile Char.isDigit)

/-- An integer at the head of a text, and what follows. -/
def readInt : List Char → Int × List Char
  | '-' :: cs => (-(readNat cs).1, (readNat cs).2)
  | cs => ((readNat cs).1, (readNat cs).2)

theorem readNat_toDigits (n : Nat) {c : Char} (hc : c.isDigit = false) (rest : List Char) :
    readNat (Nat.toDigits 10 n ++ c :: rest) = (n, c :: rest) := by
  have hdigits : ∀ d ∈ Nat.toDigits 10 n, d.isDigit = true := fun d hd =>
    Nat.isDigit_of_mem_toDigits (by decide) (by decide) hd
  rw [readNat, List.takeWhile_append_of_pos hdigits, List.dropWhile_append_of_pos hdigits,
    List.takeWhile_cons_of_neg (by simp [hc]), List.dropWhile_cons_of_neg (by simp [hc]), List.append_nil,
    Nat.ofDigitChars_ten_toDigits]

theorem readInt_of_isDigit {d : Char} (hd : d.isDigit = true) (cs : List Char) :
    readInt (d :: cs) = (((readNat (d :: cs)).1 : Int), (readNat (d :: cs)).2) := by
  unfold readInt
  split
  · rename_i heq
    obtain ⟨rfl, -⟩ := List.cons.inj heq
    cases hd
  · rfl

theorem readInt_writeInt (n : Int) {c : Char} (hc : c.isDigit = false) (rest : List Char) :
    readInt (writeInt n ++ c :: rest) = (n, c :: rest) := by
  unfold writeInt
  split
  · simp only [List.cons_append, readInt, readNat_toDigits _ hc]
    rw [Prod.mk.injEq]
    exact ⟨by omega, rfl⟩
  · have hread := readNat_toDigits n.natAbs hc rest
    obtain ⟨d, ds, hds⟩ := List.exists_cons_of_ne_nil (Nat.toDigits_ne_nil (n := n.natAbs) (b := 10))
    have hd : d.isDigit = true := Nat.isDigit_of_mem_toDigits (by decide) (by decide) (hds ▸ List.mem_cons_self)
    rw [hds, List.cons_append] at hread ⊢
    rw [readInt_of_isDigit hd, hread, Prod.mk.injEq]
    exact ⟨by omega, rfl⟩

/-! ### Objects -/

/-- An integer, or a string in quotes. -/
def writeValue : Value → List Char
  | .num n => writeInt n
  | .str s => '"' :: escape s.toList

/-- A value at the head of a text, and what follows. -/
def readValue : List Char → Option (Value × List Char)
  | '"' :: cs => (unescape cs).map fun p => (.str (String.ofList p.1), p.2)
  | cs => some (.num (readInt cs).1, (readInt cs).2)

/-- A key, a colon and the value. -/
def writeField (field : String × Value) : List Char := '"' :: escape field.1.toList ++ ':' :: writeValue field.2

/-- A field at the head of a text, and what follows. -/
def readField : List Char → Option ((String × Value) × List Char)
  | '"' :: cs =>
    match unescape cs with
    | some (key, ':' :: cs) => (readValue cs).map fun p => ((String.ofList key, p.1), p.2)
    | _ => none
  | _ => none

/-- The fields after the first one, and the closing brace. -/
def writeRest : List (String × Value) → List Char
  | [] => ['}']
  | field :: fields => ',' :: writeField field ++ writeRest fields

/-- The fields after the first one; the fuel is the length of the text. -/
def readRest : Nat → List Char → Option (List (String × Value))
  | _, ['}'] => some []
  | fuel + 1, ',' :: cs =>
    match readField cs with
    | some (field, cs) => (readRest fuel cs).map (field :: ·)
    | none => none
  | _, _ => none

/-- The text of an object. -/
def write : List (String × Value) → String
  | [] => "{}"
  | field :: fields => String.ofList ('{' :: writeField field ++ writeRest fields)

/-- The fields of an object without white space. -/
def read (text : String) : Option (List (String × Value)) :=
  match text.toList with
  | '{' :: cs =>
    if cs = ['}'] then some []
    else
      match readField cs with
      | some (field, cs) => (readRest cs.length cs).map (field :: ·)
      | none => none
  | _ => none

theorem readValue_of_ne {d : Char} (hd : d ≠ '"') (cs : List Char) :
    readValue (d :: cs) = some (.num (readInt (d :: cs)).1, (readInt (d :: cs)).2) := by
  unfold readValue
  split
  · rename_i heq
    exact absurd (List.cons.inj heq).1 hd
  · rfl

theorem writeInt_ne_quote (n : Int) : ∃ d ds, writeInt n = d :: ds ∧ d ≠ '"' := by
  unfold writeInt
  split
  · exact ⟨_, _, rfl, by decide⟩
  · obtain ⟨d, ds, hds⟩ := List.exists_cons_of_ne_nil (Nat.toDigits_ne_nil (n := n.natAbs) (b := 10))
    have hd : d.isDigit = true := Nat.isDigit_of_mem_toDigits (by decide) (by decide) (hds ▸ List.mem_cons_self)
    refine ⟨d, ds, hds, ?_⟩
    rintro rfl
    cases hd

/-- A value is read back from before what ends it. -/
theorem readValue_writeValue (v : Value) {c : Char} (hc : c.isDigit = false) (rest : List Char) :
    readValue (writeValue v ++ c :: rest) = some (v, c :: rest) := by
  cases v with
  | num n =>
    have hread := readInt_writeInt n hc rest
    obtain ⟨d, ds, hds, hd⟩ := writeInt_ne_quote n
    rw [writeValue]
    rw [hds, List.cons_append] at hread ⊢
    rw [readValue_of_ne hd, hread]
  | str s => simp [writeValue, readValue, unescape_escape]

theorem readField_writeField (field : String × Value) {c : Char} (hc : c.isDigit = false) (rest : List Char) :
    readField (writeField field ++ c :: rest) = some (field, c :: rest) := by
  simp [writeField, readField, unescape_escape, readValue_writeValue field.2 hc]

theorem writeRest_head (fields : List (String × Value)) : ∃ c cs, writeRest fields = c :: cs ∧ c.isDigit = false := by
  cases fields <;> exact ⟨_, _, rfl, by decide⟩

theorem readRest_writeRest (fields : List (String × Value)) {fuel : Nat} (h : (writeRest fields).length ≤ fuel) :
    readRest fuel (writeRest fields) = some fields := by
  induction fields generalizing fuel with
  | nil => cases fuel <;> rfl
  | cons field fields ih =>
    obtain ⟨c, cs, hcs, hc⟩ := writeRest_head fields
    cases fuel with
    | zero => simp [writeRest] at h
    | succ fuel =>
      have hshort : (writeRest fields).length ≤ fuel := by
        simp only [writeRest, List.cons_append, List.length_cons, List.length_append] at h
        omega
      have hfield := readField_writeField field hc cs
      rw [← hcs] at hfield
      simp [writeRest, readRest, hfield, ih hshort]

theorem read_write (fields : List (String × Value)) : read (write fields) = some fields := by
  cases fields with
  | nil => rfl
  | cons field fields =>
    obtain ⟨c, cs, hcs, hc⟩ := writeRest_head fields
    have hfield := readField_writeField field hc cs
    rw [← hcs] at hfield
    have hopen : writeField field ++ writeRest fields ≠ ['}'] := by simp [writeField]
    simp [read, write, hopen, hfield, readRest_writeRest]

end IrisService.JsonText
