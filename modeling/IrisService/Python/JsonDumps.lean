import IrisService.Python.JsonText
import Mathlib.Tactic.Positivity

/-! `json.dumps` with `separators=(",", ":")`: the text of an object whose fields are integers and strings, in ASCII. -/

namespace IrisService.JsonDumps
open JsonText

/-- Four hexadecimal digits. -/
def unicodeEscape (n : Nat) : List Char :=
  ['\\', 'u', hexDigit (n / 4096), hexDigit (n / 256 % 16), hexDigit (n / 16 % 16), hexDigit (n % 16)]

/-- The characters with an escape of their own. -/
def shortEscapes : List (Char × Char) :=
  [('\\', '\\'), ('"', '"'), ('\x08', 'b'), ('\x0c', 'f'), ('\n', 'n'), ('\r', 'r'), ('\t', 't')]

/-- A character inside a string literal; what lies outside the BMP is written as a surrogate pair. -/
def escapeChar (c : Char) : List Char :=
  match shortEscapes.lookup c with
  | some short => ['\\', short]
  | none =>
    if ' ' ≤ c ∧ c ≤ '~' then [c]
    else if c.toNat < 0x10000 then unicodeEscape c.toNat
    else unicodeEscape (0xd800 + (c.toNat - 0x10000) / 0x400) ++ unicodeEscape (0xdc00 + (c.toNat - 0x10000) % 0x400)

/-- A string, escaped to ASCII. -/
def dumpsStr (s : String) : List Char := '"' :: s.toList.flatMap escapeChar ++ ['"']

def dumpsValue : Value → List Char
  | .num n => writeInt n
  | .str s => dumpsStr s

def dumpsField (field : String × Value) : List Char := dumpsStr field.1 ++ ':' :: dumpsValue field.2

/-- The fields after the first one, and the closing brace. -/
def dumpsRest : List (String × Value) → List Char
  | [] => ['}']
  | field :: fields => ',' :: dumpsField field ++ dumpsRest fields

/-- An object, with the separators of PyJWT. -/
def dumps : List (String × Value) → List Char
  | [] => ['{', '}']
  | field :: fields => '{' :: dumpsField field ++ dumpsRest fields

/-! ### Lengths -/

/-- How many characters a character of a string takes. -/
def width (c : Char) : Nat :=
  if c ∈ shortEscapes.map Prod.fst then 2 else if ' ' ≤ c ∧ c ≤ '~' then 1 else if c.toNat < 0x10000 then 6 else 12

/-- How many characters a string takes between its quotes. -/
def escapedLength (s : String) : Nat := (s.toList.map width).sum

theorem mem_shortEscapes {c short : Char} (h : shortEscapes.lookup c = some short) : (c, short) ∈ shortEscapes := by
  obtain ⟨before, after, heq, -⟩ := List.lookup_eq_some_iff.mp h
  rw [heq]
  exact List.mem_append_right before List.mem_cons_self

theorem length_escapeChar (c : Char) : (escapeChar c).length = width c := by
  unfold escapeChar width
  cases hshort : shortEscapes.lookup c with
  | some short =>
    rw [if_pos (List.mem_map_of_mem (mem_shortEscapes hshort))]
    rfl
  | none =>
    have hnot : c ∉ shortEscapes.map Prod.fst := by
      intro hmem
      obtain ⟨e, he, rfl⟩ := List.mem_map.mp hmem
      have hne := List.lookup_eq_none_iff.mp hshort e he
      simp at hne
    rw [if_neg hnot]
    by_cases hprintable : ' ' ≤ c ∧ c ≤ '~'
    · simp only [if_pos hprintable, List.length_singleton]
    · by_cases hbmp : c.toNat < 0x10000
      · simp only [if_neg hprintable, if_pos hbmp, unicodeEscape, List.length_cons, List.length_nil]
      · simp only [if_neg hprintable, if_neg hbmp, unicodeEscape, List.length_append, List.length_cons, List.length_nil]

theorem length_dumpsStr (s : String) : (dumpsStr s).length = escapedLength s + 2 := by
  simp [dumpsStr, escapedLength, List.length_flatMap, length_escapeChar]

/-- A string that nothing is escaped in. -/
theorem escapedLength_eq_length {s : String} (h : ∀ c ∈ s.toList, width c = 1) : escapedLength s = s.length := by
  rw [escapedLength, List.map_congr_left h]
  simp [← String.length_toList]

/-- A number between two powers of ten. -/
theorem length_writeInt {n : Int} {k : Nat} (hlow : 10 ^ k ≤ n) (hhigh : n < 10 ^ (k + 1)) :
    (writeInt n).length = k + 1 := by
  have hpos : (0 : Int) < 10 ^ k := by positivity
  obtain ⟨m, rfl⟩ := Int.eq_ofNat_of_zero_le (hpos.le.trans hlow)
  have hlow : 10 ^ k ≤ m := by exact_mod_cast hlow
  have hhigh : m < 10 ^ (k + 1) := by exact_mod_cast hhigh
  rw [writeInt, if_neg (by omega), Int.natAbs_natCast]
  refine le_antisymm ((Nat.length_toDigits_le_iff (by decide) (by omega)).mpr hhigh) ?_
  rcases Nat.eq_zero_or_pos k with rfl | hk
  · exact Nat.length_toDigits_pos
  · by_contra hshort
    have hle := (Nat.length_toDigits_le_iff (b := 10) (n := m) (by decide) hk).mp (by omega)
    omega

/-! ### Only ASCII -/

/-- Characters of one UTF-8 byte each. -/
def IsAscii (cs : List Char) : Prop := ∀ c ∈ cs, c.toNat < 128

theorem isAscii_append {cs cs' : List Char} : IsAscii (cs ++ cs') ↔ IsAscii cs ∧ IsAscii cs' := List.forall_mem_append

theorem isAscii_cons {c : Char} {cs : List Char} : IsAscii (c :: cs) ↔ c.toNat < 128 ∧ IsAscii cs := List.forall_mem_cons

theorem isAscii_nil : IsAscii [] := nofun

theorem isAscii_unicodeEscape {n : Nat} (h : n < 0x10000) : IsAscii (unicodeEscape n) := by
  have hdigit : ∀ d < 16, (hexDigit d).toNat < 128 := by decide
  simp only [unicodeEscape, isAscii_cons]
  exact ⟨by decide, by decide, hdigit _ (by omega), hdigit _ (by omega), hdigit _ (by omega), hdigit _ (by omega),
    isAscii_nil⟩

theorem isAscii_escapeChar (c : Char) : IsAscii (escapeChar c) := by
  have hshorts : ∀ e ∈ shortEscapes, e.2.toNat < 128 := by decide
  unfold escapeChar
  cases hshort : shortEscapes.lookup c with
  | some short =>
    simp only [isAscii_cons]
    exact ⟨by decide, hshorts _ (mem_shortEscapes hshort), isAscii_nil⟩
  | none =>
    by_cases hprintable : ' ' ≤ c ∧ c ≤ '~'
    · have hle : c.toNat ≤ '~'.toNat := hprintable.2
      simp only [if_pos hprintable, isAscii_cons]
      exact ⟨Nat.lt_of_le_of_lt hle (by decide), isAscii_nil⟩
    · by_cases hbmp : c.toNat < 0x10000
      · simp only [if_neg hprintable, if_pos hbmp]
        exact isAscii_unicodeEscape hbmp
      · have hmax : c.toNat < 0x110000 := by
          have hvalid := c.valid
          rcases hvalid with hlow | ⟨-, hhigh⟩
          · exact Nat.lt_trans hlow (by decide)
          · exact hhigh
        simp only [if_neg hprintable, if_neg hbmp, isAscii_append]
        exact ⟨isAscii_unicodeEscape (by omega), isAscii_unicodeEscape (by omega)⟩

theorem isAscii_dumpsStr (s : String) : IsAscii (dumpsStr s) := by
  rw [dumpsStr, isAscii_append, isAscii_cons]
  refine ⟨⟨by decide, fun d hd => ?_⟩, by simp [IsAscii]⟩
  obtain ⟨c, -, hc⟩ := List.mem_flatMap.mp hd
  exact isAscii_escapeChar c d hc

theorem isAscii_dumpsValue (v : Value) : IsAscii (dumpsValue v) := by
  cases v with
  | str s => exact isAscii_dumpsStr s
  | num n =>
    have hdigits : IsAscii (Nat.toDigits 10 n.natAbs) := by
      intro d hd
      have hdigit := Nat.isDigit_of_mem_toDigits (by decide) (by decide) hd
      have hle : d.toNat ≤ '9'.toNat := (Char.isDigit_iff_toNat.mp hdigit).2
      exact Nat.lt_of_le_of_lt hle (by decide)
    rw [dumpsValue, writeInt]
    split
    · exact isAscii_cons.mpr ⟨by decide, hdigits⟩
    · exact hdigits

theorem isAscii_dumpsField (field : String × Value) : IsAscii (dumpsField field) := by
  rw [dumpsField, isAscii_append, isAscii_cons]
  exact ⟨isAscii_dumpsStr field.1, by decide, isAscii_dumpsValue field.2⟩

theorem isAscii_dumpsRest (fields : List (String × Value)) : IsAscii (dumpsRest fields) := by
  induction fields with
  | nil => simp [dumpsRest, IsAscii]
  | cons field fields ih =>
    rw [dumpsRest, isAscii_append, isAscii_cons]
    exact ⟨⟨by decide, isAscii_dumpsField field⟩, ih⟩

theorem isAscii_dumps (fields : List (String × Value)) : IsAscii (dumps fields) := by
  cases fields with
  | nil => simp [dumps, IsAscii]
  | cons field fields =>
    rw [dumps, isAscii_append, isAscii_cons]
    exact ⟨⟨by decide, isAscii_dumpsField field⟩, isAscii_dumpsRest fields⟩

/-- `.encode("utf-8")` -/
def utf8 (cs : List Char) : List UInt8 := cs.flatMap String.utf8EncodeChar

/-- An ASCII text has as many bytes as characters. -/
theorem length_utf8 {cs : List Char} (h : IsAscii cs) : (utf8 cs).length = cs.length := by
  induction cs with
  | nil => rfl
  | cons c cs ih =>
    obtain ⟨hc, hcs⟩ := isAscii_cons.mp h
    have hsize : c.utf8Size = 1 := Char.utf8Size_eq_one_iff.mpr (Nat.le_of_lt_succ hc)
    rw [utf8, List.flatMap_cons, List.length_append, String.length_utf8EncodeChar, hsize, List.length_cons, Nat.add_comm]
    exact congrArg (· + 1) (ih hcs)

end IrisService.JsonDumps
