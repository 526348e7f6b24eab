import Mathlib.Data.List.Infix

/-! Python's `str` methods, as far as ASCII results are concerned. -/

namespace IrisService.Str

/-- `c.lower()`. Beyond ASCII only the Kelvin sign has an ASCII letter for its lower case; the other characters
    are left as they are. -/
def lowerChar (c : Char) : Char := if c = '\u212a' then 'k' else c.toLower

/-- `str.lower` on ASCII. -/
def lower (s : String) : String := String.ofList (s.toList.map lowerChar)

/-- `c.isspace()` -/
def isSpace (c : Char) : Bool :=
  let n := c.toNat
  (9 ≤ n && n ≤ 13) || (28 ≤ n && n ≤ 32) || n = 0x85 || n = 0xa0 || n = 0x1680 ||
    (0x2000 ≤ n && n ≤ 0x200a) || n = 0x2028 || n = 0x2029 || n = 0x202f || n = 0x205f || n = 0x3000

/-- `str.strip` -/
def strip (s : String) : String :=
  String.ofList ((s.toList.dropWhile isSpace).reverse.dropWhile isSpace).reverse

/-- `s.rsplit(sep, 1)[-1]` -/
def afterLast (sep : Char) (s : String) : String := String.ofList (s.toList.reverse.takeWhile (· ≠ sep)).reverse

/-- `part in s` -/
def Contains (s part : String) : Prop := part.toList <:+: s.toList

instance (s part : String) : Decidable (Contains s part) := inferInstanceAs (Decidable (_ <:+: _))

theorem contains_empty (s : String) : Contains s "" := List.nil_infix

theorem Contains.append {s part : String} (h : Contains s part) (t : String) : Contains (s ++ t) part := by
  rw [Contains, String.toList_append]
  exact h.trans (List.infix_append' [] s.toList t.toList)

end IrisService.Str
