/-! JSON values, as far as the code tells one from another. -/

namespace IrisService

/-- A value of `json.loads`. -/
inductive Json where
  | null
  | bool (b : Bool)
  | num (n : Int)
  | str (s : String)
  /-- A float, a list or an object, by its `str()`. -/
  | other (text : String)
  deriving DecidableEq, Repr

/-- `str()` of the value -/
def Json.text : Json → String
  | .null => "None"
  | .bool true => "True"
  | .bool false => "False"
  | .num n => toString n
  | .str s => s
  | .other text => text

/-- `bool()` of the value; a float, a list or an object is false where its text is that of an empty one or of a zero. -/
def Json.truthy : Json → Bool
  | .null => false
  | .bool b => b
  | .num n => n ≠ 0
  | .str s => s ≠ ""
  | .other text => text ∉ ["0.0", "-0.0", "[]", "\x7b\x7d"]

end IrisService
