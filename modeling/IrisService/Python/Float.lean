import IrisService.Library.Binary64

/-! Python's `float`: a finite one by its value. -/

namespace IrisService

/-- A float; both zeros are the one finite zero. -/
inductive PyFloat where
  | nan
  | inf (negative : Bool)
  | finite (q : ℚ)
  deriving DecidableEq

namespace PyFloat

/-- The float of a literal. -/
def ofLiteral (q : ℚ) : PyFloat := .finite (Binary64.round q)

/-- `x <= y` -/
def le : PyFloat → PyFloat → Bool
  | .nan, _ => false
  | _, .nan => false
  | .inf true, _ => true
  | _, .inf false => true
  | .finite x, .finite y => x ≤ y
  | _, _ => false

/-- `x < y` -/
def lt : PyFloat → PyFloat → Bool
  | .nan, _ => false
  | x, y => !y.le x && y ≠ .nan

/-- The nearest number with `digits` decimals, half to even. -/
def roundDecimal (digits : Nat) (q : ℚ) : ℚ := Binary64.roundHalfEven (q * 10 ^ digits) / 10 ^ digits

/-- `round(x, digits)`: the float nearest to the rounded number. -/
def round (digits : Nat) : PyFloat → PyFloat
  | .finite q => ofLiteral (roundDecimal digits q)
  | x => x

end PyFloat

end IrisService
