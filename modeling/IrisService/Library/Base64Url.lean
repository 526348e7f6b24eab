import Mathlib.Tactic.Common

/-! Bytes written in base64url, without padding. -/

namespace Base64Url

/-- The alphabet of `base64url`. -/
def alphabet : List Char := "ABCDEFGHIJKLMNOPQRSTUVWXYZabcdefghijklmnopqrstuvwxyz0123456789-_".toList

/-- The character for six bits. -/
def char (n : Nat) : Char := alphabet.getD n 'A'

/-- Three bytes give four characters; what is left at the end is filled up with zero bits. -/
def encode : List UInt8 → List Char
  | [] => []
  | [a] =>
    let n := a.toNat * 16
    [char (n / 64), char (n % 64)]
  | [a, b] =>
    let n := (a.toNat * 256 + b.toNat) * 4
    [char (n / 4096), char (n / 64 % 64), char (n % 64)]
  | a :: b :: c :: rest =>
    let n := (a.toNat * 256 + b.toNat) * 256 + c.toNat
    char (n / 262144) :: char (n / 4096 % 64) :: char (n / 64 % 64) :: char (n % 64) :: encode rest

/-- Four thirds of the number of bytes, rounded up. -/
theorem length_encode (bytes : List UInt8) : (encode bytes).length = (4 * bytes.length + 2) / 3 := by
  induction bytes using encode.induct with
  | case1 => rfl
  | case2 a => simp [encode]
  | case3 a b => simp [encode]
  | case4 a b c rest ih =>
    rw [encode]
    simp only [List.length_cons, ih]
    omega

end Base64Url
