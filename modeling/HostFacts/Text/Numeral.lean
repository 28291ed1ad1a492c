import HostFacts.Text.CodePoint

/-!
# Decimal numerals

Whole numbers as text. A numeral is an optional sign and one or more digits
`0` to `9`. Reading one is refused above 4300 digits, leading zeros counted,
which bounds the work that a hostile text can ask for.
-/

namespace HostFacts.Numeral

/-! ## Writing -/

/-- The digits of a whole number, without leading zeros. -/
def ofNat (n : Nat) : Text := (Nat.toDigits 10 n).map .scalar

def ofInt : Int → Text
  | .ofNat n => ofNat n
  | .negSucc n => .scalar '-' :: ofNat (n + 1)

/-- At least two characters, a zero put before a single digit. -/
def twoPlaces (i : Int) : Text :=
  match ofInt i with
  | [c] => [.scalar '0', c]
  | t => t

/-! ## Reading -/

/-- The number that digits stand for. -/
def magnitude (digits : Text) : Nat :=
  digits.foldl (fun n c => 10 * n + c.digitValue) 0

/-- Whether the text starts with a minus, and the text without one leading sign. -/
def unsigned : Text → Bool × Text
  | .scalar '-' :: digits => (true, digits)
  | .scalar '+' :: digits => (false, digits)
  | digits => (false, digits)

def isDigits (t : Text) : Bool := !t.isEmpty && t.all CodePoint.isDigit

/-- The largest number of digits that is read. -/
def maxDigits : Nat := 4300

/-- A numeral with more digits than are read. -/
structure TooLong where
  digits : Nat
deriving Repr, DecidableEq

def TooLong.message (e : TooLong) : Text :=
  "Exceeds the limit (" ++ ofNat maxDigits ++
    " digits) for integer string conversion: value has " ++ ofNat e.digits ++
    " digits; use sys.set_int_max_str_digits() to increase the limit"

end HostFacts.Numeral
