import HostFacts.Text.Numeral

/-!
# Versions

A version is read as the numbers of its dotted segments, continued with
zeros for ever. A segment that is no numeral counts zero, so `10.10` and
`10.10.0` are the same version and `6.1.0-13-amd64` is `6.1.0`. Versions
compare by the first segment that differs, and the unknown version is below
all others.
-/

namespace HostFacts

namespace Version

/-- The number of a segment. -/
def segment (t : Text) : Except Numeral.TooLong Int :=
  let (negative, digits) := Numeral.unsigned t
  if !Numeral.isDigits digits then .ok 0
  else if Numeral.maxDigits < digits.length then .error ⟨digits.length⟩
  else if negative then .ok (-(Numeral.magnitude digits : Int))
  else .ok (Numeral.magnitude digits)

def dot : CodePoint := .scalar '.'

/-- The numbers of all segments. The first numeral that is too long stops the reading. -/
def segments (version : Text) : Except Numeral.TooLong (List Int) :=
  (Text.split dot version).mapM segment

/-- Compares zeros for ever with a run of numbers. -/
def compareZeros : List Int → Ordering
  | [] => .eq
  | n :: numbers => (Ord.compare 0 n).then (compareZeros numbers)

/-- Compares two runs of numbers, the shorter one continued with zeros. -/
def compareNumbers : List Int → List Int → Ordering
  | [], others => compareZeros others
  | n :: numbers, [] => (Ord.compare n 0).then (compareNumbers numbers [])
  | n :: numbers, m :: others => (Ord.compare n m).then (compareNumbers numbers others)

/-- Compares two versions. Nothing is read when one of them is unknown. -/
def compare : Option Text → Option Text → Except Numeral.TooLong Ordering
  | none, none => .ok .eq
  | none, some _ => .ok .lt
  | some _, none => .ok .gt
  | some v, some w => do
    let numbers ← segments v
    let others ← segments w
    return compareNumbers numbers others

def atLeast (actual required : Option Text) : Except Numeral.TooLong Bool :=
  (compare actual required).map (· != .lt)

end Version

end HostFacts
