/-!
# The shortest decimal of a floating-point number

A finite positive double is `mantissa * 2 ^ exponent`, and every real number
closer to it than half the way to its neighbours reads back as it. The
shortest decimal is found by trying one digit, two digits, and so on: of the
decimals with that many digits only the two next to the number can lie in
that interval, the one below and the one above. The comparison is exact, on
fractions of natural numbers.
-/

namespace HostFacts.Decimal

/-- A fraction with a positive denominator. -/
structure Fraction where
  numerator : Nat
  denominator : Nat
deriving Repr, DecidableEq

namespace Fraction

/-- `n * base ^ exponent`. -/
def scaled (n base : Nat) (exponent : Int) : Fraction :=
  if 0 ≤ exponent then ⟨n * base.pow exponent.toNat, 1⟩ else ⟨n, base.pow (-exponent).toNat⟩

def le (x y : Fraction) : Bool := x.numerator * y.denominator ≤ y.numerator * x.denominator

/-- How far `x` is below `y`; zero if it is not below. -/
def sub (y x : Fraction) : Fraction :=
  ⟨y.numerator * x.denominator - x.numerator * y.denominator, y.denominator * x.denominator⟩

end Fraction

/-- A double apart from its sign: `mantissa * 2 ^ exponent`. -/
structure Binary where
  mantissa : Nat
  exponent : Int
deriving Repr, DecidableEq

/-- The first bit of a mantissa, which is not stored: two to the power of 52. -/
def leadingBit : Nat := 0x10000000000000

/-- The mantissa and exponent of a finite double, from its 52 stored bits and its biased exponent. -/
def Binary.ofFields (fraction biased : Nat) : Binary :=
  if biased = 0 then ⟨fraction, -1074⟩ else ⟨leadingBit + fraction, (biased : Int) - 1075⟩

namespace Binary

def value (b : Binary) : Fraction := .scaled b.mantissa 2 b.exponent

/-- The middle between a double and its neighbour above. -/
def upperEnd (b : Binary) : Fraction := .scaled (4 * b.mantissa + 2) 2 (b.exponent - 2)

/-- The middle between a double and its neighbour below, which is nearer at a power of two. -/
def lowerEnd (b : Binary) : Fraction :=
  if b.mantissa = leadingBit ∧ -1074 < b.exponent then
    .scaled (4 * b.mantissa - 1) 2 (b.exponent - 2)
  else .scaled (4 * b.mantissa - 2) 2 (b.exponent - 2)

/-- Whether a number rounds to the double. A middle does so if the mantissa is even. -/
def admits (b : Binary) (x : Fraction) : Bool :=
  if b.mantissa % 2 = 0 then b.lowerEnd.le x && x.le b.upperEnd
  else !x.le b.lowerEnd && !b.upperEnd.le x

/-- The power of ten of the first digit. -/
def leadingPower (b : Binary) : Int :=
  let x := b.value
  let guess : Int := (Nat.toDigits 10 x.numerator).length - (Nat.toDigits 10 x.denominator).length
  if (Fraction.scaled 1 10 guess).le x then guess else guess - 1

end Binary

/-- `digits * 10 ^ power`. -/
structure Scientific where
  digits : Nat
  power : Int
deriving Repr, DecidableEq

def Scientific.value (s : Scientific) : Fraction := .scaled s.digits 10 s.power

/-- The decimal of `places` digits that the double admits. Of two the nearer is taken, and of
two equally near the even one. -/
def ofPlaces? (b : Binary) (places : Nat) : Option Scientific :=
  let power := b.leadingPower - (places : Int) + 1
  let x := b.value
  let unit := Fraction.scaled 1 10 power
  let floor := x.numerator * unit.denominator / (x.denominator * unit.numerator)
  let below : Scientific := ⟨floor, power⟩
  let above : Scientific := ⟨floor + 1, power⟩
  match b.admits below.value, b.admits above.value with
  | true, false => some below
  | false, true => some above
  | false, false => none
  | true, true =>
    let down := x.sub below.value
    let up := above.value.sub x
    if !down.le up then some above
    else if !up.le down then some below
    else if floor % 2 = 0 then some below else some above

/-- The decimal with the fewest digits that reads back. Seventeen digits always do. -/
def shortest (b : Binary) : Scientific :=
  match (List.range 17).findSome? fun n => ofPlaces? b (n + 1) with
  | some s => s
  | none => ⟨b.mantissa, 0⟩

end HostFacts.Decimal
