import HostFacts.Json.Basic
import HostFacts.Text.Quoted
import HostFacts.Text.Numeral
import HostFacts.Decimal.Shortest

/-!
# Writing JSON

The written form is ASCII: every other character is escaped by the numbers of
its UTF-16 units. It comes in two layouts, on one line and with a line for
each item. Both can be read back.
-/

namespace HostFacts.Json

/-! ## Strings -/

def unitEscape (unit : Nat) : Text := "\\u" ++ hexDigits 4 unit

/-- The escape of a code point by one unit, or by two above U+FFFF. -/
def escapeByUnits (c : CodePoint) : Text :=
  if c.code < 0x10000 then unitEscape c.code
  else
    unitEscape (0xD800 + (c.code - 0x10000) / 0x400) ++
      unitEscape (0xDC00 + (c.code - 0x10000) % 0x400)

def escape (c : CodePoint) : Text :=
  match c with
  | .scalar '"' => "\\\""
  | .scalar '\\' => "\\\\"
  | .scalar '\n' => "\\n"
  | .scalar '\r' => "\\r"
  | .scalar '\t' => "\\t"
  | .scalar '\x08' => "\\b"
  | .scalar '\x0C' => "\\f"
  | c => if 0x20 ≤ c.code ∧ c.code ≤ 0x7E then [c] else escapeByUnits c

def writeString (t : Text) : Text := .scalar '"' :: t.flatMap escape ++ [.scalar '"']

/-! ## Numbers -/

/-- How a decimal is laid out. -/
structure FloatLayout where
  /-- The powers of ten of the first digit for which no exponent is written. -/
  positional : Int × Int
  /-- The least number of digits of an exponent. -/
  exponentDigits : Nat
deriving Repr

/-- Positional from 0.0001 to below 10 to the sixteenth, exponents with two digits at least. -/
def floatLayout : FloatLayout := ⟨(-4, 15), 2⟩

def zeros (n : Nat) : Text := List.replicate n (.scalar '0')

/-- Digits with a point behind the first `n` of them, zeros filled in on either side. -/
def withPoint (digits : Text) (n : Int) : Text :=
  if n ≤ 0 then "0." ++ zeros (-n).toNat ++ digits
  else if digits.length ≤ n.toNat then digits ++ zeros (n.toNat - digits.length) ++ ".0"
  else digits.take n.toNat ++ "." ++ digits.drop n.toNat

/-- Digits with an exponent. -/
def withExponent (layout : FloatLayout) (digits : Text) (power : Int) : Text :=
  let magnitude := Numeral.ofNat power.natAbs
  digits.take 1 ++
    (if 1 < digits.length then (("." : Text) ++ digits.drop 1) else []) ++
    (if power < 0 then ("e-" : Text) else "e+") ++
    zeros (layout.exponentDigits - magnitude.length) ++ magnitude

def writeDecimal (layout : FloatLayout) (s : Decimal.Scientific) : Text :=
  let digits := Numeral.ofNat s.digits
  -- the last digit may be a zero where one digit more than needed was free
  let digits := (digits.reverse.dropWhile (· == .scalar '0')).reverse
  let power := s.power + (Numeral.ofNat s.digits).length - 1
  if layout.positional.1 ≤ power ∧ power ≤ layout.positional.2 then withPoint digits (power + 1)
  else withExponent layout digits power

def writeFloat (x : Float) : Text :=
  let bits := x.toBits.toNat
  let fraction := bits % Decimal.leadingBit
  let biased := bits / Decimal.leadingBit % 0x800
  let sign : Text := if bits / Decimal.leadingBit / 0x800 = 1 then "-" else []
  if biased = 2047 then
    if fraction = 0 then sign ++ "Infinity" else "NaN"
  else if biased = 0 ∧ fraction = 0 then sign ++ "0.0"
  else sign ++ writeDecimal floatLayout (Decimal.shortest (.ofFields fraction biased))

/-! ## Values -/

/-- What stands between the parts of a container. -/
structure Layout where
  /-- In front of each item, given the number of containers around it. -/
  opening : Nat → Text
  /-- Between two items, before `opening`. -/
  separator : Text
  /-- Behind the last item, given the number of containers around the container. -/
  closing : Nat → Text

/-- All on one line. -/
def Layout.compact : Layout := ⟨fun _ => [], ", ", fun _ => []⟩

/-- A line for each item, indented by two spaces for each container around it. -/
def Layout.indented : Layout :=
  let newline (depth : Nat) : Text := .scalar '\n' :: List.replicate (2 * depth) (.scalar ' ')
  ⟨newline, ",", newline⟩

mutual

def write (layout : Layout) (depth : Nat) : Json → Text
  | .null => "null"
  | .bool true => "true"
  | .bool false => "false"
  | .int i => Numeral.ofInt i
  | .float x => writeFloat x
  | .str t => writeString t
  | .arr [] => "[]"
  | .arr items =>
    "[" ++ writeItems layout (depth + 1) items ++ layout.closing depth ++ "]"
  | .obj [] => "\x7b\x7d"
  | .obj members =>
    "\x7b" ++ writeMembers layout (depth + 1) members ++ layout.closing depth ++ "\x7d"

def writeItems (layout : Layout) (depth : Nat) : List Json → Text
  | [] => []
  | [item] => layout.opening depth ++ write layout depth item
  | item :: items =>
    layout.opening depth ++ write layout depth item ++ layout.separator ++
      writeItems layout depth items

def writeMembers (layout : Layout) (depth : Nat) : List (Text × Json) → Text
  | [] => []
  | [(name, value)] =>
    layout.opening depth ++ writeString name ++ ": " ++ write layout depth value
  | (name, value) :: members =>
    layout.opening depth ++ writeString name ++ ": " ++ write layout depth value ++
      layout.separator ++ writeMembers layout depth members

end

/-- The value on one line. -/
def compact (j : Json) : Text := j.write .compact 0

/-- The value with a line for each item. -/
def pretty (j : Json) : Text := j.write .indented 0

end HostFacts.Json
