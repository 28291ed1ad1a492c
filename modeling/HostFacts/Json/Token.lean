import HostFacts.Json.Basic
import HostFacts.Text.Numeral

/-!
# JSON tokens

What stands at a place of a JSON text: punctuation, a string, another scalar,
or nothing that starts a value. `Token.read` also says how many characters the
token takes up, so a reader can walk the text one character at a time.

The scalars are those of the common extension of JSON: `NaN`, `Infinity` and
`-Infinity` are doubles. In a string a control character must be escaped,
and a surrogate may be escaped on its own; two that are a pair are one character
if both are escaped. A number that goes on in a way no number does ends before
it: `01` is `0` followed by `1`.
-/

namespace HostFacts

namespace Json

/-- What a JSON text lacks or has too much of at some place. -/
inductive Reason
  | byteOrderMark
  | value
  | name
  | colon
  | comma
  | extraData
  | unterminatedString
  | controlCharacter
  | escape
  | unicodeEscape
deriving Repr, DecidableEq

/-- Why a JSON text is refused, syntax by the number of characters before the place. -/
inductive Fault
  | syntaxAt (reason : Reason) (position : Nat)
  | numeral (error : Numeral.TooLong)
  | nesting (ofObject : Bool)
deriving Repr, DecidableEq

inductive Token
  | beginArray
  | endArray
  | beginObject
  | endObject
  | comma
  | colon
  | string (content : Except Fault Text)
  | scalar (value : Except Fault Json)
  | other

/-! ## Strings -/

def hexValue? : CodePoint → Option Nat
  | .scalar c =>
    if '0' ≤ c ∧ c ≤ '9' then some (c.toNat - '0'.toNat)
    else if 'a' ≤ c ∧ c ≤ 'f' then some (c.toNat - 'a'.toNat + 10)
    else if 'A' ≤ c ∧ c ≤ 'F' then some (c.toNat - 'A'.toNat + 10)
    else none
  | .surrogate _ => none

/-- The number of four digits in base sixteen. -/
def hexUnit? (a b c d : CodePoint) : Option Nat := do
  return (((← hexValue? a) * 16 + (← hexValue? b)) * 16 + (← hexValue? c)) * 16 + (← hexValue? d)

/-- The character that a backslash makes of the one behind it. -/
def unescape? : CodePoint → Option CodePoint
  | .scalar '"' => some (.scalar '"')
  | .scalar '\\' => some (.scalar '\\')
  | .scalar '/' => some (.scalar '/')
  | .scalar 'b' => some (.scalar '\x08')
  | .scalar 'f' => some (.scalar '\x0C')
  | .scalar 'n' => some (.scalar '\n')
  | .scalar 'r' => some (.scalar '\r')
  | .scalar 't' => some (.scalar '\t')
  | _ => none

/-- A code point of a string as it was found: named by the escape of a UTF-16 unit, or otherwise. -/
inductive Piece
  | unit (c : CodePoint)
  | plain (c : CodePoint)
deriving Repr, DecidableEq

def Piece.codePoint : Piece → CodePoint
  | unit c | plain c => c

/-- The character of a high and a low surrogate, given by their offsets from U+D800. -/
def joinedPair (high low : Nat) : CodePoint := .ofCode (0x10000 + high * 0x400 + (low - 0x400))

/-- Puts what the pieces say behind `done`, which is kept backwards. Units that are a surrogate
pair say one character. -/
def joinPairsOnto (done : Text) : List Piece → Text
  | [] => done.reverse
  | .unit (.surrogate high) :: .unit (.surrogate low) :: pieces =>
    if high.val < 0x400 ∧ 0x400 ≤ low.val then joinPairsOnto (joinedPair high low :: done) pieces
    else joinPairsOnto (.surrogate high :: done) (.unit (.surrogate low) :: pieces)
  | piece :: pieces => joinPairsOnto (piece.codePoint :: done) pieces

/-- The content of the string that was opened at `opening`, and the place behind its closing
quote. The text starts at `position`; the pieces before it are `done`, kept backwards. -/
def scanString (opening position : Nat) (done : List Piece) : Text → Except Fault (Text × Nat)
  | [] => .error (.syntaxAt .unterminatedString opening)
  | .scalar '"' :: _ => .ok (joinPairsOnto [] done.reverse, position + 1)
  | .scalar '\\' :: .scalar 'u' :: a :: b :: c :: d :: t =>
    match hexUnit? a b c d with
    | some unit =>
      if t.isEmpty then .error (.syntaxAt .unicodeEscape (position + 1))
      else scanString opening (position + 6) (.unit (.ofCode unit) :: done) t
    | none => .error (.syntaxAt .unicodeEscape (position + 1))
  | .scalar '\\' :: .scalar 'u' :: _ => .error (.syntaxAt .unicodeEscape (position + 1))
  | .scalar '\\' :: c :: t =>
    match unescape? c with
    | some plain => scanString opening (position + 2) (.plain plain :: done) t
    | none => .error (.syntaxAt .escape position)
  | .scalar '\\' :: [] => .error (.syntaxAt .unterminatedString opening)
  | c :: t =>
    if c.code < 0x20 then .error (.syntaxAt .controlCharacter position)
    else scanString opening (position + 1) (.plain c :: done) t

/-! ## Numbers -/

/-- The parts of a number: digits of the whole part, of the fraction, and of the exponent. -/
structure NumberParts where
  negative : Bool
  whole : Text
  fraction : Option Text
  exponent : Option (Bool × Text)
  /-- How many characters the number takes up. -/
  width : Nat
deriving Repr, DecidableEq

/-- The whole part: a zero, or digits that do not start with one. -/
def wholePart? (t : Text) : Option Text :=
  match t with
  | .scalar '0' :: _ => some [.scalar '0']
  | c :: _ => if c.isDigit then some (t.takeWhile CodePoint.isDigit) else none
  | [] => none

/-- A point and at least one digit. -/
def fractionPart? : Text → Option Text
  | .scalar '.' :: t =>
    let digits := t.takeWhile CodePoint.isDigit
    if digits.isEmpty then none else some digits
  | _ => none

/-- The letter, a sign if there is one, and at least one digit: whether it is a minus, the
digits, and the width of all. -/
def exponentPart? : Text → Option (Bool × Text × Nat)
  | c :: t =>
    if c = .scalar 'e' ∨ c = .scalar 'E' then
      let (negative, unsigned) := Numeral.unsigned t
      let digits := unsigned.takeWhile CodePoint.isDigit
      if digits.isEmpty then none
      else some (negative, digits, 1 + (t.length - unsigned.length) + digits.length)
    else none
  | [] => none

/-- The number that stands at the start of the text. -/
def numberParts? (t : Text) : Option NumberParts := do
  let (negative, body) :=
    match t with
    | .scalar '-' :: body => (true, body)
    | _ => (false, t)
  let whole ← wholePart? body
  let sign := if negative then 1 else 0
  let afterWhole := body.drop whole.length
  let fraction := fractionPart? afterWhole
  let fractionWidth := match fraction with
    | some digits => digits.length + 1
    | none => 0
  let exponent := exponentPart? (afterWhole.drop fractionWidth)
  let exponentWidth := match exponent with
    | some (_, _, width) => width
    | none => 0
  return { negative, whole, fraction,
           exponent := exponent.map fun (minus, digits, _) => (minus, digits),
           width := sign + whole.length + fractionWidth + exponentWidth }

/-- Beyond these powers of ten every double is infinite or zero. -/
def powerBound : Int := 400

/-- The double nearest to `digits * 10 ^ power`, with a sign. -/
def nearestFloat (negative : Bool) (digits : Nat) (power : Int) : Float :=
  let places : Int := (Nat.toDigits 10 digits).length
  let x : Float :=
    if digits = 0 ∨ places + power < -powerBound then 0
    else if powerBound < places + power then 1 / 0
    else Float.ofScientific digits (power < 0) power.natAbs
  if negative then -x else x

/-- The value of a number. One with neither fraction nor exponent is whole. -/
def NumberParts.value (parts : NumberParts) : Except Fault Json :=
  match parts.fraction, parts.exponent with
  | none, none =>
    if Numeral.maxDigits < parts.whole.length then .error (.numeral ⟨parts.whole.length⟩)
    else
      let n : Int := Numeral.magnitude parts.whole
      .ok (.int (if parts.negative then -n else n))
  | fraction, exponent =>
    let places := fraction.getD []
    let power : Int := match exponent with
      | some (true, digits) => -(Numeral.magnitude digits : Int)
      | some (false, digits) => Numeral.magnitude digits
      | none => 0
    .ok (.float (nearestFloat parts.negative (Numeral.magnitude (parts.whole ++ places))
      (power - places.length)))

/-! ## Tokens -/

/-- The scalars that are written as words. -/
def words : List (Text × Json) :=
  [("null", .null), ("true", .bool true), ("false", .bool false),
   ("NaN", .float (0 / 0)), ("Infinity", .float (1 / 0)), ("-Infinity", .float (-1 / 0))]

/-- The token at the start of a text that begins at `position`, and its width. -/
def Token.read (position : Nat) (t : Text) : Token × Nat :=
  match t with
  | .scalar '[' :: _ => (.beginArray, 1)
  | .scalar ']' :: _ => (.endArray, 1)
  | .scalar '\x7b' :: _ => (.beginObject, 1)
  | .scalar '\x7d' :: _ => (.endObject, 1)
  | .scalar ',' :: _ => (.comma, 1)
  | .scalar ':' :: _ => (.colon, 1)
  | .scalar '"' :: rest =>
    match scanString position (position + 1) [] rest with
    | .ok (content, behind) => (.string (.ok content), behind - position)
    | .error fault => (.string (.error fault), 1)
  | _ =>
    match words.find? fun (word, _) => word.isPrefixOf t with
    | some (word, value) => (.scalar (.ok value), word.length)
    | none =>
      match numberParts? t with
      | some parts => (.scalar parts.value, parts.width)
      | none => (.other, 1)

end Json

end HostFacts
