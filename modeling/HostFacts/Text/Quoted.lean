import HostFacts.Text.Printable

/-!
# Quoted text

How a text is shown inside a message: between single quotes, or between
double quotes if it holds a single quote and no double one. The enclosing
quote and the backslash are escaped, and so is every character that does not
print, by its number in the shortest of three widths.
-/

namespace HostFacts

/-- A digit of a number in base sixteen, in small letters. -/
def hexDigit (n : Nat) : CodePoint :=
  .ofCode (if n < 10 then 0x30 + n else 0x57 + n)

/-- The last `width` digits of a number in base sixteen. -/
def hexDigits : (width : Nat) → Nat → Text
  | 0, _ => []
  | width + 1, n => hexDigits width (n / 16) ++ [hexDigit (n % 16)]

/-- The escape of a code point by its number. -/
def CodePoint.numericEscape (c : CodePoint) : Text :=
  if c.code < 0x100 then "\\x" ++ hexDigits 2 c.code
  else if c.code < 0x10000 then "\\u" ++ hexDigits 4 c.code
  else "\\U" ++ hexDigits 8 c.code

/-- A code point as it stands between two `quote`s. -/
def CodePoint.quotedForm (quote c : CodePoint) : Text :=
  if c = quote ∨ c = .scalar '\\' then [.scalar '\\', c]
  else if c = .scalar '\n' then "\\n"
  else if c = .scalar '\r' then "\\r"
  else if c = .scalar '\t' then "\\t"
  else if c.isPrintable then [c]
  else c.numericEscape

namespace Text

/-- The quote that encloses a text. -/
def enclosingQuote (t : Text) : CodePoint :=
  if t.contains (.scalar '\'') && !t.contains (.scalar '"') then .scalar '"' else .scalar '\''

def quoted (t : Text) : Text :=
  t.enclosingQuote :: t.flatMap (CodePoint.quotedForm t.enclosingQuote) ++ [t.enclosingQuote]

end Text

end HostFacts
