import HostFacts.Text.Case

/-!
# Snake case

Names in camel case and in snake case are two spellings of one name. The
common form is in lower case with an underscore at each boundary where a
capital follows a small letter or a digit of ASCII. `osName`, `OS_NAME` and
`os_name` are one name; `OSName` is another, since it has only the boundary
that its letters show.
-/

namespace HostFacts

/-- Whether a word ends with `c` and the next one begins with `d`. -/
def CodePoint.isWordBoundary (c d : CodePoint) : Bool :=
  (c.isSmall || c.isDigit) && d.isCapital

namespace Text

/-- The text with an underscore at each boundary between words. The two characters at a
boundary are taken together, and the next boundary is looked for behind them. -/
def separateWords : Text → Text
  | [] => []
  | [c] => [c]
  | c :: d :: t =>
    if c.isWordBoundary d then c :: .scalar '_' :: d :: separateWords t
    else c :: separateWords (d :: t)

def snakeCase (t : Text) : Text := t.separateWords.lower

end Text

end HostFacts
