import HostFacts.Text.Case.Mapping
import HostFacts.Text.Case.Context

/-!
# Lower case

The full lower-case form of a text: each character by Unicode's mapping, with
the two exceptions that need more than one character to decide or to write.
U+0130 becomes an `i` with a dot above, and a capital sigma becomes the final
form where it ends a word.
-/

namespace HostFacts

/-- Whether a word goes on: the first character that is not looked through is a letter.
The text runs away from the sigma, to either side. -/
def Case.meetsLetter (t : Text) : Bool :=
  match t.dropWhile Case.isIgnorable with
  | [] => false
  | c :: _ => Case.isCased c

def capitalSigma : CodePoint := .scalar 'Σ'

/-- The lower-case form of a code point away from any context. -/
def CodePoint.lower (c : CodePoint) : Text :=
  if c = .scalar 'İ' then [.scalar 'i', .scalar '\u0307']
  else [.ofCode (Case.lowerCode c.code)]

/-- The lower-case form of a sigma between `before`, read backwards, and `after`. -/
def Case.lowerSigma (before after : Text) : CodePoint :=
  if meetsLetter before && !meetsLetter after then .scalar 'ς' else .scalar 'σ'

namespace Text

/-- The lower-case form of a text that follows `before`, which is read backwards. -/
def lowerAfter (before : Text) : Text → Text
  | [] => []
  | c :: t =>
    (if c = capitalSigma then [Case.lowerSigma before t] else c.lower) ++
      lowerAfter (c :: before) t

def lower (t : Text) : Text := lowerAfter [] t

end Text

end HostFacts
