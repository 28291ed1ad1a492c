import HostFacts.Text.CodePoint

/-!
# Blank characters

White space in the sense of Unicode's bidirectional classes WS, B and S or
its category Zs: 29 characters, the four information separators U+001C to
U+001F among them. Zero-width characters are not blank.
-/

namespace HostFacts

/-- The blank characters, as ranges. -/
def blankRanges : List (Nat × Nat) :=
  [(0x09, 0x0D), (0x1C, 0x20), (0x85, 0x85), (0xA0, 0xA0), (0x1680, 0x1680),
   (0x2000, 0x200A), (0x2028, 0x2029), (0x202F, 0x202F), (0x205F, 0x205F),
   (0x3000, 0x3000)]

def CodePoint.isBlank (c : CodePoint) : Bool := c.inRanges blankRanges

namespace Text

/-- Blank characters only; the empty text counts. -/
def isBlank (t : Text) : Bool := t.all CodePoint.isBlank

def trimStart (t : Text) : Text := t.dropWhile CodePoint.isBlank

def trimEnd (t : Text) : Text := (t.reverse.dropWhile CodePoint.isBlank).reverse

/-- The text without the blank characters at both ends. -/
def trim (t : Text) : Text := (trimStart t).trimEnd

end Text

end HostFacts
