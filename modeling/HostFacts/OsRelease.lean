import HostFacts.Dictionary
import HostFacts.Text.Blank
import HostFacts.Text.Lines

/-!
# Release files

A Unix system describes its release in a file of lines `NAME=value`. A line
assigns if there is something in front of its first equals sign and behind
it, blanks and one pair of quotes around the value apart. All other lines
are passed over, and the last assignment to a name counts.
-/

namespace HostFacts

namespace OsRelease

def isQuote (c : CodePoint) : Bool := c = .scalar '"' || c = .scalar '\''

/-- The text without the pair of like quotes around it, if it stands between one. -/
def unquote : Text → Text
  | [] => []
  | first :: rest =>
    if isQuote first ∧ rest.getLast? = some first then rest.dropLast else first :: rest

def equals : CodePoint := .scalar '='

/-- What a line assigns. Blanks around the name belong to it. -/
def assignment? (line : Text) : Option (Text × Text) :=
  match Text.cut equals line with
  | (_, none) => none
  | (name, some rest) =>
    let value := unquote rest.trim
    if name.isBlank || value.isBlank then none else some (name, value)

/-- The values that a release file assigns, by name. -/
def read (t : Text) : Dictionary Text := .ofPairs (t.lines.filterMap assignment?)

end OsRelease

end HostFacts
