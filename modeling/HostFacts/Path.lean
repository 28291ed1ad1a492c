import HostFacts.Text.CodePoint

/-!
# Paths

A path in normal form: empty parts and single dots are gone, double dots
stay, because what they lead to depends on links. Two slashes at the start
are kept apart from one, as the standard leaves their meaning open; three or
more are one.
-/

namespace HostFacts

inductive Path.Root
  | relative
  | slash
  | doubleSlash
deriving Repr, DecidableEq

structure Path where
  root : Path.Root
  parts : List Text
deriving Repr, DecidableEq

namespace Path

def slash : CodePoint := .scalar '/'

def Root.text : Root → Text
  | relative => []
  | .slash => [Path.slash]
  | doubleSlash => [Path.slash, Path.slash]

/-- The root that leading slashes stand for, by their number. -/
def rootOf : (slashes : Nat) → Root
  | 0 => .relative
  | 2 => .doubleSlash
  | _ => .slash

/-- The parts of a text that name something. -/
def partsOf (t : Text) : List Text :=
  (Text.split slash t).filter fun part => !part.isEmpty && part != [.scalar '.']

def ofText (t : Text) : Path :=
  ⟨rootOf (t.takeWhile (· == slash)).length, partsOf t⟩

/-- The text of a path; a dot for the one without any part. -/
def text (p : Path) : Text :=
  match p.root, p.parts with
  | .relative, [] => "."
  | root, parts => root.text ++ Text.join [slash] parts

/-- The path of a name inside a directory. -/
def child (p : Path) (name : Text) : Path := { p with parts := p.parts ++ [name] }

/-- No file has a name with U+0000 in it, and the system is not even asked for one. -/
def hasNul (p : Path) : Bool := p.parts.any (·.contains (.scalar '\x00'))

end Path

end HostFacts
