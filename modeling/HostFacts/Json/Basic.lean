import HostFacts.Dictionary

/-!
# JSON values

Numbers without fraction and exponent are whole numbers of any size, the
others are doubles, which include infinities and the number that is none.
The members of an object are a dictionary: a repeated name has its last value.
-/

namespace HostFacts

inductive Json
  | null
  | bool (b : Bool)
  | int (i : Int)
  | float (x : Float)
  | str (t : Text)
  | arr (items : List Json)
  | obj (members : List (Text × Json))
deriving Repr, Inhabited

namespace Json

/-- The member of an object; other values have none. -/
def member? (j : Json) (name : Text) : Option Json :=
  match j with
  | .obj members => Dictionary.get? members name
  | _ => none

end Json

end HostFacts
