import HostFacts.Json.Basic
import HostFacts.Text.SnakeCase

/-!
# Names in snake case

A value with the names of all its members, at every depth, in snake case.
Members whose names become one name fall together: the value is the last
one's, the place the first one's. Text that is not a name stays as it is.
-/

namespace HostFacts.Json

mutual

def withSnakeNames : Json → Json
  | .arr items => .arr (itemsWithSnakeNames items)
  | .obj members => .obj (Dictionary.ofPairs (membersWithSnakeNames members))
  | j => j

def itemsWithSnakeNames : List Json → List Json
  | [] => []
  | item :: items => withSnakeNames item :: itemsWithSnakeNames items

def membersWithSnakeNames : List (Text × Json) → List (Text × Json)
  | [] => []
  | (name, value) :: members =>
    (name.snakeCase, withSnakeNames value) :: membersWithSnakeNames members

end

end HostFacts.Json
