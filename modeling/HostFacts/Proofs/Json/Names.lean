import Mathlib.Data.List.Induction
import HostFacts.Json.Names
import HostFacts.Proofs.Dictionary

/-!
# Members by their names in snake case

Of the members whose names become the same name in snake case the last one
counts. `named` finds it in an object as it was read; `get?_withSnakeNames`
says that the object with its names changed has just that member, with the
names inside its value changed too.
-/

namespace HostFacts

namespace Json

/-- The value of the last member whose name is `name` in snake case. -/
def named (members : List (Text × Json)) (name : Text) : Option Json :=
  (members.reverse.find? fun member => member.1.snakeCase = name).map Prod.snd

theorem membersWithSnakeNames_eq_map (members : List (Text × Json)) :
    membersWithSnakeNames members
      = members.map fun member => (member.1.snakeCase, member.2.withSnakeNames) := by
  induction members with
  | nil => rfl
  | cons member members ih =>
      obtain ⟨name, value⟩ := member
      rw [membersWithSnakeNames, ih]
      rfl

theorem get?_map_snakeCase {α : Type} (f : Json → α) (members : List (Text × Json))
    (name : Text) :
    Dictionary.get? (members.map fun member => (member.1.snakeCase, f member.2)) name
      = (members.find? fun member => member.1.snakeCase = name).map fun member => f member.2 := by
  induction members with
  | nil => rfl
  | cons member members ih =>
      rw [List.map_cons, Dictionary.get?_cons, ih]
      by_cases h : member.1.snakeCase = name
      · rw [if_pos h.symm, List.find?_cons_of_pos (by simpa using h), Option.map_some]
      · rw [if_neg (Ne.symm h), List.find?_cons_of_neg (by simpa using h)]

theorem get?_withSnakeNames (members : List (Text × Json)) (name : Text) :
    Dictionary.get? (Dictionary.ofPairs (membersWithSnakeNames members)) name
      = (named members name).map withSnakeNames := by
  rw [Dictionary.get?_ofPairs, membersWithSnakeNames_eq_map, ← List.map_reverse,
    get?_map_snakeCase, named, Option.map_map]
  rfl

/-- Where no two names become one there is nothing to choose. -/
theorem named_eq_get? {members : List (Text × Json)}
    (h : (members.map fun member => member.1.snakeCase).Nodup) (name : Text) :
    named members name
      = Dictionary.get? (members.map fun member => (member.1.snakeCase, member.2)) name := by
  have hnodup :
      ((members.map fun member => (member.1.snakeCase, member.2)).map Prod.fst).Nodup := by
    rw [List.map_map]
    exact h
  have hperm := (List.reverse_perm members).map fun member => (member.1.snakeCase, member.2)
  rw [← Dictionary.get?_perm hnodup hperm, get?_map_snakeCase (fun value => value)]
  rfl

end Json

end HostFacts
