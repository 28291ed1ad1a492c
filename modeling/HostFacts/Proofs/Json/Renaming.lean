import HostFacts.Proofs.Json.Names
import HostFacts.Proofs.Text.SnakeCase

/-!
# Renaming the members of a value

To put the names of a value in snake case is to rename its members and nothing else.
Arrays keep their items in order and all that is not an array or an object stays as it
is; an object has the snake cases of its names as names, each with the value of the last
member that had come to it. This goes for every depth, which the parts that a path leads
to show (`part?_withSnakeNames`). A name in snake case is its own snake case, and the
renamed members have different names, so that renaming them again changes nothing
(`withSnakeNames_withSnakeNames`); how a name was spelled is of no difference
(`Respelled.withSnakeNames_eq`).
-/

namespace HostFacts.Json

/-! ## Induction over values -/

/-- Neither an array nor an object. -/
def isScalar : Json → Bool
  | .arr _ | .obj _ => false
  | _ => true

/-- What goes over from the items of an array and from the values of an object's members to
these holds of all values. -/
@[elab_as_elim]
theorem inductionOn {motive : Json → Prop} (x : Json)
    (scalar : ∀ x, x.isScalar = true → motive x)
    (arr : ∀ items, (∀ item ∈ items, motive item) → motive (.arr items))
    (obj : ∀ members, (∀ member ∈ members, motive member.2) → motive (.obj members)) :
    motive x := by
  refine @Json.rec motive (fun items => ∀ item ∈ items, motive item)
    (fun members => ∀ member ∈ members, motive member.2) (fun member => motive member.2)
    ?null ?bool ?int ?float ?str arr obj ?noItem ?item ?noMember ?member ?pair x
  case null => exact scalar .null rfl
  case bool => exact fun b => scalar (.bool b) rfl
  case int => exact fun i => scalar (.int i) rfl
  case float => exact fun x => scalar (.float x) rfl
  case str => exact fun t => scalar (.str t) rfl
  case noItem => exact fun item hitem => nomatch hitem
  case item =>
    intro item items hfirst hrest other hother
    rcases List.mem_cons.mp hother with rfl | hother
    · exact hfirst
    · exact hrest other hother
  case noMember => exact fun member hmember => nomatch hmember
  case member =>
    intro member members hfirst hrest other hother
    rcases List.mem_cons.mp hother with rfl | hother
    · exact hfirst
    · exact hrest other hother
  case pair => exact fun name value hvalue => hvalue

/-! ## One level -/

theorem withSnakeNames_of_isScalar {x : Json} (h : x.isScalar = true) : x.withSnakeNames = x := by
  cases x with
  | arr items => cases h
  | obj members => cases h
  | _ => rfl

theorem withSnakeNames_arr (items : List Json) :
    withSnakeNames (.arr items) = .arr (items.map withSnakeNames) := by
  have hitems : itemsWithSnakeNames items = items.map withSnakeNames := by
    induction items with
    | nil => rfl
    | cons item items ih => rw [itemsWithSnakeNames, ih, List.map_cons]
  rw [withSnakeNames, hitems]

/-- The members renamed one after another, of which the last of a name counts. -/
def renamed (members : List (Text × Json)) : Dictionary Json :=
  Dictionary.ofPairs (members.map fun member => (member.1.snakeCase, member.2.withSnakeNames))

theorem withSnakeNames_obj (members : List (Text × Json)) :
    withSnakeNames (.obj members) = .obj (renamed members) := by
  rw [withSnakeNames, membersWithSnakeNames_eq_map, renamed]

theorem nodup_renamed (members : List (Text × Json)) : ((renamed members).map Prod.fst).Nodup :=
  Dictionary.nodup_ofPairs _

theorem get?_renamed (members : List (Text × Json)) (name : Text) :
    (renamed members).get? name = (named members name).map withSnakeNames := by
  rw [renamed, ← membersWithSnakeNames_eq_map]
  exact get?_withSnakeNames members name

theorem mem_names_renamed_iff {members : List (Text × Json)} {name : Text} :
    name ∈ (renamed members).map Prod.fst ↔ ∃ member ∈ members, member.1.snakeCase = name := by
  rw [← Dictionary.isSome_get?_iff, get?_renamed, named, Option.isSome_map, Option.isSome_map,
    List.find?_isSome]
  simp only [List.mem_reverse, decide_eq_true_eq]

/-- The last member that has the name in snake case is the one that counts. -/
theorem named_of_last {members before after : List (Text × Json)} {key : Text} {value : Json}
    (h : members = before ++ (key, value) :: after)
    (hlast : ∀ later ∈ after, later.1.snakeCase ≠ key.snakeCase) :
    named members key.snakeCase = some value := by
  have hreverse : members.reverse = after.reverse ++ (key, value) :: before.reverse := by
    rw [h, List.reverse_append, List.reverse_cons, List.append_assoc, List.singleton_append]
  have hfind : members.reverse.find? (fun member => member.1.snakeCase = key.snakeCase)
      = some (key, value) := by
    refine List.find?_eq_some_iff_append.mpr ⟨by simp, after.reverse, before.reverse, hreverse, ?_⟩
    intro later hlater
    simpa using hlast later (List.mem_reverse.mp hlater)
  rw [named, hfind]
  rfl

/-! ## Parts at any depth -/

/-- One step into a value: to an item by its place, or to a member by its name. -/
inductive Step
  | item (place : Nat)
  | member (name : Text)

/-- The part of a value that a step leads to, where `find` says which member has a name. -/
def step? (find : List (Text × Json) → Text → Option Json) : Json → Step → Option Json
  | .arr items, .item place => items[place]?
  | .obj members, .member name => find members name
  | _, _ => none

/-- The part of a value that a path leads to. -/
def part? (find : List (Text × Json) → Text → Option Json) (x : Json) (path : List Step) :
    Option Json :=
  path.foldlM (step? find) x

theorem step?_withSnakeNames (x : Json) (step : Step) :
    step? Dictionary.get? x.withSnakeNames step = (step? named x step).map withSnakeNames := by
  cases x with
  | arr items =>
      rw [withSnakeNames_arr]
      cases step with
      | item place => exact List.getElem?_map ..
      | member name => rfl
  | obj members =>
      rw [withSnakeNames_obj]
      cases step with
      | item place => rfl
      | member name => exact get?_renamed members name
  | _ => rfl

/-- A path through the names in snake case leads to what a path through the last members of
these names leads to, renamed. -/
theorem part?_withSnakeNames (x : Json) (path : List Step) :
    part? Dictionary.get? x.withSnakeNames path = (part? named x path).map withSnakeNames := by
  induction path generalizing x with
  | nil => rfl
  | cons step path ih =>
      rw [part?, part?, List.foldlM_cons, List.foldlM_cons, step?_withSnakeNames]
      cases step? named x step with
      | none => rfl
      | some y => exact ih y

/-! ## Renaming again -/

theorem withSnakeNames_withSnakeNames (x : Json) :
    x.withSnakeNames.withSnakeNames = x.withSnakeNames := by
  induction x using inductionOn with
  | scalar x h => rw [withSnakeNames_of_isScalar h, withSnakeNames_of_isScalar h]
  | arr items ih =>
      rw [withSnakeNames_arr, withSnakeNames_arr, List.map_map]
      exact congrArg Json.arr (List.map_congr_left ih)
  | obj members ih =>
      have hmember : ∀ member ∈ renamed members,
          (member.1.snakeCase, member.2.withSnakeNames) = member := by
        intro member hmember
        obtain ⟨source, hsource, rfl⟩ := List.mem_map.mp (Dictionary.mem_of_mem_ofPairs hmember)
        rw [Text.snakeCase_snakeCase, ih source hsource]
      have hagain : renamed (renamed members) = renamed members := by
        rw [renamed, List.map_congr_left hmember, List.map_id']
        exact Dictionary.ofPairs_eq_self (nodup_renamed members)
      rw [withSnakeNames_obj, withSnakeNames_obj, hagain]

/-! ## Other spellings -/

/-- The second value is the first one with one name in it spelled in another way, at any depth. -/
inductive Respelled : Json → Json → Prop
  | name {key key' : Text} (h : key.snakeCase = key'.snakeCase) (value : Json)
      (before after : List (Text × Json)) :
      Respelled (.obj (before ++ (key, value) :: after)) (.obj (before ++ (key', value) :: after))
  | member (key : Text) {value value' : Json} (h : Respelled value value')
      (before after : List (Text × Json)) :
      Respelled (.obj (before ++ (key, value) :: after)) (.obj (before ++ (key, value') :: after))
  | item {item item' : Json} (h : Respelled item item') (before after : List Json) :
      Respelled (.arr (before ++ item :: after)) (.arr (before ++ item' :: after))

theorem renamed_congr {key key' : Text} {value value' : Json}
    (hkey : key.snakeCase = key'.snakeCase) (hvalue : value.withSnakeNames = value'.withSnakeNames)
    (before after : List (Text × Json)) :
    renamed (before ++ (key, value) :: after) = renamed (before ++ (key', value') :: after) := by
  simp only [renamed, List.map_append, List.map_cons, hkey, hvalue]

theorem Respelled.withSnakeNames_eq {x y : Json} (h : Respelled x y) :
    x.withSnakeNames = y.withSnakeNames := by
  induction h with
  | name h value before after =>
      rw [withSnakeNames_obj, withSnakeNames_obj, renamed_congr h rfl]
  | member key h before after ih =>
      rw [withSnakeNames_obj, withSnakeNames_obj, renamed_congr rfl ih]
  | item h before after ih =>
      rw [withSnakeNames_arr, withSnakeNames_arr, List.map_append, List.map_append, List.map_cons,
        List.map_cons, ih]

/-! ## The headline theorem -/

/-- A change of values that renames members into snake case: what it keeps, and what becomes of
names that fall together. -/
structure IsRenaming (rename : Json → Json) : Prop where
  scalar : ∀ x : Json, x.isScalar = true → rename x = x
  arr : ∀ items, rename (.arr items) = .arr (items.map rename)
  obj : ∀ members, ∃ members', rename (.obj members) = .obj members'
    ∧ (members'.map Prod.fst).Nodup
    ∧ (∀ name, name ∈ members'.map Prod.fst ↔ ∃ member ∈ members, member.1.snakeCase = name)
    ∧ ∀ before key value after, members = before ++ (key, value) :: after →
        (∀ later ∈ after, later.1.snakeCase ≠ key.snakeCase) →
          Dictionary.get? members' key.snakeCase = some (rename value)
  /-- The same at any depth. -/
  parts : ∀ x path, part? Dictionary.get? (rename x) path = (part? named x path).map rename
  again : ∀ x, rename (rename x) = rename x
  respelled : ∀ x y, Respelled x y → rename x = rename y

/-- **Putting names in snake case renames members**, at every depth, and does nothing else. The
last of the members that come to one name counts, a second time changes nothing, and of two
spellings of a name neither is preferred. -/
theorem withSnakeNames_isRenaming : IsRenaming withSnakeNames where
  scalar _ := withSnakeNames_of_isScalar
  arr := withSnakeNames_arr
  obj members := by
    refine ⟨renamed members, withSnakeNames_obj members, nodup_renamed members,
      fun name => mem_names_renamed_iff, fun before key value after h hlast => ?_⟩
    rw [get?_renamed, named_of_last h hlast, Option.map_some]
  parts := part?_withSnakeNames
  again := withSnakeNames_withSnakeNames
  respelled _ _ := Respelled.withSnakeNames_eq

/-- Two names fall together, in the place of the first and with the value of the last. A text that
looks like a name is none. -/
example :
    withSnakeNames (.obj [("osName", .bool true), ("fs", .obj [("caseSensitive", .null)]),
        ("os_name", .arr [.str "osName"])])
      = .obj [("os_name", .arr [.str "osName"]), ("fs", .obj [("case_sensitive", .null)])] := by
  rfl

end HostFacts.Json
