import HostFacts.Command.Run

/-!
# Command lines that differ in an option

An argument in front of others adds its own items to what is read of them, whatever
they are (`readArguments_of_reading`, `readArguments_of_pending`). Items that ask
for neither help nor version change the options of a request and nothing else
(`ofItems_mapOptions`), so that two command lines come to the same if their reports
do for all options that can be read (`run_congr_of_request`).
-/

namespace HostFacts.Command

/-! ## Arguments in front -/

theorem readArguments_of_reading {argument : Text} {items : List Item}
    (hoption : argument ≠ hyphens) (hread : readArgument argument = .ok ⟨items, none⟩)
    (arguments : List Text) :
    readArguments (argument :: arguments) = (readArguments arguments).map (items ++ ·) := by
  rw [readArguments, if_neg hoption, hread]

/-- The value of an option is not looked at. -/
theorem readArguments_of_pending {argument name : Text} {items : List Item} {s : Setting}
    (hoption : argument ≠ hyphens) (hread : readArgument argument = .ok ⟨items, some (s, name)⟩)
    (value : Text) (arguments : List Text) :
    readArguments (argument :: value :: arguments)
      = (readArguments arguments).map (items ++ .setting s value :: ·) := by
  rw [readArguments, if_neg hoption, hread]

theorem readArguments_switch {name : Text} {s : Switch} (hoption : name ≠ hyphens)
    (hread : readArgument name = .ok ⟨[.switch s], none⟩) (arguments : List Text) :
    readArguments (name :: arguments) = (readArguments arguments).map (.switch s :: ·) :=
  readArguments_of_reading hoption hread arguments

theorem readArguments_setting {name : Text} {s : Setting} (hoption : name ≠ hyphens)
    (hread : readArgument name = .ok ⟨[], some (s, name)⟩) (value : Text)
    (arguments : List Text) :
    readArguments (name :: value :: arguments)
      = (readArguments arguments).map (.setting s value :: ·) :=
  readArguments_of_pending hoption hread value arguments

/-! ## Requests with other options -/

def Request.mapOptions (change : Options → Options) : Request → Request
  | .report o => .report (change o)
  | request => request

theorem request?_eq_some {item : Item} {request : Request} (h : item.request? = some request) :
    request = .help ∨ request = .version := by
  unfold Item.request? at h
  split at h
  · exact .inl (Option.some.inj h).symm
  · exact .inr (Option.some.inj h).symm
  · cases h

theorem ofItems_mapOptions {items items' : List Item} {change : Options → Options}
    (hfirst : items'.findSome? Item.request? = items.findSome? Item.request?)
    (hoptions : Options.ofItems items' = change (.ofItems items)) :
    Request.ofItems items' = (Request.ofItems items).mapOptions change := by
  rw [Request.ofItems, Request.ofItems, hfirst, hoptions]
  cases hrequest : items.findSome? Item.request? with
  | none => rfl
  | some request =>
      obtain ⟨item, -, hitem⟩ := List.exists_of_findSome?_eq_some hrequest
      rcases request?_eq_some hitem with rfl | rfl
      · rfl
      · rfl

/-- Runs of two command lines, the second of which asks for the same with other options, are the
same as far as their reports are. -/
theorem run_congr_of_request {w w' : World} {arguments arguments' : List Text}
    {change : Options → Options}
    (hrequest : Request.ofArguments arguments'
      = (Request.ofArguments arguments).map (·.mapOptions change))
    (hreport : ∀ o, Request.ofArguments arguments = .ok (.report o) →
      (runReport w' (change o)).output = (runReport w o).output
        ∧ (runReport w' (change o)).ending = (runReport w o).ending) :
    (run w' arguments').output = (run w arguments).output
      ∧ (run w' arguments').ending = (run w arguments).ending := by
  rw [run, run, hrequest]
  cases hrequest' : Request.ofArguments arguments with
  | error e => exact ⟨rfl, rfl⟩
  | ok request =>
      cases request with
      | help | version => exact ⟨rfl, rfl⟩
      | report o => exact hreport o hrequest'

end HostFacts.Command
