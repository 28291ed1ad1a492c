import HostFacts.Proofs.Command.Arguments
import HostFacts.Proofs.OsRelease.RoundTrip

/-!
# How options are written

An option goes by its long name or by its letter, and its value stands in the next
argument or behind it in the same one (`Spells`). However the options of a command
line are written and mixed, they are read in their order, each with its own value
(`CommandLine.read`): a value is not looked at, even if it has the form of an option.
-/

namespace HostFacts.Command

/-! ## Names -/

/-- A long name has two hyphens and something behind them, and no equals sign. -/
theorem longName_spec {name : Text} {flag : Flag} (h : Flag.ofLongName? name = some flag) :
    .scalar '=' ∉ name ∧ ∃ c rest, name = hyphen :: hyphen :: c :: rest := by
  have hall : ∀ pair ∈ Flag.longNames,
      .scalar '=' ∉ pair.1 ∧ hyphens <+: pair.1 ∧ 2 < pair.1.length := by decide
  have hmem := Dictionary.mem_of_get?_eq_some (d := Flag.longNames) h
  obtain ⟨hequals, ⟨behind, rfl⟩, hlength⟩ := hall _ hmem
  refine ⟨hequals, ?_⟩
  cases behind with
  | nil => simp [hyphens] at hlength
  | cons c rest => exact ⟨c, rest, rfl⟩

theorem letter_spec {c : CodePoint} {flag : Flag} (h : Flag.ofLetter? c = some flag) :
    c ≠ hyphen ∧ c ≠ .scalar '=' := by
  constructor
  · rintro rfl
    cases h
  · rintro rfl
    cases h

/-- An argument with a long name is read as an option, whatever is behind the name. -/
theorem readArgument_longName {name : Text} {flag : Flag}
    (h : Flag.ofLongName? name = some flag) (t : Text) :
    name ++ t ≠ hyphens ∧ readArgument (name ++ t) = readOption (name ++ t) := by
  obtain ⟨-, c, rest, rfl⟩ := longName_spec h
  refine ⟨fun heq => ?_, if_pos ?_⟩
  · cases heq
  · simp [isOption]

/-- An argument with a letter behind one hyphen is read as a cluster. -/
theorem readArgument_letter {c : CodePoint} {flag : Flag} (h : Flag.ofLetter? c = some flag)
    (rest : Text) :
    hyphen :: c :: rest ≠ hyphens
      ∧ readArgument (hyphen :: c :: rest) = readCluster (c :: rest) := by
  obtain ⟨hhyphen, hequals⟩ := letter_spec h
  have hcut : (Text.cut (.scalar '=') (hyphen :: c :: rest)).1
      = hyphen :: c :: (Text.cut (.scalar '=') rest).1 := by
    rw [Text.cut, if_neg (by decide), Text.cut, if_neg hequals]
  have hname : Flag.ofLongName? (hyphen :: c :: (Text.cut (.scalar '=') rest).1) = none := by
    refine Option.eq_none_iff_forall_ne_some.mpr fun flag' hsome => ?_
    obtain ⟨-, c', rest', heq⟩ := longName_spec hsome
    exact hhyphen (List.cons.inj (List.cons.inj heq).2).1
  have hprefix : hyphens.isPrefixOf (hyphen :: c :: rest) = false := by
    simp [hyphens, List.isPrefixOf, Ne.symm hhyphen]
  refine ⟨fun heq => hhyphen (List.cons.inj (List.cons.inj heq).2).1, ?_⟩
  rw [readArgument, if_pos (by simp [isOption]), readOption]
  simp only [hcut, hname, hprefix]
  rfl

/-! ## Items -/

/-- The arguments that an item may be written as. -/
inductive Spells : (item : Item) → (part : List Text) → Prop
  | switch {name : Text} {s : Switch} (h : Flag.ofLongName? name = some (.switch s)) :
      Spells (.switch s) [name]
  | setting {name : Text} {s : Setting} (h : Flag.ofLongName? name = some (.setting s))
      (value : Text) : Spells (.setting s value) [name, value]
  | joined {name : Text} {s : Setting} (h : Flag.ofLongName? name = some (.setting s))
      (value : Text) : Spells (.setting s value) [name ++ .scalar '=' :: value]
  | letterSwitch {c : CodePoint} {s : Switch} (h : Flag.ofLetter? c = some (.switch s)) :
      Spells (.switch s) [[hyphen, c]]
  | letterSetting {c : CodePoint} {s : Setting} (h : Flag.ofLetter? c = some (.setting s))
      (value : Text) : Spells (.setting s value) [[hyphen, c], value]
  | letterJoined {c : CodePoint} {s : Setting} (h : Flag.ofLetter? c = some (.setting s))
      {value : Text} (hne : value ≠ []) : Spells (.setting s value) [hyphen :: c :: value]

theorem readArgument_name {name : Text} {flag : Flag} (h : Flag.ofLongName? name = some flag) :
    name ≠ hyphens ∧ readArgument name = match flag with
      | .switch s => .ok ⟨[.switch s], none⟩
      | .setting s => .ok ⟨[], some (s, name)⟩ := by
  obtain ⟨hoption, hread⟩ := readArgument_longName h []
  rw [List.append_nil] at hoption hread
  refine ⟨hoption, ?_⟩
  rw [hread, readOption, Text.cut_of_notMem (longName_spec h).1]
  cases flag <;> simp only [h]

theorem Spells.read {item : Item} {part : List Text} (h : Spells item part)
    (arguments : List Text) :
    readArguments (part ++ arguments) = (readArguments arguments).map (item :: ·) := by
  cases h with
  | switch h =>
      obtain ⟨hoption, hread⟩ := readArgument_name h
      exact readArguments_switch hoption hread arguments
  | setting h value =>
      obtain ⟨hoption, hread⟩ := readArgument_name h
      exact readArguments_setting hoption hread value arguments
  | @joined name s h value =>
      obtain ⟨hoption, hread⟩ := readArgument_longName h (.scalar '=' :: value)
      have hitem : readArgument (name ++ .scalar '=' :: value)
          = .ok ⟨[.setting s value], none⟩ := by
        rw [hread, readOption, Text.cut_append (longName_spec h).1]
        simp only [h]
      exact readArguments_of_reading hoption hitem arguments
  | letterSwitch h =>
      obtain ⟨hoption, hread⟩ := readArgument_letter h []
      refine readArguments_switch hoption ?_ arguments
      rw [hread, readCluster]
      simp only [h]
      rfl
  | letterSetting h value =>
      obtain ⟨hoption, hread⟩ := readArgument_letter h []
      refine readArguments_setting hoption ?_ value arguments
      rw [hread, readCluster]
      simp only [h]
      rfl
  | @letterJoined c s h value hne =>
      obtain ⟨hoption, hread⟩ := readArgument_letter h value
      have hitem : readArgument (hyphen :: c :: value) = .ok ⟨[.setting s value], none⟩ := by
        rw [hread, readCluster]
        simp [h, hne]
      exact readArguments_of_reading hoption hitem arguments

/-! ## Command lines -/

/-- The items are written one after another, each in a way of its own. -/
inductive CommandLine : (items : List Item) → (arguments : List Text) → Prop
  | nil : CommandLine [] []
  | cons {item : Item} {part : List Text} {items : List Item} {arguments : List Text}
      (h : Spells item part) (hrest : CommandLine items arguments) :
      CommandLine (item :: items) (part ++ arguments)

/-- Items are read as they were meant, in their order. -/
theorem CommandLine.read {items : List Item} {arguments : List Text}
    (h : CommandLine items arguments) : readArguments arguments = .ok items := by
  induction h with
  | nil => rfl
  | cons h _ ih => rw [h.read, ih]; rfl

end HostFacts.Command
