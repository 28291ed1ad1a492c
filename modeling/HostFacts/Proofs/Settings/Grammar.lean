import HostFacts.Settings.Check
import HostFacts.Proofs.Json.Names
import HostFacts.Proofs.Verdict

/-!
# The grammar of settings documents

What a settings document must look like and what it says, without the checks:
`Settings.Document` reads each field off the last member of its name, and
`Settings.Violated` names the fields that a document gets wrong. Each check of
a single value decides its part of the grammar and reports at most one
violation (`Checks`), and so does each field (`checkField_eq_accept_iff`,
`Checks.fields`).
-/

namespace HostFacts

open Json (named)

/-! ## Single values -/

namespace Grammar

/-- A path: a text that is not empty and has a UTF-8 form. -/
inductive PathText : Json → Text → Prop
  | intro {t : Text} (hne : t ≠ []) (hw : t.isWellFormed = true) : PathText (.str t) t

/-- Any text, also one with a surrogate in it. -/
inductive AnyText : Json → Text → Prop
  | intro (t : Text) : AnyText (.str t) t

/-- A name: a text with something in it besides white space. -/
inductive NameText : Json → Text → Prop
  | intro {t : Text} (h : t.isBlank = false) : NameText (.str t) t

inductive DataModelText : Json → DataModel → Prop
  | bits32 : DataModelText (.str "32") .bits32
  | bits64 : DataModelText (.str "64") .bits64

def noWords : List Text := ["0", "off", "f", "false", "n", "no"]

def yesWords : List Text := ["1", "on", "t", "true", "y", "yes"]

/-- A truth value, zero or one, or a word for it in capitals or small letters of ASCII. -/
inductive TruthValue : Json → Bool → Prop
  | bool (b : Bool) : TruthValue (.bool b) b
  | zero : TruthValue (.int 0) false
  | one : TruthValue (.int 1) true
  | floatZero {x : Float} (h : (x == 0) = true) : TruthValue (.float x) false
  | floatOne {x : Float} (h : (x == 0) = false) (hone : (x == 1) = true) :
      TruthValue (.float x) true
  | no {t : Text} (h : Verdict.lowerCapitals t ∈ noWords) : TruthValue (.str t) false
  | yes {t : Text} (h : Verdict.lowerCapitals t ∈ yesWords) : TruthValue (.str t) true

variable {α : Type}

/-- A value of the kind, or null. -/
inductive Nullable (reads : Json → α → Prop) : Json → Option α → Prop
  | null : Nullable reads .null none
  | value {j : Json} {a : α} (h : reads j a) : Nullable reads j (some a)

/-- What the value of a field says, and the default without one. -/
inductive Field (reads : Json → α → Prop) (default : α) : Option Json → α → Prop
  | absent : Field reads default none default
  | present {j : Json} {a : α} (h : reads j a) : Field reads default (some j) a

/-- There is a value, and it is not of the kind. -/
def Misfit (reads : Json → α → Prop) (field : Option Json) : Prop :=
  ∃ j, field = some j ∧ ∀ a, ¬ reads j a

end Grammar

open Grammar

/-! ## Documents -/

/-- An object with facts to report. -/
inductive Overrides.Document : Json → Overrides → Prop
  | intro {members : List (Text × Json)} {o : Overrides}
      (osName : Field (Nullable NameText) none (named members "os_name") o.osName)
      (osVersion : Field (Nullable NameText) none (named members "os_version") o.osVersion)
      (osArch : Field (Nullable AnyText) none (named members "os_arch") o.osArch)
      (dataModel :
        Field (Nullable DataModelText) none (named members "arch_data_model") o.dataModel)
      (desktop : Field (Nullable AnyText) none (named members "desktop") o.desktop) :
      Overrides.Document (.obj members) o

/-- An object with settings. -/
inductive Settings.Document : Json → Settings → Prop
  | intro {members : List (Text × Json)} {s : Settings}
      (releaseFile :
        Field PathText "/etc/os-release" (named members "os_release_path") s.releaseFile)
      (executableDirectory :
        Field PathText "/usr/bin" (named members "executable_dir") s.executableDirectory)
      (caseSensitive :
        Field (Nullable TruthValue) none (named members "case_sensitive_fs") s.caseSensitive)
      (overrides : Field Overrides.Document {} (named members "overrides") s.overrides) :
      Settings.Document (.obj members) s

/-! ## Violations -/

/-- The places at which an object with facts can go wrong, in order, the object itself first. -/
def Overrides.fieldPaths : List (List Text) :=
  [[], ["os_name"], ["os_version"], ["os_arch"], ["arch_data_model"], ["desktop"]]

/-- The places at which a settings document can go wrong, in order. -/
def Settings.fieldPaths : List (List Text) :=
  [] :: ["os_release_path"] :: ["executable_dir"] :: ["case_sensitive_fs"] ::
    Overrides.fieldPaths.map (("overrides" : Text) :: ·)

inductive Overrides.Violated : Json → List Text → Prop
  | record {j : Json} (h : ∀ members, j ≠ .obj members) : Overrides.Violated j []
  | osName {members : List (Text × Json)}
      (h : Misfit (Nullable NameText) (named members "os_name")) :
      Overrides.Violated (.obj members) ["os_name"]
  | osVersion {members : List (Text × Json)}
      (h : Misfit (Nullable NameText) (named members "os_version")) :
      Overrides.Violated (.obj members) ["os_version"]
  | osArch {members : List (Text × Json)}
      (h : Misfit (Nullable AnyText) (named members "os_arch")) :
      Overrides.Violated (.obj members) ["os_arch"]
  | dataModel {members : List (Text × Json)}
      (h : Misfit (Nullable DataModelText) (named members "arch_data_model")) :
      Overrides.Violated (.obj members) ["arch_data_model"]
  | desktop {members : List (Text × Json)}
      (h : Misfit (Nullable AnyText) (named members "desktop")) :
      Overrides.Violated (.obj members) ["desktop"]

/-- The document gets wrong what stands at this place. -/
inductive Settings.Violated : Json → List Text → Prop
  | record {j : Json} (h : ∀ members, j ≠ .obj members) : Settings.Violated j []
  | releaseFile {members : List (Text × Json)}
      (h : Misfit PathText (named members "os_release_path")) :
      Settings.Violated (.obj members) ["os_release_path"]
  | executableDirectory {members : List (Text × Json)}
      (h : Misfit PathText (named members "executable_dir")) :
      Settings.Violated (.obj members) ["executable_dir"]
  | caseSensitive {members : List (Text × Json)}
      (h : Misfit (Nullable TruthValue) (named members "case_sensitive_fs")) :
      Settings.Violated (.obj members) ["case_sensitive_fs"]
  | overrides {members : List (Text × Json)} {j : Json} {path : List Text}
      (hj : named members "overrides" = some j) (h : Overrides.Violated j path) :
      Settings.Violated (.obj members) ("overrides" :: path)

/-! ## Documents with the same fields -/

def Overrides.fieldNames : List Text :=
  ["os_name", "os_version", "os_arch", "arch_data_model", "desktop"]

inductive Overrides.SameFields : Json → Json → Prop
  | objects {members members' : List (Text × Json)}
      (h : ∀ name ∈ Overrides.fieldNames, named members name = named members' name) :
      Overrides.SameFields (.obj members) (.obj members')
  | others {j j' : Json} (h : ∀ members, j ≠ .obj members) (h' : ∀ members, j' ≠ .obj members) :
      Overrides.SameFields j j'

/-- The documents agree in all fields; what else their objects hold is left open. -/
inductive Settings.SameFields : Json → Json → Prop
  | objects {members members' : List (Text × Json)}
      (h : ∀ name ∈ (["os_release_path", "executable_dir", "case_sensitive_fs"] : List Text),
        named members name = named members' name)
      (ho : Option.Rel Overrides.SameFields (named members "overrides")
        (named members' "overrides")) :
      Settings.SameFields (.obj members) (.obj members')
  | others {j j' : Json} (h : ∀ members, j ≠ .obj members) (h' : ∀ members, j' ≠ .obj members) :
      Settings.SameFields j j'

/-! ## Checks of single values -/

namespace Grammar

variable {α : Type} {check : Json → Verdict α} {reads : Json → α → Prop}

/-- A verdict that has one thing to say at most. -/
def Single (v : Verdict α) : Prop := (∃ a, v = .accept a) ∨ ∃ kind, v = .fail kind

theorem Single.accept (a : α) : Single (.accept a) := .inl ⟨a, rfl⟩

theorem Single.fail (kind : Violation.Kind) : Single (.fail kind : Verdict α) := .inr ⟨kind, rfl⟩

theorem Single.proper {v : Verdict α} (h : Single v) : v.Proper := by
  rcases h with ⟨a, rfl⟩ | ⟨kind, rfl⟩
  · exact nofun
  · exact nofun

theorem Single.ite {p : Prop} [Decidable p] {v w : Verdict α} (hv : Single v) (hw : Single w) :
    Single (if p then v else w) := by
  split
  · exact hv
  · exact hw

/-- The check accepts what is of the kind, and has one thing to say of anything else. -/
structure Checks (check : Json → Verdict α) (reads : Json → α → Prop) : Prop where
  accept_iff : ∀ (j : Json) (a : α), check j.withSnakeNames = .accept a ↔ reads j a
  single : ∀ j : Json, Single (check j.withSnakeNames)

theorem fail_ne_accept {kind : Violation.Kind} {a : α} : Verdict.fail kind ≠ .accept a := nofun

theorem checks_text : Checks Verdict.text AnyText where
  accept_iff j a := by
    cases j with
    | str t => exact ⟨fun h => Verdict.accept.inj h ▸ .intro t, fun h => by cases h; rfl⟩
    | _ => exact ⟨nofun, nofun⟩
  single j := by
    cases j with
    | str t => exact .accept t
    | _ => exact .fail _

theorem checks_pathText : Checks Verdict.pathText PathText where
  accept_iff j a := by
    cases j with
    | str t =>
        simp only [Json.withSnakeNames, Verdict.pathText]
        constructor
        · intro h
          split at h
          · exact absurd h fail_ne_accept
          · rename_i hw
            split at h
            · exact absurd h fail_ne_accept
            · rename_i hne
              cases h
              exact .intro (by simpa using hne) (by simpa using hw)
        · rintro ⟨hne, hw⟩
          simp [hw, hne]
    | _ => exact ⟨nofun, nofun⟩
  single j := by
    cases j with
    | str t => exact .ite (.fail _) (.ite (.fail _) (.accept t))
    | _ => exact .fail _

theorem checks_nameText : Checks Verdict.nameText NameText where
  accept_iff j a := by
    cases j with
    | str t =>
        simp only [Json.withSnakeNames, Verdict.nameText]
        constructor
        · intro h
          split at h
          · exact absurd h fail_ne_accept
          · rename_i hb
            cases h
            exact .intro (Bool.eq_false_iff.mpr hb)
        · rintro ⟨hb⟩
          simp [hb]
    | _ => exact ⟨nofun, nofun⟩
  single j := by
    cases j with
    | str t => exact .ite (.fail _) (.accept t)
    | _ => exact .fail _

theorem checks_dataModel : Checks DataModel.check DataModelText where
  accept_iff j a := by
    cases j with
    | str t =>
        simp only [Json.withSnakeNames, DataModel.check]
        constructor
        · intro h
          split at h
          · exact absurd h fail_ne_accept
          · split at h
            · rename_i ht
              cases h
              exact ht ▸ .bits32
            · split at h
              · rename_i ht
                cases h
                exact ht ▸ .bits64
              · exact absurd h fail_ne_accept
        · rintro (_ | _) <;> rfl
    | _ => exact ⟨nofun, nofun⟩
  single j := by
    cases j with
    | str t => exact .ite (.fail _) (.ite (.accept _) (.ite (.accept _) (.fail _)))
    | _ => exact .fail _

theorem isWellFormed_lowerCapitals (t : Text) :
    (Verdict.lowerCapitals t).isWellFormed = t.isWellFormed := by
  unfold Verdict.lowerCapitals Text.isWellFormed
  rw [List.all_map]
  congr 1
  funext c
  cases c <;> rfl

/-- The words of both kinds make up the table that the check looks them up in. -/
theorem get?_truthSpellings (t : Text) (b : Bool) :
    Dictionary.get? Verdict.truthSpellings t = some b
      ↔ t ∈ if b then yesWords else noWords := by
  rw [Dictionary.get?_eq_some_iff (by decide)]
  cases b <;> simp [Verdict.truthSpellings, yesWords, noWords]

theorem isWellFormed_of_mem_words {t : Text} {b : Bool}
    (h : Verdict.lowerCapitals t ∈ if b then yesWords else noWords) : t.isWellFormed = true := by
  rw [← isWellFormed_lowerCapitals]
  have hall : ∀ word ∈ (if b then yesWords else noWords), word.isWellFormed = true := by
    cases b <;> decide
  exact hall _ h

theorem truthValue_str_iff (t : Text) (b : Bool) :
    TruthValue (.str t) b ↔ Verdict.lowerCapitals t ∈ if b then yesWords else noWords := by
  constructor
  · intro h
    cases h with
    | no h => exact h
    | yes h => exact h
  · intro h
    cases b with
    | false => exact .no h
    | true => exact .yes h

theorem checks_truthValue : Checks Verdict.truthValue TruthValue where
  accept_iff j a := by
    cases j with
    | bool b => exact ⟨fun h => Verdict.accept.inj h ▸ .bool b, fun h => by cases h; rfl⟩
    | int i =>
        simp only [Json.withSnakeNames, Verdict.truthValue]
        constructor
        · intro h
          split at h
          · rename_i hi
            cases h
            exact hi ▸ .zero
          · split at h
            · rename_i hi
              cases h
              exact hi ▸ .one
            · split at h <;> exact absurd h fail_ne_accept
        · rintro (_ | _ | _) <;> rfl
    | float x =>
        simp only [Json.withSnakeNames, Verdict.truthValue]
        constructor
        · intro h
          split at h
          · rename_i hx
            cases h
            exact .floatZero hx
          · rename_i hx
            split at h
            · rename_i hone
              cases h
              exact .floatOne (Bool.eq_false_iff.mpr hx) hone
            · split at h <;> exact absurd h fail_ne_accept
        · intro h
          cases h with
          | floatZero hx => rw [if_pos hx]
          | floatOne hx hone => rw [if_neg (by simp [hx]), if_pos hone]
    | str t =>
        rw [truthValue_str_iff]
        simp only [Json.withSnakeNames, Verdict.truthValue]
        constructor
        · intro h
          split at h
          · exact absurd h fail_ne_accept
          · split at h
            · rename_i hb
              cases h
              exact (get?_truthSpellings _ _).mp hb
            · exact absurd h fail_ne_accept
        · intro h
          rw [if_neg (by simp [isWellFormed_of_mem_words h]), (get?_truthSpellings _ _).mpr h]
    | _ => exact ⟨nofun, nofun⟩
  single j := by
    cases j with
    | bool b => exact .accept b
    | int i => exact .ite (.accept _) (.ite (.accept _) (.ite (.fail _) (.fail _)))
    | float x => exact .ite (.accept _) (.ite (.accept _) (.ite (.fail _) (.fail _)))
    | str t =>
        refine .ite (.fail _) ?_
        split
        · exact .accept _
        · exact .fail _
    | _ => exact .fail _

theorem optional_of_ne_null {j : Json} (h : j ≠ .null) :
    Verdict.optional check j.withSnakeNames = some <$> check j.withSnakeNames := by
  cases j with
  | null => exact absurd rfl h
  | _ => rfl

theorem Checks.optional (h : Checks check reads) (hnull : ∀ a, ¬ reads .null a) :
    Checks (Verdict.optional check) (Nullable reads) where
  accept_iff j a := by
    by_cases hj : j = .null
    · subst hj
      refine ⟨fun ha => Verdict.accept.inj ha ▸ .null, fun ha => ?_⟩
      cases ha with
      | null => rfl
      | value ha => exact absurd ha (hnull _)
    · rw [optional_of_ne_null hj, Verdict.map_eq_accept_iff]
      constructor
      · rintro ⟨b, hb, rfl⟩
        exact .value ((h.accept_iff j b).mp hb)
      · intro ha
        cases ha with
        | null => exact absurd rfl hj
        | @value _ b hb => exact ⟨b, (h.accept_iff j b).mpr hb, rfl⟩
  single j := by
    by_cases hj : j = .null
    · rw [hj]
      exact .accept none
    · rw [optional_of_ne_null hj]
      rcases h.single j with ⟨a, ha⟩ | ⟨kind, hkind⟩
      · rw [ha]
        exact .accept (some a)
      · rw [hkind]
        exact .fail kind

/-! ## Checks of fields -/

/-- The check of a field in an object as it was read. -/
def checkField (members : List (Text × Json)) (name : Text) (default : α)
    (check : Json → Verdict α) : Verdict α :=
  Verdict.member (Dictionary.ofPairs (Json.membersWithSnakeNames members)) name (pure default) check

variable {members : List (Text × Json)} {name : Text} {default : α}

theorem checkField_of_none (h : named members name = none) :
    checkField members name default check = .accept default := by
  rw [checkField, Verdict.member, Json.get?_withSnakeNames, h]
  rfl

theorem checkField_of_some {j : Json} (h : named members name = some j) :
    checkField members name default check = Verdict.under name (check j.withSnakeNames) := by
  rw [checkField, Verdict.member, Json.get?_withSnakeNames, h]
  rfl

theorem checkField_proper (h : ∀ j : Json, (check j.withSnakeNames).Proper) :
    (checkField members name default check).Proper := by
  cases hn : named members name with
  | none =>
      rw [checkField_of_none hn]
      exact nofun
  | some j =>
      rw [checkField_of_some hn]
      exact (h j).under name

theorem checkField_congr {members' : List (Text × Json)}
    (h : named members name = named members' name) (default : α) (check : Json → Verdict α) :
    checkField members name default check = checkField members' name default check := by
  rw [checkField, checkField, Verdict.member, Verdict.member, Json.get?_withSnakeNames,
    Json.get?_withSnakeNames, h]

theorem checkField_eq_accept_iff
    (h : ∀ (j : Json) (a : α), check j.withSnakeNames = .accept a ↔ reads j a)
    {a : α} :
    checkField members name default check = .accept a
      ↔ Field reads default (named members name) a := by
  cases hn : named members name with
  | none =>
      rw [checkField_of_none hn]
      exact ⟨fun ha => Verdict.accept.inj ha ▸ .absent, fun ha => by cases ha; rfl⟩
  | some j =>
      rw [checkField_of_some hn, Verdict.under_eq_accept_iff, h]
      refine ⟨.present, fun ha => ?_⟩
      cases ha with
      | present ha => exact ha

theorem Checks.proper (h : Checks check reads) : (checkField members name default check).Proper :=
  checkField_proper fun j => (h.single j).proper

/-- What is wrong with a field that may be of some kind, if anything, is the field itself. -/
theorem Checks.fields (h : Checks check reads) (members : List (Text × Json)) (name : Text)
    (default : α) :
    ((checkField members name default check).violations.map Violation.field).Sublist [[name]]
      ∧ ∀ path, path ∈ (checkField members name default check).violations.map Violation.field
        ↔ path = [name] ∧ Misfit reads (named members name) := by
  cases hn : named members name with
  | none =>
      rw [checkField_of_none hn]
      refine ⟨List.nil_sublist _, fun path => ⟨nofun, ?_⟩⟩
      rintro ⟨-, j, hj, -⟩
      cases hj
  | some j =>
      rw [checkField_of_some hn, Verdict.fields_under]
      rcases h.single j with ⟨a, ha⟩ | ⟨kind, hkind⟩
      · rw [ha]
        refine ⟨List.nil_sublist _, fun path => ⟨nofun, ?_⟩⟩
        rintro ⟨-, j', hj', hno⟩
        cases hj'
        exact absurd ((h.accept_iff j a).mp ha) (hno a)
      · rw [hkind]
        refine ⟨.refl _, fun path => ⟨fun hp => ⟨List.mem_singleton.mp hp, j, rfl, ?_⟩, ?_⟩⟩
        · intro a ha
          exact fail_ne_accept (hkind.symm.trans ((h.accept_iff j a).mpr ha))
        · rintro ⟨rfl, -⟩
          exact List.mem_singleton.mpr rfl

end Grammar

end HostFacts
