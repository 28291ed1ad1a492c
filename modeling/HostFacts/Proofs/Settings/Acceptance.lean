import HostFacts.Settings.Loading
import HostFacts.Proofs.Settings.Grammar

/-!
# Which documents are accepted

The check of a settings document decides the grammar: it accepts just the
documents, with the settings that they say, and of all others it tells the
places that are wrong, each once and in order. Members that are no fields do
not count. Names may hold any text that is not blank, surrogates included;
only paths and words must have a UTF-8 form (`ofJson_loneSurrogate`).
-/

namespace HostFacts

open Json (named)
open Grammar

/-! ## Facts to report -/

namespace Overrides

theorem check_obj (members : List (Text × Json)) :
    check (Json.obj members).withSnakeNames
      = Overrides.mk
        <$> checkField members "os_name" none (.optional .nameText)
        <*> checkField members "os_version" none (.optional .nameText)
        <*> checkField members "os_arch" none (.optional .text)
        <*> checkField members "arch_data_model" none (.optional DataModel.check)
        <*> checkField members "desktop" none (.optional .text) := rfl

theorem check_not_obj {j : Json} (h : ∀ members, j ≠ .obj members) :
    check j.withSnakeNames = .fail (.notRecord "FactOverrides") := by
  cases j with
  | obj members => exact absurd rfl (h members)
  | _ => rfl

theorem checks_name : Checks (.optional .nameText) (Nullable NameText) :=
  checks_nameText.optional nofun

theorem checks_any : Checks (.optional .text) (Nullable AnyText) :=
  checks_text.optional nofun

theorem checks_model : Checks (.optional DataModel.check) (Nullable DataModelText) :=
  checks_dataModel.optional nofun

theorem check_eq_accept_iff (j : Json) (o : Overrides) :
    check j.withSnakeNames = .accept o ↔ Document j o := by
  cases j with
  | obj members =>
      simp only [check_obj, Verdict.seq_eq_accept_iff, Verdict.map_eq_accept_iff,
        checkField_eq_accept_iff checks_name.accept_iff,
        checkField_eq_accept_iff checks_any.accept_iff,
        checkField_eq_accept_iff checks_model.accept_iff]
      constructor
      · rintro ⟨_, desktop, ⟨_, dataModel, ⟨_, osArch, ⟨_, osVersion, ⟨osName, h₁, rfl⟩, h₂, rfl⟩,
          h₃, rfl⟩, h₄, rfl⟩, h₅, rfl⟩
        exact .intro h₁ h₂ h₃ h₄ h₅
      · rintro ⟨h₁, h₂, h₃, h₄, h₅⟩
        exact ⟨_, _, ⟨_, _, ⟨_, _, ⟨_, _, ⟨_, h₁, rfl⟩, h₂, rfl⟩, h₃, rfl⟩, h₄, rfl⟩, h₅, rfl⟩
  | _ => exact ⟨nofun, nofun⟩

theorem violated_obj_iff {members : List (Text × Json)} {path : List Text} :
    Violated (.obj members) path
      ↔ path = [("os_name" : Text)] ∧ Misfit (Nullable NameText) (named members "os_name")
      ∨ path = [("os_version" : Text)] ∧ Misfit (Nullable NameText) (named members "os_version")
      ∨ path = [("os_arch" : Text)] ∧ Misfit (Nullable AnyText) (named members "os_arch")
      ∨ path = [("arch_data_model" : Text)]
        ∧ Misfit (Nullable DataModelText) (named members "arch_data_model")
      ∨ path = [("desktop" : Text)] ∧ Misfit (Nullable AnyText) (named members "desktop") := by
  constructor
  · intro h
    cases h with
    | record h => exact absurd rfl (h members)
    | osName h => exact .inl ⟨rfl, h⟩
    | osVersion h => exact .inr (.inl ⟨rfl, h⟩)
    | osArch h => exact .inr (.inr (.inl ⟨rfl, h⟩))
    | dataModel h => exact .inr (.inr (.inr (.inl ⟨rfl, h⟩)))
    | desktop h => exact .inr (.inr (.inr (.inr ⟨rfl, h⟩)))
  · rintro (⟨rfl, h⟩ | ⟨rfl, h⟩ | ⟨rfl, h⟩ | ⟨rfl, h⟩ | ⟨rfl, h⟩)
    · exact .osName h
    · exact .osVersion h
    · exact .osArch h
    · exact .dataModel h
    · exact .desktop h

/-- The places at which something is wrong are told in order. -/
theorem fields_check (j : Json) :
    ((check j.withSnakeNames).violations.map Violation.field).Sublist fieldPaths
      ∧ ∀ path, path ∈ (check j.withSnakeNames).violations.map Violation.field
        ↔ Violated j path := by
  by_cases hj : ∃ members, j = .obj members
  · obtain ⟨members, rfl⟩ := hj
    obtain ⟨hsub₁, hmem₁⟩ := checks_name.fields members "os_name" none
    obtain ⟨hsub₂, hmem₂⟩ := checks_name.fields members "os_version" none
    obtain ⟨hsub₃, hmem₃⟩ := checks_any.fields members "os_arch" none
    obtain ⟨hsub₄, hmem₄⟩ := checks_model.fields members "arch_data_model" none
    obtain ⟨hsub₅, hmem₅⟩ := checks_any.fields members "desktop" none
    rw [check_obj]
    simp only [Verdict.violations_seq, Verdict.violations_map, List.map_append, List.mem_append,
      hmem₁, hmem₂, hmem₃, hmem₄, hmem₅, violated_obj_iff, or_assoc, implies_true, and_true]
    exact .cons _ ((((hsub₁.append hsub₂).append hsub₃).append hsub₄).append hsub₅)
  · have hno : ∀ members, j ≠ .obj members := fun members h => hj ⟨members, h⟩
    rw [check_not_obj hno]
    refine ⟨(List.nil_sublist _).cons_cons _, fun path => ⟨fun h => ?_, fun h => ?_⟩⟩
    · obtain rfl := List.mem_singleton.mp h
      exact .record hno
    · cases h with
      | record => exact List.mem_singleton.mpr rfl
      | _ => exact absurd rfl (hno _)

theorem check_proper (j : Json) : (check j.withSnakeNames).Proper := by
  cases j with
  | obj members =>
      rw [check_obj]
      exact ((((checks_name.proper.map _).seq checks_name.proper).seq checks_any.proper).seq
        checks_model.proper).seq checks_any.proper
  | _ => exact nofun

theorem check_congr {j j' : Json} (h : SameFields j j') :
    check j.withSnakeNames = check j'.withSnakeNames := by
  cases h with
  | objects h =>
      rw [check_obj, check_obj, checkField_congr (h "os_name" (by decide)),
        checkField_congr (h "os_version" (by decide)), checkField_congr (h "os_arch" (by decide)),
        checkField_congr (h "arch_data_model" (by decide)),
        checkField_congr (h "desktop" (by decide))]
  | others h h' => rw [check_not_obj h, check_not_obj h']

end Overrides

/-! ## Settings -/

namespace Settings

theorem check_obj (members : List (Text × Json)) :
    check (Json.obj members).withSnakeNames
      = Settings.mk
        <$> checkField members "os_release_path" ({} : Settings).releaseFile .pathText
        <*> checkField members "executable_dir" ({} : Settings).executableDirectory .pathText
        <*> checkField members "case_sensitive_fs" none (.optional .truthValue)
        <*> checkField members "overrides" {} Overrides.check := rfl

theorem check_not_obj {j : Json} (h : ∀ members, j ≠ .obj members) :
    check j.withSnakeNames = .fail (.notRecord modelName) := by
  cases j with
  | obj members => exact absurd rfl (h members)
  | _ => rfl

theorem checks_truth : Checks (.optional .truthValue) (Nullable TruthValue) :=
  checks_truthValue.optional nofun

theorem check_eq_accept_iff (j : Json) (s : Settings) :
    check j.withSnakeNames = .accept s ↔ Document j s := by
  cases j with
  | obj members =>
      simp only [check_obj, Verdict.seq_eq_accept_iff, Verdict.map_eq_accept_iff,
        checkField_eq_accept_iff checks_pathText.accept_iff,
        checkField_eq_accept_iff checks_truth.accept_iff,
        checkField_eq_accept_iff Overrides.check_eq_accept_iff]
      constructor
      · rintro ⟨_, _, ⟨_, _, ⟨_, _, ⟨_, h₁, rfl⟩, h₂, rfl⟩, h₃, rfl⟩, h₄, rfl⟩
        exact .intro h₁ h₂ h₃ h₄
      · rintro ⟨h₁, h₂, h₃, h₄⟩
        exact ⟨_, _, ⟨_, _, ⟨_, _, ⟨_, h₁, rfl⟩, h₂, rfl⟩, h₃, rfl⟩, h₄, rfl⟩
  | _ => exact ⟨nofun, nofun⟩

theorem violated_obj_iff {members : List (Text × Json)} {path : List Text} :
    Violated (.obj members) path
      ↔ path = [("os_release_path" : Text)] ∧ Misfit PathText (named members "os_release_path")
      ∨ path = [("executable_dir" : Text)] ∧ Misfit PathText (named members "executable_dir")
      ∨ path = [("case_sensitive_fs" : Text)]
        ∧ Misfit (Nullable TruthValue) (named members "case_sensitive_fs")
      ∨ ∃ j inner, named members "overrides" = some j ∧ Overrides.Violated j inner
        ∧ ("overrides" : Text) :: inner = path := by
  constructor
  · intro h
    cases h with
    | record h => exact absurd rfl (h members)
    | releaseFile h => exact .inl ⟨rfl, h⟩
    | executableDirectory h => exact .inr (.inl ⟨rfl, h⟩)
    | caseSensitive h => exact .inr (.inr (.inl ⟨rfl, h⟩))
    | overrides hj h => exact .inr (.inr (.inr ⟨_, _, hj, h, rfl⟩))
  · rintro (⟨rfl, h⟩ | ⟨rfl, h⟩ | ⟨rfl, h⟩ | ⟨j, inner, hj, h, rfl⟩)
    · exact .releaseFile h
    · exact .executableDirectory h
    · exact .caseSensitive h
    · exact .overrides hj h

theorem fields_overrides (members : List (Text × Json)) :
    ((checkField members "overrides" {} Overrides.check).violations.map Violation.field).Sublist
        (Overrides.fieldPaths.map (("overrides" : Text) :: ·))
      ∧ ∀ path, path
          ∈ (checkField members "overrides" {} Overrides.check).violations.map Violation.field
        ↔ ∃ j inner, named members "overrides" = some j ∧ Overrides.Violated j inner
          ∧ ("overrides" : Text) :: inner = path := by
  cases hn : named members "overrides" with
  | none =>
      rw [checkField_of_none hn]
      refine ⟨List.nil_sublist _, fun path => ⟨nofun, ?_⟩⟩
      rintro ⟨j, inner, hj, -⟩
      cases hj
  | some j =>
      obtain ⟨hsub, hmem⟩ := Overrides.fields_check j
      rw [checkField_of_some hn, Verdict.fields_under]
      refine ⟨hsub.map _, fun path => ?_⟩
      simp only [List.mem_map (f := (("overrides" : Text) :: ·)), hmem, Option.some.injEq]
      exact ⟨fun ⟨inner, hv, hp⟩ => ⟨j, inner, rfl, hv, hp⟩,
        fun ⟨_, inner, hj, hv, hp⟩ => ⟨inner, hj ▸ hv, hp⟩⟩

theorem fields_check (j : Json) :
    ((check j.withSnakeNames).violations.map Violation.field).Sublist fieldPaths
      ∧ ∀ path, path ∈ (check j.withSnakeNames).violations.map Violation.field
        ↔ Violated j path := by
  by_cases hj : ∃ members, j = .obj members
  · obtain ⟨members, rfl⟩ := hj
    obtain ⟨hsub₁, hmem₁⟩ := checks_pathText.fields members "os_release_path"
      ({} : Settings).releaseFile
    obtain ⟨hsub₂, hmem₂⟩ := checks_pathText.fields members "executable_dir"
      ({} : Settings).executableDirectory
    obtain ⟨hsub₃, hmem₃⟩ := checks_truth.fields members "case_sensitive_fs" none
    obtain ⟨hsub₄, hmem₄⟩ := fields_overrides members
    rw [check_obj]
    simp only [Verdict.violations_seq, Verdict.violations_map, List.map_append, List.mem_append,
      hmem₁, hmem₂, hmem₃, hmem₄, violated_obj_iff, or_assoc, implies_true, and_true]
    exact .cons _ (((hsub₁.append hsub₂).append hsub₃).append hsub₄)
  · have hno : ∀ members, j ≠ .obj members := fun members h => hj ⟨members, h⟩
    rw [check_not_obj hno]
    refine ⟨(List.nil_sublist _).cons_cons _, fun path => ⟨fun h => ?_, fun h => ?_⟩⟩
    · obtain rfl := List.mem_singleton.mp h
      exact .record hno
    · cases h with
      | record => exact List.mem_singleton.mpr rfl
      | _ => exact absurd rfl (hno _)

theorem check_congr {j j' : Json} (h : SameFields j j') :
    check j.withSnakeNames = check j'.withSnakeNames := by
  cases h with
  | @objects members members' h ho =>
      have hoverrides : checkField members "overrides" {} Overrides.check
          = checkField members' "overrides" {} Overrides.check := by
        cases hn : named members "overrides" with
        | none =>
            cases hn' : named members' "overrides" with
            | none => rw [checkField_of_none hn, checkField_of_none hn']
            | some j' => rw [hn, hn'] at ho; cases ho
        | some j =>
            cases hn' : named members' "overrides" with
            | none => rw [hn, hn'] at ho; cases ho
            | some j' =>
                rw [hn, hn'] at ho
                cases ho with
                | some ho =>
                    rw [checkField_of_some hn, checkField_of_some hn', Overrides.check_congr ho]
      rw [check_obj, check_obj, checkField_congr (h "os_release_path" (by decide)),
        checkField_congr (h "executable_dir" (by decide)),
        checkField_congr (h "case_sensitive_fs" (by decide)), hoverrides]
  | others h h' => rw [check_not_obj h, check_not_obj h']

theorem nodup_fieldPaths : fieldPaths.Nodup := by decide

theorem check_proper (j : Json) : (check j.withSnakeNames).Proper := by
  cases j with
  | obj members =>
      rw [check_obj]
      exact (((checks_pathText.proper.map _).seq checks_pathText.proper).seq
        checks_truth.proper).seq (checkField_proper Overrides.check_proper)
  | _ => exact nofun

/-! ## From values and texts -/

theorem ofJson_eq_ok_iff {j : Json} {s : Settings} : ofJson j = .ok s ↔ Document j s := by
  rw [← check_eq_accept_iff, ofJson]
  cases check j.withSnakeNames with
  | accept s' =>
      exact ⟨fun h => congrArg _ (Except.ok.inj h), fun h => congrArg _ (Verdict.accept.inj h)⟩
  | reject violations => exact ⟨nofun, nofun⟩

theorem ofText_eq_ok_iff {t : Text} {s : Settings} :
    ofText t = .ok s ↔ ∃ j, Json.read t = .ok j ∧ Document j s := by
  unfold ofText
  cases Json.read t with
  | ok j =>
      show ofJson j = .ok s ↔ _
      rw [ofJson_eq_ok_iff]
      exact ⟨fun h => ⟨j, rfl, h⟩, fun ⟨_, hj, h⟩ => Except.ok.inj hj ▸ h⟩
  | error refusal => exact ⟨nofun, fun ⟨_, hj, _⟩ => nomatch hj⟩

/-! ## The headline theorem -/

/-- What the result of reading a document says about it. -/
structure Judges (j : Json) (result : Except Failure Settings) : Prop where
  /-- The settings that the document says. -/
  ok_iff : ∀ s, result = .ok s ↔ Document j s
  error_iff : (∃ failure, result = .error failure) ↔ ∃ path, Violated j path
  /-- A refusal tells the places that are wrong, each once and in order. -/
  refusal : ∀ failure, result = .error failure → ∃ violations,
    failure = .invalid modelName violations
      ∧ (violations.map Violation.field).Sublist fieldPaths
      ∧ (violations.map Violation.field).Nodup
      ∧ ∀ path, path ∈ violations.map Violation.field ↔ Violated j path
  /-- Nothing but the fields counts. -/
  fields_only : ∀ j', SameFields j j' → ofJson j' = result

/-- **Acceptance.** Reading a document decides the grammar of settings. -/
theorem ofJson_judges (j : Json) : Judges j (ofJson j) := by
  obtain ⟨hsub, hmem⟩ := fields_check j
  have hothers : ∀ j', SameFields j j' → ofJson j' = ofJson j := fun j' h => by
    rw [ofJson, ofJson, check_congr h]
  cases hc : check j.withSnakeNames with
  | accept s =>
      have hresult : ofJson j = .ok s := by
        rw [ofJson, hc]
        rfl
      rw [hc] at hmem
      rw [hresult] at hothers ⊢
      refine ⟨fun s' => hresult ▸ ofJson_eq_ok_iff, ⟨nofun, ?_⟩, nofun, hothers⟩
      rintro ⟨path, hpath⟩
      exact absurd ((hmem path).mpr hpath) List.not_mem_nil
  | reject faults =>
      have hresult : ofJson j = .error (.invalid modelName faults) := by
        rw [ofJson, hc]
        rfl
      have hproper := check_proper j
      rw [hc] at hmem hsub hproper
      rw [hresult] at hothers ⊢
      refine ⟨fun s => hresult ▸ ofJson_eq_ok_iff, ⟨fun _ => ?_, fun _ => ⟨_, rfl⟩⟩, ?_, hothers⟩
      · cases faults with
        | nil => exact absurd rfl hproper
        | cons fault faults => exact ⟨fault.field, (hmem _).mp (List.mem_cons_self ..)⟩
      · rintro _ ⟨⟩
        exact ⟨faults, rfl, hsub, hsub.nodup nodup_fieldPaths, hmem⟩

/-- A text with a surrogate is a name like any other, though it has no UTF-8 form. -/
theorem ofJson_loneSurrogate :
    ofJson (.obj [("overrides", .obj [("desktop", .str [.surrogate 0])])])
        = .ok { overrides := { desktop := some [.surrogate 0] } }
      ∧ Text.isWellFormed [.surrogate 0] = false := by
  refine ⟨?_, rfl⟩
  rfl

end Settings

end HostFacts
