import HostFacts.Proofs.Dictionary
import HostFacts.Proofs.Snapshot.Detection

/-!
# Overrides replace their own fields

The snapshot under settings is the one that would be taken without overrides, with
the overridden fields replaced and all others as they were (`fields_override`). The
overrides decide neither whether a snapshot is taken nor how that fails, and the
other settings have no part in it but one. Of the environment little is looked at,
and less of what a variable says: environments that say the same (`SaysAlike`) make
the same snapshot (`observe_congr`).
-/

namespace HostFacts

/-! ## Overrides by name -/

namespace Overrides

/-- The fact of this name is overridden with this value. -/
inductive Sets (o : Overrides) : (name value : Text) → Prop
  | osName {v : Text} (h : o.osName = some v) : Sets o "os_name" v
  | osVersion {v : Text} (h : o.osVersion = some v) : Sets o "os_version" v
  | osArch {v : Text} (h : o.osArch = some v) : Sets o "os_arch" v
  | dataModel {m : DataModel} (h : o.dataModel = some m) : Sets o "arch_data_model" m.text
  | desktop {v : Text} (h : o.desktop = some v) : Sets o "desktop" v

theorem mem_pairs_iff {o : Overrides} {name value : Text} :
    (name, value) ∈ o.pairs ↔ o.Sets name value := by
  simp only [pairs, List.mem_filterMap, List.exists_mem_cons_iff, Option.map_eq_some_iff,
    Prod.mk.injEq]
  constructor
  · rintro (⟨v, h, rfl, rfl⟩ | ⟨v, h, rfl, rfl⟩ | ⟨v, h, rfl, rfl⟩ | ⟨v, ⟨m, h, rfl⟩, rfl, rfl⟩
      | ⟨v, h, rfl, rfl⟩ | ⟨_, hnone, -⟩)
    · exact .osName h
    · exact .osVersion h
    · exact .osArch h
    · exact .dataModel h
    · exact .desktop h
    · cases hnone
  · intro h
    cases h with
    | osName h => exact .inl ⟨_, h, rfl, rfl⟩
    | osVersion h => exact .inr (.inl ⟨_, h, rfl, rfl⟩)
    | osArch h => exact .inr (.inr (.inl ⟨_, h, rfl, rfl⟩))
    | dataModel h => exact .inr (.inr (.inr (.inl ⟨_, ⟨_, h, rfl⟩, rfl, rfl⟩)))
    | desktop h => exact .inr (.inr (.inr (.inr (.inl ⟨_, h, rfl, rfl⟩))))

/-- Names that have no value are left out, and the others keep their order. -/
theorem names_filterMap_sublist {α : Type} (name : α → Text) (values : List (α × Option Text)) :
    ((values.filterMap fun (a, value) => value.map fun v => (name a, v)).map Prod.fst).Sublist
      (values.map fun pair => name pair.1) := by
  induction values with
  | nil => exact .slnil
  | cons pair values ih =>
      obtain ⟨a, value⟩ := pair
      cases value with
      | none => exact ih.cons (name a)
      | some v => exact ih.cons_cons (name a)

theorem nodup_pairs (o : Overrides) : (o.pairs.map Prod.fst).Nodup := by
  have hnames : (["os_name", "os_version", "os_arch", "arch_data_model", "desktop"].map
      Text.ofString).Nodup := by decide
  exact (names_filterMap_sublist Text.ofString _).nodup hnames

theorem isEmpty_pairs_iff {o : Overrides} :
    o.pairs.isEmpty = true ↔ ∀ name value, ¬ o.Sets name value := by
  simp only [List.isEmpty_iff, List.eq_nil_iff_forall_not_mem, Prod.forall, mem_pairs_iff]

/-- The overrides as facts. -/
def facts (o : Overrides) : Dictionary Fact := o.pairs.map fun (name, value) => (name, .text value)

theorem names_facts (o : Overrides) : o.facts.map Prod.fst = o.pairs.map Prod.fst :=
  List.map_map ..

theorem nodup_facts (o : Overrides) : (o.facts.map Prod.fst).Nodup := by
  rw [names_facts]
  exact o.nodup_pairs

theorem get?_facts_of_sets {o : Overrides} {name value : Text} (h : o.Sets name value) :
    o.facts.get? name = some (.text value) :=
  (Dictionary.get?_eq_some_iff o.nodup_facts).mpr
    (List.mem_map.mpr ⟨(name, value), mem_pairs_iff.mpr h, rfl⟩)

theorem get?_facts_of_not_sets {o : Overrides} {name : Text} (h : ∀ value, ¬ o.Sets name value) :
    o.facts.get? name = none := by
  refine Option.eq_none_iff_forall_ne_some.mpr fun fact hsome => ?_
  obtain ⟨⟨name', value⟩, hmem, heq⟩ := List.mem_map.mp (Dictionary.mem_of_get?_eq_some hsome)
  obtain ⟨rfl, -⟩ := Prod.mk.inj heq
  exact h value (mem_pairs_iff.mp hmem)

end Overrides

/-- The settings with nothing overridden. -/
def Settings.withoutOverrides (settings : Settings) : Settings := { settings with overrides := {} }

/-! ## What the environment says -/

/-- The environments say the same of the desktop and of the menu bar. A variable that is empty says
no more than one that is absent, and the menu bar is asked for by one word alone. -/
structure Environment.SaysAlike (env env' : Environment) : Prop where
  current : env.nonEmpty? "XDG_CURRENT_DESKTOP" = env'.nonEmpty? "XDG_CURRENT_DESKTOP"
  session : env.nonEmpty? "DESKTOP_SESSION" = env'.nonEmpty? "DESKTOP_SESSION"
  fullSession : env.nonEmpty? "KDE_FULL_SESSION" = env'.nonEmpty? "KDE_FULL_SESSION"
  menuBar : env.get? "APPLE_LAF_USE_SCREEN_MENU_BAR" = some "true"
    ↔ env'.get? "APPLE_LAF_USE_SCREEN_MENU_BAR" = some "true"

/-- The empty text stands in for a value that is absent. -/
theorem Environment.get?_getD_nil (env : Environment) (name : Text) :
    (env.get? name).getD [] = (env.nonEmpty? name).getD [] := by
  rw [nonEmpty?]
  cases env.get? name with
  | none => rfl
  | some value => cases value <;> rfl

namespace Snapshot

theorem observe_congr {env env' : Environment} (h : env.SaysAlike env') (host : HostRecord)
    (caseSensitive : Option Bool) :
    observe host env caseSensitive = observe host env' caseSensitive := by
  have hdesktop : env.desktop = env'.desktop := by
    rw [Environment.desktop, Environment.desktop, h.current, h.session]
  have hsession : (env.get? "KDE_FULL_SESSION").getD [] = (env'.get? "KDE_FULL_SESSION").getD [] := by
    rw [Environment.get?_getD_nil, Environment.get?_getD_nil, h.fullSession]
  simp only [observe, hdesktop, hsession, h.menuBar]

/-! ## Fields -/

/-- To override facts is to overwrite their fields. -/
theorem fields_override (s : Snapshot) (o : Overrides) :
    (s.override o).fields = s.fields.overwrite o.facts := by
  -- once it is known which overrides there are, both sides are the same list
  obtain ⟨osName, osVersion, osArch, dataModel, desktop⟩ := o
  cases osName <;> cases osVersion <;> cases osArch <;> cases dataModel <;> cases desktop <;> rfl

/-- The fields of a snapshot are those of another, with the overridden ones replaced. -/
structure Replaces (base : Snapshot) (o : Overrides) (s : Snapshot) : Prop where
  names : s.fields.map Prod.fst = base.fields.map Prod.fst
  replaced : ∀ name value, o.Sets name value → s.fields.get? name = some (.text value)
  kept : ∀ name, (∀ value, ¬ o.Sets name value) → s.fields.get? name = base.fields.get? name

theorem replaces_override (s : Snapshot) (o : Overrides) : Replaces s o (s.override o) where
  names := rfl
  replaced name value h := by
    rw [fields_override, Dictionary.get?_overwrite o.nodup_facts, o.get?_facts_of_sets h]
    rfl
  kept name h := by
    rw [fields_override, Dictionary.get?_overwrite o.nodup_facts, o.get?_facts_of_not_sets h]
    rfl

/-! ## Taking a snapshot -/

variable {host : HostRecord} {env : Environment} {settings : Settings}

theorem override_nothing (s : Snapshot) : s.override {} = s := by
  obtain ⟨_, _, _, _, _, _, dataModel⟩ := s
  rfl

/-- Without overrides the snapshot is what is observed. -/
theorem detect_withoutOverrides (host : HostRecord) (env : Environment) (settings : Settings) :
    (detect host env settings.withoutOverrides).result
      = observe host env settings.caseSensitive := by
  rw [detect_result]
  show (observe host env settings.caseSensitive).map (·.override {}) = _
  simp only [override_nothing]
  cases observe host env settings.caseSensitive <;> rfl

theorem detect_messages {base : Snapshot}
    (h : observe host env settings.caseSensitive = .ok base) :
    (detect host env settings).messages = if settings.overrides.pairs.isEmpty then []
      else [⟨.info, "Applying fact overrides: " ++ settings.overrides.pairs.quoted⟩] := by
  unfold detect
  rw [h]
  show Attempt.messages (if _ then _ else _) = _
  cases settings.overrides.pairs.isEmpty <;> rfl

/-! ## The headline theorem -/

/-- What overrides do to the snapshot of a host, in an environment, and what has no influence. -/
structure OverridesOwn (host : HostRecord) (env : Environment) (settings : Settings) : Prop where
  fails : ∀ failure, (detect host env settings).result = .error failure
    ↔ (detect host env settings.withoutOverrides).result = .error failure
  /-- The record with the overrides put in its members passes the check, as the snapshot. -/
  replaces : ∀ base, (detect host env settings.withoutOverrides).result = .ok base →
    ∃ s, (detect host env settings).result = .ok s ∧ Replaces base settings.overrides s
      ∧ check (.obj (overrideMembers base.members settings.overrides)) = .accept s
  caseSensitive : ∀ s, (detect host env settings).result = .ok s →
    s.caseSensitive = settings.caseSensitive
  paths : ∀ releaseFile executableDirectory,
    detect host env { settings with releaseFile, executableDirectory } = detect host env settings
  alike : ∀ env', env.SaysAlike env' → detect host env' settings = detect host env settings
  /-- There is one message at most, of the overrides, wherever it is shown. -/
  logged : ∀ base, (detect host env settings.withoutOverrides).result = .ok base →
    ∀ shower : Environment, shower.showsMessages = true →
      ((∃ name value, settings.overrides.Sets name value) →
        shower.shown (detect host env settings).messages
          = ["[HostInfo] Applying fact overrides: " ++ settings.overrides.pairs.quoted])
      ∧ ((∀ name value, ¬ settings.overrides.Sets name value) →
        shower.shown (detect host env settings).messages = [])

/-- **Overrides replace their own fields**, and nothing else, whatever the host, the environment
and the settings are. -/
theorem detect_overridesOwn (host : HostRecord) (env : Environment) (settings : Settings) :
    OverridesOwn host env settings where
  fails failure := by
    rw [detect_withoutOverrides, detect_result]
    cases observe host env settings.caseSensitive with
    | error cause => exact Iff.rfl
    | ok base =>
        constructor
        · intro h
          cases h
        · intro h
          cases h
  replaces base h := by
    rw [detect_withoutOverrides] at h
    refine ⟨base.override settings.overrides, ?_, replaces_override base settings.overrides,
      check_overrideMembers base settings.overrides⟩
    rw [detect_result, h]
    rfl
  caseSensitive s h := by
    obtain ⟨version, -, rfl⟩ := detect_eq_ok_iff.mp h
    rfl
  paths releaseFile executableDirectory := rfl
  alike env' h := by
    rw [detect, detect, observe_congr h]
  logged base h shower hshows := by
    rw [detect_withoutOverrides] at h
    rw [detect_messages h, Environment.shown, if_pos hshows]
    constructor
    · rintro ⟨name, value, hsets⟩
      rw [if_neg fun hempty => Overrides.isEmpty_pairs_iff.mp hempty name value hsets]
      rfl
    · intro hnone
      rw [if_pos (Overrides.isEmpty_pairs_iff.mpr hnone)]
      rfl

end Snapshot

end HostFacts
