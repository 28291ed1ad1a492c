import HostFacts.Proofs.Json.RoundTrip
import HostFacts.Proofs.Settings.Acceptance
import HostFacts.Proofs.Text.SnakeCase

/-!
# Settings written down and loaded again

Settings may be written as a JSON object in many ways: the members in any
order, each name in snake or in camel case, and what is unset as `null` or not
at all (`Settings.Writes`). Whichever it is, the object is a document of the
settings (`Settings.IsValid.document`), and since its text reads back as the
object, loading the text gives the settings (`loadText_write`).
-/

namespace HostFacts

open Json (named)
open Grammar

/-! ## Names in camel case -/

/-- A name in snake case with its words run together, each but the first with a capital. -/
def Text.camelCase : Text → Text
  | .scalar '_' :: c :: t => c.capital :: camelCase t
  | c :: t => c :: camelCase t
  | [] => []

/-- The name has two spellings, in snake and in camel case, which are one name to the reader. -/
structure HasSpellings (name : Text) : Prop where
  snake : name.snakeCase = name
  camel : name.camelCase.snakeCase = name
  joined : name.isJoined = true
  joined_camel : name.camelCase.isJoined = true

instance (name : Text) : Decidable (HasSpellings name) :=
  decidable_of_iff (name.snakeCase = name ∧ name.camelCase.snakeCase = name
      ∧ name.isJoined = true ∧ name.camelCase.isJoined = true)
    ⟨fun ⟨h₁, h₂, h₃, h₄⟩ => ⟨h₁, h₂, h₃, h₄⟩, fun ⟨h₁, h₂, h₃, h₄⟩ => ⟨h₁, h₂, h₃, h₄⟩⟩

/-! ## Fields written down -/

/-- The members that write the fields down, in order: each name in one of its spellings, and
a field that is unset as null or not at all. -/
inductive Spelled : List (Text × Json) → List (Text × Json) → Prop
  | nil : Spelled [] []
  | omitted (name : Text) {fields members : List (Text × Json)} (h : Spelled fields members) :
      Spelled ((name, .null) :: fields) members
  | written {name key : Text} (hkey : key = name ∨ key = name.camelCase) (value : Json)
      {fields members : List (Text × Json)} (h : Spelled fields members) :
      Spelled ((name, value) :: fields) ((key, value) :: members)

/-- The members write the fields down, in any order. -/
def SpelledAs (fields members : List (Text × Json)) : Prop :=
  ∃ inOrder, Spelled fields inOrder ∧ members.Perm inOrder

namespace Spelled

variable {fields members : List (Text × Json)}

theorem exists_field (h : Spelled fields members) {key : Text} {value : Json}
    (hmem : (key, value) ∈ members) :
    ∃ name, (name, value) ∈ fields ∧ (key = name ∨ key = name.camelCase) := by
  induction h with
  | nil => cases hmem
  | omitted name h ih =>
      obtain ⟨name', hfield, hkey⟩ := ih hmem
      exact ⟨name', List.mem_cons_of_mem _ hfield, hkey⟩
  | @written name key' hkey value' fields members h ih =>
      rcases List.mem_cons.mp hmem with heq | hmem
      · obtain ⟨rfl, rfl⟩ := Prod.mk.inj heq
        exact ⟨name, List.mem_cons_self .., hkey⟩
      · obtain ⟨name', hfield, hkey⟩ := ih hmem
        exact ⟨name', List.mem_cons_of_mem _ hfield, hkey⟩

/-- In snake case the members are the fields again, but for those left out. -/
theorem sublist (h : Spelled fields members)
    (hnames : ∀ field ∈ fields, HasSpellings field.1) :
    (members.map fun member => (member.1.snakeCase, member.2)).Sublist fields := by
  induction h with
  | nil => exact .slnil
  | omitted name h ih => exact .cons _ (ih fun field hf => hnames field (List.mem_cons_of_mem _ hf))
  | @written name key hkey value fields members h ih =>
      have hname := hnames (name, value) (List.mem_cons_self ..)
      have hsnake : key.snakeCase = name := by
        rcases hkey with rfl | rfl
        · exact hname.snake
        · exact hname.camel
      rw [List.map_cons, hsnake]
      exact .cons_cons _ (ih fun field hf => hnames field (List.mem_cons_of_mem _ hf))

/-- A field that is left out is unset. -/
theorem mem_or_null (h : Spelled fields members)
    (hnames : ∀ field ∈ fields, HasSpellings field.1) {name : Text} {value : Json}
    (hfield : (name, value) ∈ fields) :
    (name, value) ∈ members.map (fun member => (member.1.snakeCase, member.2))
      ∨ value = .null := by
  induction h with
  | nil => cases hfield
  | omitted name' h ih =>
      rcases List.mem_cons.mp hfield with heq | hfield
      · exact .inr (Prod.mk.inj heq).2
      · exact ih (fun field hf => hnames field (List.mem_cons_of_mem _ hf)) hfield
  | @written name' key hkey value' fields members h ih =>
      rw [List.map_cons, List.mem_cons]
      rcases List.mem_cons.mp hfield with heq | hfield
      · obtain ⟨rfl, rfl⟩ := Prod.mk.inj heq
        have hname := hnames (name, value) (List.mem_cons_self ..)
        rcases hkey with rfl | rfl
        · exact .inl (.inl (by rw [hname.snake]))
        · exact .inl (.inl (by rw [hname.camel]))
      · exact (ih (fun field hf => hnames field (List.mem_cons_of_mem _ hf)) hfield).imp .inr id

end Spelled

namespace SpelledAs

variable {fields members : List (Text × Json)}

theorem nodup (h : SpelledAs fields members) (hnames : ∀ field ∈ fields, HasSpellings field.1)
    (hnodup : (fields.map Prod.fst).Nodup) :
    (members.map fun member => member.1.snakeCase).Nodup := by
  obtain ⟨inOrder, hspelled, hperm⟩ := h
  have hsub := (hspelled.sublist hnames).map Prod.fst
  rw [List.map_map] at hsub
  exact (hperm.map _).nodup_iff.mpr (hsub.nodup hnodup)

/-- The reader finds each field, or does not and the field is unset. -/
theorem named_eq (h : SpelledAs fields members) (hnames : ∀ field ∈ fields, HasSpellings field.1)
    (hnodup : (fields.map Prod.fst).Nodup) {name : Text} {value : Json}
    (hfield : (name, value) ∈ fields) :
    named members name = some value ∨ named members name = none ∧ value = .null := by
  have hmembers := h.nodup hnames hnodup
  obtain ⟨inOrder, hspelled, hperm⟩ := h
  have hget : ∀ v, named members name = some v
      ↔ (name, v) ∈ inOrder.map fun member => (member.1.snakeCase, member.2) := fun v => by
    have hkeys :
        ((members.map fun member => (member.1.snakeCase, member.2)).map Prod.fst).Nodup := by
      rw [List.map_map]
      exact hmembers
    rw [Json.named_eq_get? hmembers, Dictionary.get?_eq_some_iff hkeys, (hperm.map _).mem_iff]
  rcases hspelled.mem_or_null hnames hfield with hmem | hnull
  · exact .inl ((hget value).mpr hmem)
  · cases hn : named members name with
    | none => exact .inr ⟨rfl, hnull⟩
    | some v =>
        have hv : (name, v) ∈ fields := (hspelled.sublist hnames).mem ((hget v).mp hn)
        rw [← Dictionary.get?_eq_some_iff hnodup] at hv hfield
        rw [hfield] at hv
        exact .inl hv.symm

theorem exists_field (h : SpelledAs fields members) {key : Text} {value : Json}
    (hmem : (key, value) ∈ members) :
    ∃ name, (name, value) ∈ fields ∧ (key = name ∨ key = name.camelCase) := by
  obtain ⟨inOrder, hspelled, hperm⟩ := h
  exact hspelled.exists_field (hperm.mem_iff.mp hmem)

/-- Fields of plain values are written as a plain object. -/
theorem plain (h : SpelledAs fields members) (hnames : ∀ field ∈ fields, HasSpellings field.1)
    (hnodup : (fields.map Prod.fst).Nodup) {room : Nat}
    (hvalues : ∀ field ∈ fields, Json.Plain room field.2) :
    Json.Plain (room + 1) (.obj members) := by
  refine .obj ?_ ?_ ?_
  · have hmembers := h.nodup hnames hnodup
    rw [← Function.comp_def, ← List.map_map] at hmembers
    exact hmembers.of_map
  · rintro ⟨key, value⟩ hmem
    obtain ⟨name, hfield, rfl | rfl⟩ := h.exists_field hmem
    · exact (hnames _ hfield).joined
    · exact (hnames _ hfield).joined_camel
  · rintro ⟨key, value⟩ hmem
    obtain ⟨name, hfield, -⟩ := h.exists_field hmem
    exact hvalues (name, value) hfield

end SpelledAs

/-! ## Settings written down -/

/-- The value that something is written as, null if it is unset. -/
def orNull {α : Type} (write : α → Json) : Option α → Json
  | some a => write a
  | none => .null

def Overrides.fields (o : Overrides) : List (Text × Json) :=
  [("os_name", orNull .str o.osName), ("os_version", orNull .str o.osVersion),
   ("os_arch", orNull .str o.osArch), ("arch_data_model", orNull (.str ·.text) o.dataModel),
   ("desktop", orNull .str o.desktop)]

/-- The fields of settings, the facts to report written as the value `overrides`. -/
def Settings.fields (s : Settings) (overrides : Json) : List (Text × Json) :=
  [("os_release_path", .str s.releaseFile), ("executable_dir", .str s.executableDirectory),
   ("case_sensitive_fs", orNull .bool s.caseSensitive), ("overrides", overrides)]

/-- The settings written down as an object. -/
inductive Settings.Writes (s : Settings) : Json → Prop
  | intro {inner members : List (Text × Json)} (hinner : SpelledAs s.overrides.fields inner)
      (hmembers : SpelledAs (s.fields (.obj inner)) members) : Settings.Writes s (.obj members)

/-- Settings that a document without surrogates can ask for. -/
structure Settings.IsValid (s : Settings) : Prop where
  releaseFile : s.releaseFile ≠ [] ∧ s.releaseFile.isWellFormed = true
  executableDirectory : s.executableDirectory ≠ [] ∧ s.executableDirectory.isWellFormed = true
  osName : ∀ t ∈ s.overrides.osName, t.isBlank = false ∧ t.isWellFormed = true
  osVersion : ∀ t ∈ s.overrides.osVersion, t.isBlank = false ∧ t.isWellFormed = true
  osArch : ∀ t ∈ s.overrides.osArch, t.isWellFormed = true
  desktop : ∀ t ∈ s.overrides.desktop, t.isWellFormed = true

/-! ## Names -/

theorem Overrides.hasSpellings : ∀ name ∈ fieldNames, HasSpellings name := by decide +kernel

theorem Overrides.fields_names (o : Overrides) : ∀ field ∈ o.fields, HasSpellings field.1 :=
  fun _ hfield => hasSpellings _ (List.mem_map_of_mem (f := Prod.fst) hfield)

theorem Overrides.nodup_fields (o : Overrides) : (o.fields.map Prod.fst).Nodup := by
  show fieldNames.Nodup
  decide

namespace Settings

def fieldNames : List Text :=
  ["os_release_path", "executable_dir", "case_sensitive_fs", "overrides"]

theorem hasSpellings : ∀ name ∈ fieldNames, HasSpellings name := by decide +kernel

theorem fields_names (s : Settings) (overrides : Json) :
    ∀ field ∈ s.fields overrides, HasSpellings field.1 :=
  fun _ hfield => hasSpellings _ (List.mem_map_of_mem (f := Prod.fst) hfield)

theorem nodup_fields (s : Settings) (overrides : Json) :
    ((s.fields overrides).map Prod.fst).Nodup := by
  show fieldNames.Nodup
  decide

end Settings

/-! ## Fields read -/

section

variable {α : Type} {reads : Json → α → Prop} {members : List (Text × Json)} {name : Text}

theorem field_of_ne_null {j : Json} {a default : α} (hreads : reads j a) (hne : j ≠ .null)
    (h : named members name = some j ∨ named members name = none ∧ j = .null) :
    Field reads default (named members name) a := by
  rcases h with h | ⟨-, h⟩
  · rw [h]
    exact .present hreads
  · exact absurd h hne

/-- What is unset reads as unset, whether it was written as null or left out. -/
theorem field_orNull (write : α → Json) (hne : ∀ a, write a ≠ .null) {value : Option α}
    (hreads : ∀ a ∈ value, reads (write a) a)
    (h : named members name = some (orNull write value)
      ∨ named members name = none ∧ orNull write value = .null) :
    Field (Nullable reads) none (named members name) value := by
  cases value with
  | some a => exact field_of_ne_null (.value (hreads a rfl)) (hne a) h
  | none =>
      rcases h with h | ⟨h, -⟩
      · rw [h]
        exact .present .null
      · rw [h]
        exact .absent

theorem plain_orNull {write : α → Json} {room : Nat} {value : Option α}
    (h : ∀ a ∈ value, Json.Plain room (write a)) : Json.Plain room (orNull write value) := by
  cases value with
  | some a => exact h a rfl
  | none => exact .null

end

namespace Settings

namespace IsValid

variable {s : Settings} {inner : List (Text × Json)}

theorem document_overrides (hs : s.IsValid) (h : SpelledAs s.overrides.fields inner) :
    Overrides.Document (.obj inner) s.overrides := by
  have hnamed : ∀ {name : Text} {value : Json}, (name, value) ∈ s.overrides.fields →
      named inner name = some value ∨ named inner name = none ∧ value = .null :=
    fun hfield => h.named_eq s.overrides.fields_names s.overrides.nodup_fields hfield
  refine .intro ?osName ?osVersion ?osArch ?dataModel ?desktop
  case osName =>
    refine field_orNull .str (fun _ => nofun) ?_ (hnamed (by simp [Overrides.fields]))
    exact fun t ht => .intro (hs.osName t ht).1
  case osVersion =>
    refine field_orNull .str (fun _ => nofun) ?_ (hnamed (by simp [Overrides.fields]))
    exact fun t ht => .intro (hs.osVersion t ht).1
  case osArch =>
    refine field_orNull .str (fun _ => nofun) ?_ (hnamed (by simp [Overrides.fields]))
    exact fun t _ => .intro t
  case dataModel =>
    refine field_orNull (.str ·.text) (fun _ => nofun) ?_ (hnamed (by simp [Overrides.fields]))
    rintro (_ | _) -
    · exact .bits32
    · exact .bits64
  case desktop =>
    refine field_orNull .str (fun _ => nofun) ?_ (hnamed (by simp [Overrides.fields]))
    exact fun t _ => .intro t

/-- What the settings are written as is a document of them. -/
theorem document (hs : s.IsValid) {j : Json} (h : s.Writes j) : Document j s := by
  obtain ⟨hinner, hmembers⟩ := h
  rename_i inner members
  have hnamed : ∀ {name : Text} {value : Json}, (name, value) ∈ s.fields (.obj inner) →
      named members name = some value ∨ named members name = none ∧ value = .null :=
    fun hfield => hmembers.named_eq (s.fields_names _) (s.nodup_fields _) hfield
  refine .intro ?releaseFile ?executableDirectory ?caseSensitive ?overrides
  case releaseFile =>
    obtain ⟨hne, hw⟩ := hs.releaseFile
    exact field_of_ne_null (.intro hne hw) nofun (hnamed (by simp [fields]))
  case executableDirectory =>
    obtain ⟨hne, hw⟩ := hs.executableDirectory
    exact field_of_ne_null (.intro hne hw) nofun (hnamed (by simp [fields]))
  case caseSensitive =>
    refine field_orNull .bool (fun _ => nofun) ?_ (hnamed (by simp [fields]))
    exact fun b _ => .bool b
  case overrides =>
    exact field_of_ne_null (hs.document_overrides hinner) nofun (hnamed (by simp [fields]))

/-- Two containers are nested in what the settings are written as, and its texts have no
surrogates. -/
theorem plain (hs : s.IsValid) {j : Json} (h : s.Writes j) (room : Nat) :
    Json.Plain (room + 2) j := by
  obtain ⟨hinner, hmembers⟩ := h
  rename_i inner members
  have hstr : ∀ {room : Nat} {t : Text}, t.isWellFormed = true → Json.Plain room (.str t) :=
    fun ht => .str (Text.isJoined_of_isWellFormed ht)
  have hoverrides : ∀ field ∈ s.overrides.fields, Json.Plain room field.2 := by
    simp only [Overrides.fields, List.forall_mem_cons]
    exact ⟨plain_orNull fun t ht => hstr (hs.osName t ht).2,
      plain_orNull fun t ht => hstr (hs.osVersion t ht).2,
      plain_orNull fun t ht => hstr (hs.osArch t ht),
      plain_orNull fun m _ => hstr (by cases m <;> decide),
      plain_orNull fun t ht => hstr (hs.desktop t ht), nofun⟩
  have hobject := hinner.plain s.overrides.fields_names s.overrides.nodup_fields hoverrides
  have hsettings : ∀ field ∈ s.fields (.obj inner), Json.Plain (room + 1) field.2 := by
    simp only [fields, List.forall_mem_cons]
    exact ⟨hstr hs.releaseFile.2, hstr hs.executableDirectory.2,
      plain_orNull fun b _ => .bool b, hobject, nofun⟩
  exact hmembers.plain (s.fields_names _) (s.nodup_fields _) hsettings

end IsValid

/-- **Settings round trip.** Valid settings, written down as an object in any spelling and any
layout, are a text of ASCII that loads as the settings, and there is nothing to report. -/
theorem loadText_write {s : Settings} (hs : s.IsValid) {j : Json} (hj : s.Writes j)
    {layout : Json.Layout} (hl : layout.IsBlank) :
    (∀ c ∈ j.write layout 0, c.code < 0x80)
      ∧ loadText (j.write layout 0) = pure (some s) := by
  have hplain : Json.Plain Json.maxNesting j := hs.plain hj (Json.maxNesting - 2)
  have hread := Json.read_write hl hplain 0
  have htext := ofText_eq_ok_iff.mpr ⟨j, hread, hs.document hj⟩
  refine ⟨Json.ascii_write hl hplain 0, ?_⟩
  rw [loadText, htext]
  rfl

def clefSettings : Settings where
  releaseFile := "/\"\n\\𝄞"
  executableDirectory := "/opt"
  caseSensitive := some true
  overrides := { osName := some "É", dataModel := some .bits32 }

/-- The settings above with the first two members in the other order, three names in camel
case, one unset fact as null and the others left out. -/
def clefDocument : Json :=
  .obj [("executable_dir", .str "/opt"), ("osReleasePath", .str "/\"\n\\𝄞"),
    ("caseSensitiveFs", .bool true),
    ("overrides", .obj [("osName", .str "É"), ("os_arch", .null), ("arch_data_model", .str "32")])]

def clefText : Text :=
  ("\x7b\"executable_dir\": \"/opt\", " : Text) ++
    "\"osReleasePath\": \"/\\\"\\n\\\\\\ud834\\udd1e\", \"caseSensitiveFs\": true, " ++
    "\"overrides\": \x7b\"osName\": \"\\u00c9\", \"os_arch\": null, " ++
    "\"arch_data_model\": \"32\"\x7d\x7d"

theorem clefSettings_writes : clefSettings.Writes clefDocument := by
  have hcamel : ("osReleasePath" : Text) = Text.camelCase "os_release_path" := by decide +kernel
  have hcase : ("caseSensitiveFs" : Text) = Text.camelCase "case_sensitive_fs" := by decide +kernel
  have hname : ("osName" : Text) = Text.camelCase "os_name" := by decide +kernel
  exact .intro
    ⟨_, .written (.inr hname) _ (.omitted _ (.written (.inl rfl) _ (.written (.inl rfl) _
      (.omitted _ .nil)))), .refl _⟩
    ⟨_, .written (.inr hcamel) _ (.written (.inl rfl) _ (.written (.inr hcase) _
      (.written (.inl rfl) _ .nil))), .swap ..⟩

theorem loadText_write_clef :
    clefSettings.IsValid ∧ clefSettings.Writes clefDocument ∧ clefDocument.compact = clefText
      ∧ (∀ c ∈ clefDocument.compact, c.code < 0x80)
      ∧ loadText clefDocument.compact = pure (some clefSettings) := by
  have hvalid : clefSettings.IsValid :=
    ⟨by decide, by decide, by decide, nofun, nofun, nofun⟩
  exact ⟨hvalid, clefSettings_writes, by decide +kernel,
    loadText_write hvalid clefSettings_writes Json.Layout.isBlank_compact⟩

end Settings

end HostFacts
