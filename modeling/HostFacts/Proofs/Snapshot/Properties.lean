import HostFacts.Proofs.Dictionary
import HostFacts.Proofs.Snapshot.Ladders
import HostFacts.Proofs.Traversal

/-!
# Facts and properties

What a snapshot has to tell can be had as a list and by name, one thing at a time. The
list is put together from the fields, the flags and the names of the releases; behind a
name there is a gate that was set up for it by hand. Both say the same
(`facts_toldAlike`): `properties` is all that there is under some name, `listed` what of
it goes into the list, and there is a list just if no gate in it fails
(`facts_eq_ok_iff`). A gate fails on an over-long version and on nothing else, and only
on the systems that it is about (`windowsAtLeast_eq_error_iff`).
-/

namespace HostFacts

open Version Numeral

/-- The name of the gate of a release. -/
def WindowsRelease.gateName (r : WindowsRelease) : Text := "is_" ++ r.name ++ "_or_newer"

/-- The name of the gate of a release. -/
def MacRelease.gateName (r : MacRelease) : Text := "is_macos_" ++ r.name

theorem WindowsRelease.mem_all (r : WindowsRelease) : r ∈ all := by
  cases r <;> decide

theorem MacRelease.mem_all (r : MacRelease) : r ∈ all := by
  cases r <;> decide

namespace Snapshot

variable {s : Snapshot} {e : TooLong}

/-! ## Gates that fail -/

/-- A gate that is about some systems only, for a release whose version can be read. -/
theorem gate_eq_error_iff {v : Text} (hv : Readable (some v)) (isAbout : Bool) :
    (if isAbout then s.osVersionAtLeast (some v) else .ok false) = .error e
      ↔ isAbout = true ∧ FirstOverLong (Text.split dot s.osVersion) e := by
  cases isAbout with
  | true =>
      rw [if_pos rfl, osVersionAtLeast, atLeast_eq_error_iff, firstOverLong_append_iff hv,
        and_iff_right rfl]
  | false => simp

theorem windowsAtLeast_eq_error_iff (r : WindowsRelease) :
    s.windowsAtLeast r = .error e
      ↔ s.isWindows = true ∧ FirstOverLong (Text.split dot s.osVersion) e :=
  gate_eq_error_iff (WindowsRelease.readable _ (List.mem_map_of_mem r.mem_all)) s.isWindows

theorem macAtLeast_eq_error_iff (r : MacRelease) :
    s.macAtLeast r = .error e
      ↔ s.isMac = true ∧ FirstOverLong (Text.split dot s.osVersion) e :=
  gate_eq_error_iff (MacRelease.readable _ (List.mem_map_of_mem r.mem_all)) s.isMac

theorem supportsSymlinks_eq_error_iff :
    s.supportsSymlinks = .error e
      ↔ s.isWindows = true ∧ FirstOverLong (Text.split dot s.osVersion) e := by
  rw [supportsSymlinks]
  split
  · rename_i h
    rw [isUnix, Bool.and_eq_true, Bool.not_eq_true'] at h
    exact ⟨nofun, fun ⟨hwindows, _⟩ => Bool.noConfusion (h.1.symm.trans hwindows)⟩
  · exact windowsAtLeast_eq_error_iff .vista

theorem flags_cases (s : Snapshot) :
    ∀ flag ∈ s.flags, (∃ b, flag.2 = .ok b) ∨ flag.2 = s.supportsSymlinks := by
  simp [flags, pure, Except.pure]

theorem mem_ladders_iff {gate : Text × Gate} :
    gate ∈ s.ladders ↔ (∃ r : WindowsRelease, gate = (r.gateName, s.windowsAtLeast r))
      ∨ ∃ r : MacRelease, gate = (r.gateName, s.macAtLeast r) := by
  constructor
  · intro hgate
    rcases List.mem_append.mp hgate with hgate | hgate
    · obtain ⟨r, -, rfl⟩ := List.mem_map.mp hgate
      exact .inl ⟨r, rfl⟩
    · obtain ⟨r, -, rfl⟩ := List.mem_map.mp hgate
      exact .inr ⟨r, rfl⟩
  · rintro (⟨r, rfl⟩ | ⟨r, rfl⟩)
    · exact List.mem_append_left _ (List.mem_map_of_mem r.mem_all)
    · exact List.mem_append_right _ (List.mem_map_of_mem r.mem_all)

/-- The version of a Windows or macOS cannot be read, and this is the error. -/
def Garbled (s : Snapshot) (e : TooLong) : Prop :=
  (s.isWindows = true ∨ s.isMac = true) ∧ FirstOverLong (Text.split dot s.osVersion) e

theorem exists_gate_eq_error_iff :
    (∃ gate ∈ s.flags ++ s.ladders, gate.2 = .error e) ↔ s.Garbled e := by
  constructor
  · rintro ⟨gate, hgate, he⟩
    rcases List.mem_append.mp hgate with hgate | hgate
    · rcases s.flags_cases gate hgate with ⟨b, hb⟩ | hsymlinks
      · cases hb.symm.trans he
      · obtain ⟨hwindows, hfirst⟩ :=
          supportsSymlinks_eq_error_iff.mp (hsymlinks.symm.trans he)
        exact ⟨.inl hwindows, hfirst⟩
    · rcases mem_ladders_iff.mp hgate with ⟨r, rfl⟩ | ⟨r, rfl⟩
      · obtain ⟨hwindows, hfirst⟩ := (windowsAtLeast_eq_error_iff r).mp he
        exact ⟨.inl hwindows, hfirst⟩
      · obtain ⟨hmac, hfirst⟩ := (macAtLeast_eq_error_iff r).mp he
        exact ⟨.inr hmac, hfirst⟩
  · rintro ⟨hwindows | hmac, hfirst⟩
    · exact ⟨_, List.mem_append_right _ (mem_ladders_iff.mpr (.inl ⟨.win10, rfl⟩)),
        (windowsAtLeast_eq_error_iff .win10).mpr ⟨hwindows, hfirst⟩⟩
    · exact ⟨_, List.mem_append_right _ (mem_ladders_iff.mpr (.inr ⟨.sequoia, rfl⟩)),
        (macAtLeast_eq_error_iff .sequoia).mpr ⟨hmac, hfirst⟩⟩

/-! ## The list -/

/-- Gates with their names, as facts that may fail. -/
def told (gates : Dictionary Gate) : Dictionary (Except TooLong Fact) :=
  gates.map fun pair => (pair.1, pair.2.map .flag)

/-- Facts that do not fail. -/
def certain (facts : Dictionary Fact) : Dictionary (Except TooLong Fact) :=
  facts.map fun pair => (pair.1, .ok pair.2)

theorem mapM_gates_eq_ok_iff {gates : Dictionary Gate} {facts : Dictionary Fact} :
    gates.mapM (fun (name, gate) => do return (name, Fact.flag (← gate))) = .ok facts
      ↔ told gates = certain facts := by
  rw [mapM_eq_ok_iff, told, certain, ← List.forall₂_eq_eq_eq, List.forall₂_map_left_iff,
    List.forall₂_map_right_iff]
  have hgate (pair : Text × Gate) (fact : Text × Fact) :
      (do return (pair.1, Fact.flag (← pair.2))) = Except.ok (ε := TooLong) fact
        ↔ (pair.1, pair.2.map Fact.flag) = (fact.1, .ok fact.2) := by
    obtain ⟨name, gate⟩ := pair
    cases gate <;> simp [bind, Except.bind, pure, Except.pure, Except.map, Prod.ext_iff]
  simp only [← hgate]

/-- What the list of the facts is made of. -/
def listed (s : Snapshot) : Dictionary (Except TooLong Fact) :=
  certain s.identity ++ told (s.flags ++ s.ladders)

theorem listed_eq {found : Dictionary Fact} (h : s.facts = .ok found) :
    s.listed = certain found := by
  obtain ⟨gates, hgates, h⟩ := except_bind_eq_ok.mp h
  cases h
  rw [listed, mapM_gates_eq_ok_iff.mp hgates, certain, certain, certain, List.map_append]

theorem facts_cases {found : Dictionary Fact} (h : s.facts = .ok found) :
    ∀ fact ∈ found, fact ∈ s.identity ∨ ∃ b, fact.2 = .flag b := by
  rintro ⟨name, fact⟩ hfact
  have hlisted : (name, .ok fact) ∈ s.listed := by
    rw [listed_eq h]
    exact List.mem_map_of_mem hfact
  rcases List.mem_append.mp hlisted with hmem | hmem
  · obtain ⟨_, hidentity, heq⟩ := List.mem_map.mp hmem
    cases heq
    exact .inl hidentity
  · obtain ⟨⟨_, gate⟩, -, heq⟩ := List.mem_map.mp hmem
    obtain ⟨-, hgate⟩ := Prod.mk.inj heq
    cases gate with
    | error e => cases hgate
    | ok b =>
        cases hgate
        exact .inr ⟨b, rfl⟩

theorem facts_eq_error_iff : s.facts = .error e ↔ s.Garbled e := by
  have hmp {e : TooLong} (h : s.facts = .error e) : s.Garbled e := by
    have hgates : (s.flags ++ s.ladders).mapM (fun (name, gate) => do
        return (name, Fact.flag (← gate))) = .error e := by
      unfold facts at h
      cases hgates : (s.flags ++ s.ladders).mapM (fun (name, gate) => do
          return (name, Fact.flag (← gate))) with
      | ok gates =>
          rw [hgates] at h
          cases h
      | error e' =>
          rw [hgates] at h
          cases h
          rfl
    obtain ⟨⟨name, gate⟩, hgate, hfails⟩ := exists_of_mapM_eq_error hgates
    refine exists_gate_eq_error_iff.mp ⟨_, hgate, ?_⟩
    cases gate with
    | ok b => cases hfails
    | error e' =>
        cases hfails
        rfl
  refine ⟨hmp, fun hgarbled => ?_⟩
  obtain ⟨gate, hgate, he⟩ := exists_gate_eq_error_iff.mpr hgarbled
  cases hfound : s.facts with
  | error e' => rw [(hmp hfound).2.unique hgarbled.2]
  | ok found =>
      have hmem : (gate.1, Except.map Fact.flag gate.2) ∈ s.listed :=
        List.mem_append_right _ (List.mem_map_of_mem hgate)
      rw [listed_eq hfound, he] at hmem
      obtain ⟨fact, -, hfact⟩ := List.mem_map.mp hmem
      cases (Prod.mk.inj hfact).2

/-! ## Properties -/

/-- All that there is under some name. -/
def properties (s : Snapshot) : Dictionary (Except TooLong Fact) :=
  certain s.fields ++ told (s.flags ++ s.ladders)

/-- The fields that are in no list: what they say is in the flags. -/
def unlisted : List Text := ["kde_full_session", "screen_menu_bar", "case_sensitive_fs_override"]

/-- The gates that were set up by hand are those of the releases that their names are made of. -/
theorem releaseGate?_eq (s : Snapshot) (name : Text) :
    s.releaseGate? name = s.ladders.get? name := rfl

theorem property?_eq (s : Snapshot) (name : Text) :
    s.property? name = s.properties.get? name := by
  rw [property?, properties, certain, told, Dictionary.get?_append, Dictionary.get?_map,
    Dictionary.get?_map, Dictionary.get?_append, releaseGate?_eq]

/-- All snapshots have properties of the same names. -/
theorem names_properties (s s' : Snapshot) :
    s.properties.map Prod.fst = s'.properties.map Prod.fst := rfl

theorem nodup_properties (s : Snapshot) : (s.properties.map Prod.fst).Nodup := by
  rw [s.names_properties { osName := [] }]
  -- numbers are compared faster than characters
  exact List.Nodup.of_map (List.map CodePoint.code) (by decide +kernel)

theorem property?_eq_some_iff {name : Text} {value : Except TooLong Fact} :
    s.property? name = some value ↔ (name, value) ∈ s.properties := by
  rw [property?_eq, Dictionary.get?_eq_some_iff s.nodup_properties]

theorem property?_of_mem_ladders {name : Text} {gate : Gate} (h : (name, gate) ∈ s.ladders) :
    s.property? name = some (gate.map .flag) := by
  have hmem : (name, gate) ∈ s.flags ++ s.ladders := List.mem_append_right _ h
  exact property?_eq_some_iff.mpr (List.mem_append_right _ (List.mem_map_of_mem hmem))

theorem listed_sublist (s : Snapshot) : s.listed.Sublist s.properties := by
  have hidentity : s.identity.Sublist s.fields := by
    simp [identity, fields, List.cons_sublist_cons]
  exact (hidentity.map _).append_right _

/-- The names of the list are those of the properties without the fields that are in none. -/
theorem names_perm (s : Snapshot) :
    (s.properties.map Prod.fst).Perm (s.listed.map Prod.fst ++ unlisted) := by
  have hperm : ((properties { osName := [] }).map Prod.fst).Perm
      ((listed { osName := [] }).map Prod.fst ++ unlisted) := by
    decide +kernel
  exact hperm

/-! ## The headline theorem -/

/-- A name that a gate of a release may have. -/
def IsGateName (name : Text) : Prop :=
  (∃ release : Text, name = "is_" ++ release ++ "_or_newer")
    ∨ ∃ release : Text, name = "is_macos_" ++ release

theorem IsGateName.startsWith {name : Text} (h : IsGateName name) :
    Text.ofString "is_" <+: name := by
  rcases h with ⟨release, rfl⟩ | ⟨release, rfl⟩
  · rw [List.append_assoc]
    exact List.prefix_append ..
  · exact ⟨"macos_" ++ release, rfl⟩

/-- A list of facts, in order and without a name twice, that has what the properties have. -/
structure Lists (s : Snapshot) (found : Dictionary Fact) : Prop where
  /-- Each fact is the property of its name. -/
  value : ∀ name fact, (name, fact) ∈ found → s.property? name = some (.ok fact)
  names : found.map Prod.fst
    = s.identity.map Prod.fst ++ s.flags.map Prod.fst ++ s.ladders.map Prod.fst
  nodup : (found.map Prod.fst).Nodup
  /-- Each property is in the list, but for three fields. -/
  complete : ∀ name, name ∈ found.map Prod.fst ↔ (s.property? name).isSome ∧ name ∉ unlisted
  gates : ∀ name, (s.property? name).isSome → IsGateName name → name ∈ found.map Prod.fst

/-- What the list of the facts and the properties say of a snapshot. -/
structure ToldAlike (s : Snapshot) : Prop where
  fails_iff : (∃ e, s.facts = .error e)
    ↔ (s.isWindows = true ∨ s.isMac = true)
      ∧ ∃ t ∈ Text.split dot s.osVersion, ∃ e, OverLong t e
  /-- The error is that of the first over-long segment. -/
  error_iff : ∀ e, s.facts = .error e
    ↔ (s.isWindows = true ∨ s.isMac = true) ∧ FirstOverLong (Text.split dot s.osVersion) e
  lists : ∀ found, s.facts = .ok found → s.Lists found
  /-- A property with the name of a release is the gate of that release. -/
  windows : ∀ r : WindowsRelease,
    s.property? ("is_" ++ r.name ++ "_or_newer") = some ((s.windowsAtLeast r).map .flag)
      ∧ s.windowsAtLeastNamed r.name = (s.windowsAtLeast r).mapError .numeral
  mac : ∀ r : MacRelease,
    s.property? ("is_macos_" ++ r.name) = some ((s.macAtLeast r).map .flag)
      ∧ s.macAtLeastNamed r.name = (s.macAtLeast r).mapError .numeral

theorem lists_of_facts {found : Dictionary Fact} (h : s.facts = .ok found) : s.Lists found := by
  have hnames : found.map Prod.fst = s.listed.map Prod.fst := by
    rw [listed_eq h, certain, List.map_map]
    rfl
  have hnodup := s.names_perm.nodup_iff.mp s.nodup_properties
  have hcomplete (name : Text) : name ∈ s.listed.map Prod.fst
      ↔ (s.property? name).isSome ∧ name ∉ unlisted := by
    rw [property?_eq, Dictionary.isSome_get?_iff, s.names_perm.mem_iff, List.mem_append]
    have hdisjoint := List.disjoint_of_nodup_append hnodup
    exact ⟨fun hname => ⟨.inl hname, fun hno => hdisjoint hname hno⟩,
      fun ⟨hname, hno⟩ => hname.resolve_right hno⟩
  refine ⟨fun name fact hfact => ?_, ?_, ?_, ?_, ?_⟩
  · refine property?_eq_some_iff.mpr (s.listed_sublist.subset ?_)
    rw [listed_eq h]
    exact List.mem_map_of_mem hfact
  · rw [hnames, listed, certain, told, List.map_append, List.map_map, List.map_map,
      List.append_assoc, ← List.map_append]
    rfl
  · rw [hnames]
    exact hnodup.of_append_left
  · rw [hnames]
    exact hcomplete
  · rw [hnames]
    intro name hname hgate
    have hunlisted : ∀ name ∈ unlisted, ¬ Text.ofString "is_" <+: name := by decide
    exact (hcomplete name).mpr ⟨hname, fun hno => hunlisted name hno hgate.startsWith⟩

/-- **The facts of a snapshot are its properties.** They can be listed unless the version of a
Windows or macOS cannot be read, and the list has each property once, with the value that it has
under its name. -/
theorem facts_toldAlike (s : Snapshot) : s.ToldAlike where
  fails_iff := by
    rw [← exists_firstOverLong_iff, ← exists_and_left]
    exact exists_congr fun e => facts_eq_error_iff
  error_iff e := facts_eq_error_iff
  lists found h := lists_of_facts h
  windows r :=
    ⟨property?_of_mem_ladders (mem_ladders_iff.mpr (.inl ⟨r, rfl⟩)), s.windowsAtLeastNamed_name r⟩
  mac r :=
    ⟨property?_of_mem_ladders (mem_ladders_iff.mpr (.inr ⟨r, rfl⟩)), s.macAtLeastNamed_name r⟩

end Snapshot

end HostFacts
