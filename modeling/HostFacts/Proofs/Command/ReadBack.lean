import HostFacts.Proofs.Command.Output
import HostFacts.Proofs.Command.SessionReport
import HostFacts.Proofs.Probes.Entries
import HostFacts.Proofs.Snapshot.Joined

/-!
# Reports read back from JSON

The items of a report are a JSON object that is read back as it was written. Their
names are all different (`ReadsBack.nodup`), and neither the names nor the texts
have a pair of surrogates in them, which would come back as one character. That
needs the texts that come from outside to be joined, those of the host and of the
environment and the versions among the arguments. Texts of settings are joined
since they were read from JSON, and those of the release file since they were
decoded.
-/

namespace HostFacts.Command

open Process (Inquiry Answer answersOf)

/-! ## JSON objects of facts -/

/-- Names that are all different and joined, with joined facts. -/
structure ReadsBack (items : Dictionary Fact) : Prop where
  nodup : (items.map Prod.fst).Nodup
  names : ∀ name ∈ items.map Prod.fst, name.isJoined = true
  facts : ∀ item ∈ items, item.2.IsJoined

theorem ReadsBack.plain_objectOf {items : Dictionary Fact} (h : ReadsBack items) :
    Json.Plain Json.maxNesting (objectOf items) := by
  have hplain {f : Fact} (hf : f.IsJoined) : Json.Plain (Json.maxNesting - 1) f.json := by
    cases f with
    | text t => exact .str (hf t rfl)
    | flag b => exact .bool b
    | absent => exact .null
  refine .obj ?_ ?_ ?_
  · rw [List.map_map]
    exact h.nodup
  · intro member hmember
    obtain ⟨item, hitem, rfl⟩ := List.mem_map.mp hmember
    exact h.names _ (List.mem_map.mpr ⟨item, hitem, rfl⟩)
  · intro member hmember
    obtain ⟨item, hitem, rfl⟩ := List.mem_map.mp hmember
    exact hplain (h.facts item hitem)

/-- A line feed behind the object is no matter. -/
theorem ReadsBack.read {items : Dictionary Fact} (h : ReadsBack items) :
    Json.read ((objectOf items).pretty ++ ("\n" : Text)) = .ok (objectOf items) :=
  Json.read_write_append Json.Layout.isBlank_indented h.plain_objectOf 0 (by decide)

/-! ## Settings of the command -/

theorem isJoined_settingsFor {w : World} {settingsFile : Option Text} {settings : Settings}
    (h : (settingsFor w settingsFile).result = .ok settings) : settings.overrides.IsJoined := by
  cases hplace : settingsPlace w settingsFile with
  | error failure =>
      rw [settingsFor_of_error hplace] at h
      cases h
  | ok place =>
      rw [settingsFor_of_place hplace] at h
      exact Settings.isJoined_of_loadFile h

/-! ## Items of a report -/

theorem factsOf?_eq_some {others : List (Except Failure Answer)} {s : Snapshot}
    {facts : Dictionary Fact} (h : factsOf? (.ok (.snapshot s) :: others) = some facts) :
    ∃ found more, s.facts = .ok found ∧ releaseOf? others = some more ∧ facts = found ++ more := by
  obtain ⟨found, hfound, h⟩ := Option.bind_eq_some_iff.mp h
  obtain ⟨more, hmore, rfl⟩ := Option.map_eq_some_iff.mp h
  exact ⟨found, more, toOption_eq_some_iff.mp hfound, hmore, rfl⟩

theorem releaseOf?_eq_some {answers : List (Except Failure Answer)} {more : Dictionary Fact}
    (h : releaseOf? answers = some more) :
    answers = [] ∧ more = [] ∨ ∃ name version xdgOpen xdgMime,
      answers = [.ok (.found (.entry name)), .ok (.found (.entry version)),
        .ok (.found (.found xdgOpen)), .ok (.found (.found xdgMime))]
      ∧ more = releaseItems name version xdgOpen xdgMime := by
  unfold releaseOf? at h
  split at h
  · exact .inl ⟨rfl, (Option.some.inj h).symm⟩
  · exact .inr ⟨_, _, _, _, rfl, (Option.some.inj h).symm⟩
  · cases h

theorem names_releaseItems (name version : Option Text) (xdgOpen xdgMime : Bool) :
    (releaseItems name version xdgOpen xdgMime).map Prod.fst
      = (releaseItems none none false false).map Prod.fst := rfl

/-- Neither the facts of a snapshot nor those of the release have a name twice. -/
theorem allNames_spec (s : Snapshot) :
    (s.factNames ++ (releaseItems none none false false).map Prod.fst).Nodup
      ∧ ∀ name ∈ s.factNames ++ (releaseItems none none false false).map Prod.fst,
        name.isJoined = true := by
  rw [s.factNames_eq { osName := [] }]
  -- numbers are compared faster than characters
  exact ⟨List.Nodup.of_map (List.map CodePoint.code) (by decide +kernel), by decide +kernel⟩

theorem isJoined_releaseItems {p : Probes} (hp : p.KeepsText) {w : World}
    {name version : Option Text} (hname : (p.releaseName w).1.result = .ok name)
    (hversion : ((p.releaseName w).2.releaseVersion w).1.result = .ok version)
    (xdgOpen xdgMime : Bool) :
    ∀ item ∈ releaseItems name version xdgOpen xdgMime, item.2.IsJoined := by
  have hp' : (p.releaseName w).2.KeepsText := (Probes.isWellFormed_osRelease hp w).2
  have hname' : ∀ t, name = some t → t.isJoined = true := by
    rintro t rfl
    exact Text.isJoined_of_isWellFormed (Probes.isWellFormed_releaseEntry hp hname)
  have hversion' : ∀ t, version = some t → t.isJoined = true := by
    rintro t rfl
    exact Text.isJoined_of_isWellFormed (Probes.isWellFormed_releaseEntry hp' hversion)
  simp only [releaseItems, List.forall_mem_cons]
  exact ⟨Fact.isJoined_ofText? hname', Fact.isJoined_ofText? hversion', Fact.isJoined_flag _,
    Fact.isJoined_flag _, nofun⟩

theorem isJoined_releaseOf? {p : Probes} (hp : p.KeepsText) {w : World} {more : Dictionary Fact}
    (h : releaseOf? (answersOf w p releaseInquiries) = some more) :
    more.map Prod.fst = (releaseItems none none false false).map Prod.fst
      ∧ ∀ item ∈ more, item.2.IsJoined := by
  rcases releaseOf?_eq_some h with ⟨hnil, -⟩ | ⟨name, version, xdgOpen, xdgMime, hanswers, rfl⟩
  · cases hnil
  · have hfound {x : Except Failure (Option Text)} {value : Option Text}
        (hx : (x.map Probes.Answer.entry).map Answer.found = .ok (.found (.entry value))) :
        x = .ok value := by
      cases x with
      | error failure => cases hx
      | ok value' =>
          cases hx
          rfl
    obtain ⟨hname, hrest⟩ := List.cons.inj hanswers
    obtain ⟨hversion, -⟩ := List.cons.inj hrest
    simp only [Inquiry.answer, Probes.Call.attempt, Attempt.result_map] at hname hversion
    exact ⟨names_releaseItems .., isJoined_releaseItems hp (hfound hname) (hfound hversion) _ _⟩

theorem readsBack_facts {p : Probes} (hp : p.KeepsText)
    (hidentity : ∀ fact ∈ p.snapshot.identity, fact.2.IsJoined) {w : World} {release : Bool}
    {facts : Dictionary Fact}
    (h : factsOf? (answersOf w p (.getSnapshot :: if release then releaseInquiries else []))
      = some facts) : ReadsBack facts := by
  obtain ⟨found, more, hfound, hmore, rfl⟩ := factsOf?_eq_some h
  have hfoundFacts := Snapshot.isJoined_facts hidentity hfound
  have hfoundNames := Snapshot.names_facts hfound
  obtain ⟨hnodup, hjoined⟩ := allNames_spec p.snapshot
  cases release with
  | true =>
      obtain ⟨hmoreNames, hmoreFacts⟩ := isJoined_releaseOf? hp hmore
      rw [← hfoundNames, ← hmoreNames, ← List.map_append] at hnodup hjoined
      exact ⟨hnodup, hjoined, List.forall_mem_append.mpr ⟨hfoundFacts, hmoreFacts⟩⟩
  | false =>
      obtain rfl : [] = more := Option.some.inj hmore
      rw [← hfoundNames] at hnodup hjoined
      rw [List.append_nil]
      exact ⟨(List.nodup_append.mp hnodup).1,
        fun name hname => hjoined name (List.mem_append_left _ hname), hfoundFacts⟩

theorem mem_of_mapM_gateOf? {answered : List ((Text × Inquiry) × Except Failure Answer)}
    {gates : List (Text × Bool)} (h : answered.mapM gateOf? = some gates) :
    ∀ gate ∈ gates, ∃ pair ∈ answered, pair.1.1 = gate.1 := by
  induction answered generalizing gates with
  | nil =>
      cases h
      exact nofun
  | cons pair answered ih =>
      rw [List.mapM_cons] at h
      obtain ⟨first, hfirst, h⟩ := Option.bind_eq_some_iff.mp h
      obtain ⟨rest, hrest, h⟩ := Option.bind_eq_some_iff.mp h
      cases h
      have hname : pair.1.1 = first.1 := by
        unfold gateOf? at hfirst
        split at hfirst
        · cases hfirst
          rfl
        · cases hfirst
      refine List.forall_mem_cons.mpr ⟨⟨pair, List.mem_cons_self .., hname⟩, fun gate hgate => ?_⟩
      obtain ⟨pair', hpair', hname'⟩ := ih hrest gate hgate
      exact ⟨pair', List.mem_cons_of_mem _ hpair', hname'⟩

theorem isJoined_gateInquiries {o : Options}
    (hversions : ∀ v ∈ o.osVersions ++ o.runtimeVersions, v.isJoined = true) :
    ∀ gate ∈ gateInquiries o, gate.1.isJoined = true := by
  obtain ⟨hos, hruntime⟩ := List.forall_mem_append.mp hversions
  intro gate hgate
  rcases List.mem_append.mp hgate with hgate | hgate
  · obtain ⟨v, hv, rfl⟩ := List.mem_map.mp hgate
    exact Text.isJoined_append (by decide) (hos v hv)
  · obtain ⟨v, hv, rfl⟩ := List.mem_map.mp hgate
    exact Text.isJoined_append (by decide) (hruntime v hv)

theorem readsBack_gates {o : Options}
    (hversions : ∀ v ∈ o.osVersions ++ o.runtimeVersions, v.isJoined = true)
    {answers : List (Except Failure Answer)} {gates : Dictionary Bool}
    (h : gatesOf? (gateInquiries o) answers = some gates) :
    ReadsBack (Report.ofGates gates).items := by
  obtain ⟨pairs, hpairs, rfl⟩ := Option.map_eq_some_iff.mp h
  have hnames : ((Report.ofGates (.ofPairs pairs)).items.map Prod.fst)
      = (Dictionary.ofPairs pairs).map Prod.fst := by
    rw [Report.ofGates, List.map_map]
    rfl
  refine ⟨?_, ?_, fun item hitem => ?_⟩
  · rw [hnames]
    exact Dictionary.nodup_ofPairs pairs
  · rw [hnames]
    intro name hname
    obtain ⟨gate, hgate, rfl⟩ := List.mem_map.mp hname
    obtain ⟨⟨inquiry, answer⟩, hmem, hfirst⟩ :=
      mem_of_mapM_gateOf? hpairs gate (Dictionary.mem_of_mem_ofPairs hgate)
    rw [← hfirst]
    exact isJoined_gateInquiries hversions inquiry (List.of_mem_zip hmem).1
  · obtain ⟨gate, -, rfl⟩ := List.mem_map.mp hitem
    exact Fact.isJoined_flag _

/-- The items that are reported of probes with joined facts read back from JSON. -/
theorem readsBack_reportOf {p : Probes} (hp : p.KeepsText)
    (hidentity : ∀ fact ∈ p.snapshot.identity, fact.2.IsJoined) {w : World} {o : Options}
    (hversions : ∀ v ∈ o.osVersions ++ o.runtimeVersions, v.isJoined = true) {r : Report}
    (h : (reportOf p w o).result = .ok r) : ReadsBack r.items := by
  have hsome := toOption_eq_some_iff.mpr h
  cases hgates : o.osVersions.isEmpty && o.runtimeVersions.isEmpty with
  | true =>
      obtain ⟨hos, hruntime⟩ := Bool.and_eq_true_iff.mp hgates
      rw [reportOf_facts_toOption p w hos hruntime] at hsome
      obtain ⟨facts, hfacts, rfl⟩ := Option.map_eq_some_iff.mp hsome
      exact readsBack_facts hp hidentity hfacts
  | false =>
      rw [reportOf_gates_toOption p w hgates] at hsome
      obtain ⟨gates, hgates, rfl⟩ := Option.map_eq_some_iff.mp hsome
      exact readsBack_gates hversions hgates

/-- The items of a report read back from JSON, wherever its settings are. -/
theorem readsBack_report {w : World} (hw : w.IsJoined) {o : Options}
    (hversions : ∀ v ∈ o.osVersions ++ o.runtimeVersions, v.isJoined = true) {r : Report}
    (h : (report w o).result = .ok r) : ReadsBack r.items := by
  rw [report_result] at h
  obtain ⟨settings, hsettings, h⟩ := except_bind_eq_ok.mp h
  obtain ⟨snapshot, hsnapshot, h⟩ := except_bind_eq_ok.mp h
  exact readsBack_reportOf (Probes.keepsText_unset snapshot settings)
    (Snapshot.isJoined_identity hw (isJoined_settingsFor hsettings) hsnapshot) hversions h

end HostFacts.Command
