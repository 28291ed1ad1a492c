import Mathlib.Data.List.Forall2
import HostFacts.Proofs.Command.Arguments
import HostFacts.Proofs.Command.ReadBack
import HostFacts.Proofs.Debugging
import HostFacts.Proofs.OsRelease.RoundTrip

/-!
# One report in two layouts

The command shows what it computes (`Computes`) as one JSON object or line by line.
The object is read back as the items in their order, whatever their texts are. The
same command without `--json` shows the same items, one in a line, and ends with the
same status (`run_layouts`). To leave the option out takes a reading of the arguments
(`withoutJson`), since what looks like it may be the value of another.

The lines go to a console, which takes control sequences for itself: what is written
of a line is what is left of it (`LeftOf`). Without an escape character that is all of
it. Nothing is said of lines that have a surrogate in them.
-/

namespace HostFacts.Command

open Process (answersOf)

/-! ## What is computed -/

/-- Whether each of the versions is reached, in their order. -/
def Reached (ask : Option Text → Except Numeral.TooLong Bool) (versions : List Text)
    (reached : List Bool) : Prop :=
  List.Forall₂ (fun v b => ask (some v) = .ok b) versions reached

/-- What the command computes of probes: a gate for each version that is to be reached, the last of
one name counts, or else the facts, and behind them what the probes answer if that is asked for. -/
inductive Computes (p : Probes) (w : World) (o : Options) : Report → Prop
  | gates {os runtime : List Bool} (hversions : o.osVersions ++ o.runtimeVersions ≠ [])
      (hos : Reached p.snapshot.osVersionAtLeast o.osVersions os)
      (hruntime : Reached p.snapshot.runtimeVersionAtLeast o.runtimeVersions runtime) :
      Computes p w o (.ofGates (.ofPairs
        ((o.osVersions.map (Text.ofString "os>=" ++ ·)).zip os
          ++ (o.runtimeVersions.map (Text.ofString "runtime>=" ++ ·)).zip runtime)))
  | facts {found : Dictionary Fact} (hversions : o.osVersions ++ o.runtimeVersions = [])
      (hrelease : o.release = false) (hfacts : p.snapshot.facts = .ok found) :
      Computes p w o ⟨found, 0⟩
  | release {found : Dictionary Fact} {name version : Option Text} {xdgOpen xdgMime : Bool}
      (hversions : o.osVersions ++ o.runtimeVersions = []) (hrelease : o.release = true)
      (hfacts : p.snapshot.facts = .ok found)
      (hanswers : answersOf w p releaseInquiries
        = [.ok (.found (.entry name)), .ok (.found (.entry version)),
          .ok (.found (.found xdgOpen)), .ok (.found (.found xdgMime))]) :
      Computes p w o ⟨found ++ releaseItems name version xdgOpen xdgMime, 0⟩

theorem reached_of_mapM {ask : Option Text → Except Numeral.TooLong Bool} {name : Text → Text}
    {versions : List Text} {pairs : List (Text × Bool)}
    (h : versions.mapM (fun v => do return (name v, ← ask (some v))) = .ok pairs) :
    ∃ reached, Reached ask versions reached ∧ pairs = (versions.map name).zip reached := by
  induction versions generalizing pairs with
  | nil =>
      cases h
      exact ⟨[], .nil, rfl⟩
  | cons v versions ih =>
      rw [List.mapM_cons] at h
      obtain ⟨first, hfirst, h⟩ := except_bind_eq_ok.mp h
      obtain ⟨rest, hrest, h⟩ := except_bind_eq_ok.mp h
      cases h
      obtain ⟨b, hb, hpair⟩ := except_bind_eq_ok.mp hfirst
      cases hpair
      obtain ⟨reached, hreached, rfl⟩ := ih hrest
      exact ⟨b :: reached, .cons hb hreached, rfl⟩

theorem computes_of_gates {p : Probes} {w : World} {o : Options} {found : Dictionary Bool}
    (hversions : o.osVersions ++ o.runtimeVersions ≠ [])
    (h : gates p.snapshot o = .ok found) : Computes p w o (.ofGates found) := by
  obtain ⟨osPairs, hosPairs, h⟩ := except_bind_eq_ok.mp h
  obtain ⟨runtimePairs, hruntimePairs, h⟩ := except_bind_eq_ok.mp h
  cases h
  obtain ⟨os, hos, rfl⟩ := reached_of_mapM hosPairs
  obtain ⟨runtime, hruntime, rfl⟩ := reached_of_mapM hruntimePairs
  exact .gates hversions hos hruntime

theorem computes_of_reportOf {p : Probes} {w : World} {o : Options} {r : Report}
    (h : (reportOf p w o).result = .ok r) : Computes p w o r := by
  cases hversions : o.osVersions.isEmpty && o.runtimeVersions.isEmpty with
  | true =>
      obtain ⟨hos, hruntime⟩ := Bool.and_eq_true_iff.mp hversions
      have hnone : o.osVersions ++ o.runtimeVersions = [] := by
        rw [List.isEmpty_iff.mp hos, List.isEmpty_iff.mp hruntime, List.append_nil]
      have hsome := toOption_eq_some_iff.mpr h
      rw [reportOf_facts_toOption p w hos hruntime] at hsome
      obtain ⟨facts, hfacts, rfl⟩ := Option.map_eq_some_iff.mp hsome
      obtain ⟨found, more, hfound, hmore, rfl⟩ := factsOf?_eq_some hfacts
      cases hrelease : o.release with
      | false =>
          rw [hrelease] at hmore
          obtain rfl : [] = more := Option.some.inj hmore
          rw [List.append_nil]
          exact .facts hnone hrelease hfound
      | true =>
          rw [hrelease] at hmore
          rcases releaseOf?_eq_some hmore with
            ⟨hnil, -⟩ | ⟨name, version, xdgOpen, xdgMime, hanswers, rfl⟩
          · cases hnil
          · exact .release hnone hrelease hfound hanswers
  | false =>
      have hsome : o.osVersions ++ o.runtimeVersions ≠ [] := by
        intro hnil
        obtain ⟨hos, hruntime⟩ := List.append_eq_nil_iff.mp hnil
        rw [hos, hruntime] at hversions
        cases hversions
      rw [reportOf, hversions] at h
      obtain ⟨found, hfound, h⟩ := Attempt.bind_eq_ok.mp h
      cases h
      cases hgates : gates p.snapshot o with
      | error e =>
          rw [hgates] at hfound
          cases hfound
      | ok found' =>
          rw [hgates] at hfound
          cases hfound
          exact computes_of_gates hsome hgates

theorem computes_of_report {w : World} {o : Options} {r : Report}
    (h : (report w o).result = .ok r) :
    ∃ p, (probesFor w o.settingsFile).result = .ok p ∧ Computes p w o r := by
  obtain ⟨p, hp, h⟩ := Attempt.bind_eq_ok.mp h
  exact ⟨p, hp, computes_of_reportOf h⟩

/-! ## Without the option -/

/-- The arguments without `--json`, where that is an option. -/
def withoutJson : List Text → List Text
  | [] => []
  | argument :: arguments =>
    if argument = hyphens then argument :: arguments
    else if argument = "--json" then withoutJson arguments
    else
      match readArgument argument, arguments with
      | .ok ⟨_, some _⟩, value :: arguments => argument :: value :: withoutJson arguments
      | _, arguments => argument :: withoutJson arguments

theorem ofLetter?_switch {letter : CodePoint} {s : Switch}
    (h : Flag.ofLetter? letter = some (.switch s)) : s = .debug := by
  unfold Flag.ofLetter? at h
  split at h
  · cases h
    rfl
  · cases h
  · cases h

theorem json_notMem_readCluster {t : Text} {reading : Reading}
    (h : readCluster t = .ok reading) : Item.switch .json ∉ reading.items := by
  fun_induction readCluster t generalizing reading with
  | case1 =>
      cases h
      exact List.not_mem_nil
  | case2 letter rest hletter => cases h
  | case3 letter rest s hletter ih =>
      obtain rfl := ofLetter?_switch hletter
      cases hrest : readCluster rest with
      | error e =>
          rw [hrest] at h
          cases h
      | ok following =>
          rw [hrest] at h
          cases h
          exact List.not_mem_cons_of_ne_of_not_mem nofun (ih hrest)
  | case4 letter rest s hletter hempty =>
      cases h
      exact List.not_mem_nil
  | case5 letter rest s hletter hempty =>
      cases h
      exact List.not_mem_cons_of_ne_of_not_mem nofun List.not_mem_nil

theorem ofLongName?_json {name : Text} (h : Flag.ofLongName? name = some (.switch .json)) :
    name = "--json" := by
  have hmem := Dictionary.mem_of_get?_eq_some (d := Flag.longNames) h
  simpa [Flag.longNames] using hmem

/-- The option is not read off any other argument. -/
theorem eq_json_of_mem {argument : Text} {reading : Reading}
    (h : readArgument argument = .ok reading) (hmem : Item.switch .json ∈ reading.items) :
    argument = "--json" := by
  unfold readArgument readOption at h
  split at h
  · dsimp only at h
    split at h
    · rename_i s hname hvalue
      cases h
      obtain rfl := Item.switch.inj (List.mem_singleton.mp hmem)
      rw [← Text.cut_eq_none hvalue]
      exact ofLongName?_json hname
    · cases h
    · cases h
      cases List.mem_singleton.mp hmem
    · cases h
      cases hmem
    · split at h
      · cases h
      · exact absurd hmem (json_notMem_readCluster h)
  · cases h
    cases List.mem_singleton.mp hmem

theorem filter_items {argument : Text} (hne : argument ≠ "--json") {reading : Reading}
    (h : readArgument argument = .ok reading) :
    reading.items.filter (· ≠ .switch .json) = reading.items := by
  rw [List.filter_eq_self]
  rintro item hitem
  refine decide_eq_true fun heq => hne (eq_json_of_mem h (heq ▸ hitem))

/-- All other items stay as they are. -/
theorem readArguments_withoutJson (arguments : List Text) :
    readArguments (withoutJson arguments)
      = (readArguments arguments).map (List.filter (· ≠ .switch .json)) := by
  fun_induction withoutJson arguments with
  | case1 => rfl
  | case2 arguments =>
      rw [readArguments, if_pos rfl]
      refine congrArg Except.ok (List.filter_eq_self.mpr fun item hitem => ?_).symm
      obtain ⟨t, -, rfl⟩ := List.mem_map.mp hitem
      rfl
  | case3 arguments hne ih =>
      rw [ih, readArguments_switch (s := .json) (by decide) (by decide)]
      cases readArguments arguments <;> rfl
  | case4 argument hhyphens hne items pending value arguments hread ih =>
      obtain ⟨s, name⟩ := pending
      have hitems : items.filter (· ≠ .switch .json) = items := filter_items hne hread
      rw [readArguments_of_pending hhyphens hread, readArguments_of_pending hhyphens hread, ih]
      cases readArguments arguments with
      | error e => rfl
      | ok rest =>
          show Except.ok _ = Except.ok _
          rw [List.filter_append, hitems, List.filter_cons_of_pos (by simp)]
  | case5 argument hhyphens hne arguments hpending ih =>
      cases hread : readArgument argument with
      | error e =>
          rw [readArguments, readArguments, if_neg hhyphens, if_neg hhyphens, hread]
          rfl
      | ok reading =>
          obtain ⟨items, pending⟩ := reading
          have hitems : items.filter (· ≠ .switch .json) = items := filter_items hne hread
          cases pending with
          | none =>
              rw [readArguments_of_reading hhyphens hread, readArguments_of_reading hhyphens hread,
                ih]
              cases readArguments arguments with
              | error e => rfl
              | ok rest =>
                  show Except.ok _ = Except.ok _
                  rw [List.filter_append, hitems]
          | some setting =>
              -- the value that is still to come does not come
              cases arguments with
              | nil =>
                  rw [withoutJson, readArguments, if_neg hhyphens, hread]
                  rfl
              | cons value arguments => exact absurd rfl (hpending _ _ value arguments hread)

theorem filterMap_filter_json {β : Type} {f : Item → Option β} (hf : f (.switch .json) = none)
    (items : List Item) : (items.filter (· ≠ .switch .json)).filterMap f = items.filterMap f := by
  rw [List.filterMap_filter]
  refine List.filterMap_congr fun item _ => ?_
  by_cases hitem : item = .switch .json
  · subst hitem
    rw [hf]
    rfl
  · rw [if_pos (decide_eq_true hitem)]

theorem contains_filter_json (items : List Item) (s : Switch) :
    (items.filter (· ≠ .switch .json)).contains (.switch s)
      = (items.contains (.switch s) && s ≠ .json) := by
  rw [Bool.eq_iff_iff]
  simp

/-- Without the option the same is asked for, but not in JSON. -/
theorem ofArguments_withoutJson (arguments : List Text) :
    Request.ofArguments (withoutJson arguments)
      = (Request.ofArguments arguments).map (·.mapOptions fun o => { o with json := false }) := by
  rw [Request.ofArguments, Request.ofArguments, readArguments_withoutJson]
  cases readArguments arguments with
  | error e => rfl
  | ok items =>
      refine congrArg Except.ok (ofItems_mapOptions ?_ ?_)
      · rw [← List.head?_filterMap, ← List.head?_filterMap, filterMap_filter_json rfl]
      · unfold Options.ofItems valuesOf
        simp only [contains_filter_json, filterMap_filter_json]
        simp

/-! ## The headline theorem -/

/-- The arguments ask for a report with these options, and this is the report. -/
structure Reaches (w : World) (arguments : List Text) (o : Options) (r : Report) : Prop where
  request : Request.ofArguments arguments = .ok (.report o)
  accepted : refusal? w o = none
  report : (Command.report w o).result = .ok r

/-- What is written of an item in a line. -/
structure ShownAs (item : Text × Fact) (line : Text) : Prop where
  left : LeftOf (lineOf item) line
  verbatim : .scalar '\x1B' ∉ lineOf item → line = lineOf item

/-- A report in JSON, and what the same command shows without `--json`. -/
structure Layouts (w : World) (arguments : List Text) (o : Options) (r : Report) : Prop where
  computed : ∃ p, (probesFor w o.settingsFile).result = .ok p ∧ Computes p w o r
  /-- One document of ASCII, and a line feed. -/
  object : (run w arguments).output = (objectOf r.items).pretty ++ ("\n" : Text)
  ascii : ∀ c ∈ (objectOf r.items).pretty, c.code < 0x80
  reads : Json.read (run w arguments).output = .ok (objectOf r.items)
  ending : (run w arguments).ending = .ok r.status
  /-- One line for each item. -/
  lines : (∀ item ∈ r.items, (lineOf item).isWellFormed = true) →
    (∃ lines, List.Forall₂ ShownAs r.items lines
        ∧ (run w (withoutJson arguments)).output = lines.flatMap fun line => line ++ ("\n" : Text))
      ∧ (run w (withoutJson arguments)).ending = (run w arguments).ending

theorem shownAs_plain (item : Text × Fact) : ShownAs item (plain (lineOf item)) where
  left := plain_eq_iff.mp rfl
  verbatim hnone := plain_of_noEscape fun _ hc heq => hnone (heq ▸ hc)

/-- What is shown in lines are the items up to the first whose line cannot be written. -/
theorem Outcome.Shows.shownLines {outcome : Outcome} {r : Report} (h : outcome.Shows false r) :
    ∃ lines, List.Forall₂ ShownAs (r.items.takeWhile fun item => (lineOf item).isWellFormed) lines
      ∧ outcome.output = lines.flatMap fun line => line ++ ("\n" : Text) := by
  refine ⟨(r.items.takeWhile fun item => (lineOf item).isWellFormed).map
    fun item => plain (lineOf item), ?_, ?_⟩
  · rw [List.forall₂_map_right_iff, List.forall₂_same]
    exact fun item _ => shownAs_plain item
  · rw [h.lines rfl, List.takeWhile_map, List.flatMap_map, List.flatMap_map]
    rfl

/-- All items are shown in lines if all lines can be written. -/
theorem Outcome.Shows.allLines {outcome : Outcome} {r : Report} (h : outcome.Shows false r)
    (hwell : ∀ item ∈ r.items, (lineOf item).isWellFormed = true) :
    ∃ lines, List.Forall₂ ShownAs r.items lines
      ∧ outcome.output = lines.flatMap fun line => line ++ ("\n" : Text) := by
  have hlines := h.shownLines
  rwa [List.takeWhile_eq_self_iff.mpr hwell] at hlines

theorem Reaches.shows {w : World} {arguments : List Text} {o : Options} {r : Report}
    (h : Reaches w arguments o r) : (run w arguments).Shows o.json r := by
  rw [run_of_report h.request h.accepted]
  exact Outcome.shows_ofReport _ _ h.report

theorem Reaches.withoutJson {w : World} {arguments : List Text} {o : Options} {r : Report}
    (h : Reaches w arguments o r) :
    Reaches w (withoutJson arguments) { o with json := false } r where
  request := by
    rw [ofArguments_withoutJson, h.request]
    rfl
  accepted := h.accepted
  report := h.report

/-- **One report in two layouts**: JSON that reads back as what was computed, and the same in
lines, with the same exit status. -/
theorem run_layouts {w : World} (hw : w.IsJoined) {arguments : List Text} {o : Options}
    {r : Report} (h : Reaches w arguments o r) (hjson : o.json = true)
    (hversions : ∀ v ∈ o.osVersions ++ o.runtimeVersions, v.isJoined = true) :
    Layouts w arguments o r := by
  obtain ⟨hobject, hending⟩ := h.shows.object hjson
  refine ⟨computes_of_report h.report, hobject, fun c hc => ?_, ?_, hending, fun hwell => ⟨?_, ?_⟩⟩
  · exact Json.code_lt_of_isWritten (isWritten_objectOf r.items c hc)
  · rw [hobject]
    exact (readsBack_report hw hversions h.report).read
  · exact h.withoutJson.shows.allLines hwell
  · rw [hending]
    exact h.withoutJson.shows.status rfl hwell

/-- A Linux with two files of settings, for a desktop named beyond the first plane of characters,
and for one named by half a pair of surrogates. -/
def astralWorld : World where
  env := [("HOME", "/h")]
  host := ⟨"Linux", "6.1", [], [], "x86_64", "CPython", "3.12.1", [], some 8, none⟩
  files := ⟨[(["pair"], .file (Utf8.encode
      "\x7b\"overrides\": \x7b\"desktop\": \"\\ud83d\\ude00\"\x7d\x7d") false),
    (["half"], .file (Utf8.encode
      "\x7b\"overrides\": \x7b\"desktop\": \"\\ud83d\"\x7d\x7d") false)], []⟩
  accounts := ⟨none, []⟩

def astralOptions : Options where
  debug := false
  settingsFile := some "/pair"
  json := true
  release := true
  osVersions := []
  runtimeVersions := []
  operands := []

theorem run_layouts_astral :
    ∃ r, Layouts astralWorld ["-s", "/pair", "--json", "--release"] astralOptions r
      ∧ r.items.get? "desktop" = some (.text "😀") := by
  have hdesktop : ((report astralWorld astralOptions).result.toOption.bind
      fun r => r.items.get? "desktop") = some (.text "😀") := by decide +kernel
  obtain ⟨r, hr, hget⟩ := Option.bind_eq_some_iff.mp hdesktop
  refine ⟨r, run_layouts ⟨by decide +kernel, by decide +kernel⟩ ⟨by decide +kernel, rfl, ?_⟩ rfl
    nofun, hget⟩
  exact toOption_eq_some_iff.mp hr

/-- The line of a gate comes without the control sequence in its name, and where a line has half a
pair of surrogates in it only the JSON can be written. -/
theorem run_loses :
    (run astralWorld ["--os-at-least", "\x1b[31m6"]).output = "os>=6: true\n"
      ∧ (run astralWorld ["--json", "--os-at-least", "\x1b[31m6"]).output
        = "\x7b\n  \"os>=\\u001b[31m6\": true\n\x7d\n"
      ∧ (run astralWorld ["-s", "/half", "--json"]).ending = .ok 0
      ∧ (run astralWorld ["-s", "/half"]).ending
        = .error (.unencodable (.surrogate ⟨0x3D, by decide⟩) 9 1) := by
  refine ⟨?_, ?_, ?_, ?_⟩ <;> decide +kernel

end HostFacts.Command
