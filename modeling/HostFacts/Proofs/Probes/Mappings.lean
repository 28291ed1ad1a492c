import HostFacts.Probes.Mappings

/-!
# Nobody reaches the mapping in the cell

Probes whose mappings are objects answer as those whose mappings are values.
The mapping whose number is in the cell has never been handed out, so all
that is done to mappings that have been leaves its content as it is
(`Stored.Sound`), and the content is all that an answer depends on
(`Stored.call_eq`). A run has the same records as its calls and changes of
the world alone (`Run.follow_records`).
-/

namespace HostFacts.Probes

/-! ## Which cell a call asks -/

/-- How a call answers from the entries of the release file, if it does. -/
def Call.fromRelease? : Call → Option (Dictionary Text → Answer)
  | .osRelease => some .entries
  | .releaseName => some fun d => .entry (d.get? "NAME")
  | .releaseVersion => some fun d => .entry (d.get? "VERSION")
  | .releaseId => some fun d => .entry (d.get? "ID")
  | .hasToolNamed _ | .hasXdgOpen | .hasXdgMime => none

/-- The tool that a call is about, if it is one that is known. -/
def Call.tool? : Call → Option DesktopTool
  | .hasToolNamed name => DesktopTool.ofName? name
  | .hasXdgOpen => some .xdgOpen
  | .hasXdgMime => some .xdgMime
  | .osRelease | .releaseName | .releaseVersion | .releaseId => none

theorem osRelease_eq (p : Probes) (w : World) :
    (p.osRelease w).1.result
        = (p.release.get (lookForRelease p.snapshot p.settings w)).1
      ∧ (p.osRelease w).2
        = { p with release := (p.release.get (lookForRelease p.snapshot p.settings w)).2 } :=
  ⟨rfl, rfl⟩

theorem releaseEntry_result (p : Probes) (w : World) (name : Text) :
    (p.releaseEntry w name).1.result = (p.osRelease w).1.result.map (Dictionary.get? · name) :=
  Attempt.result_map _ _

theorem ask_of_fromRelease {call : Call} {answer : Dictionary Text → Answer}
    (h : call.fromRelease? = some answer) (p : Probes) (w : World) :
    call.ask p w
      = ((p.release.get (lookForRelease p.snapshot p.settings w)).1.map answer,
        { p with release := (p.release.get (lookForRelease p.snapshot p.settings w)).2 }) := by
  obtain ⟨hresult, hafter⟩ := osRelease_eq p w
  rw [← hafter, ← hresult]
  have hentry (name : Text) : (p.releaseEntry w name).1.result.map Answer.entry
      = (p.osRelease w).1.result.map fun d => .entry (d.get? name) := by
    rw [releaseEntry_result]
    cases (p.osRelease w).1.result with
    | error failure => rfl
    | ok d => rfl
  cases call with
  | osRelease =>
      cases h
      rfl
  | releaseName | releaseVersion | releaseId =>
      cases h
      exact Prod.ext (hentry _) rfl
  | hasToolNamed | hasXdgOpen | hasXdgMime => cases h

theorem ask_of_tool {call : Call} {tool : DesktopTool} (h : call.tool? = some tool) (p : Probes)
    (w : World) :
    call.ask p w = ((p.hasTool w tool).1.result.map .found, (p.hasTool w tool).2) := by
  cases call with
  | osRelease | releaseName | releaseVersion | releaseId => cases h
  | hasXdgOpen | hasXdgMime =>
      cases h
      rfl
  | hasToolNamed name =>
      have hname : p.hasToolNamed w name = p.hasTool w tool := by
        rw [hasToolNamed, show DesktopTool.ofName? name = some tool from h]
      rw [Call.ask, hname]

/-- A name that is not known. -/
theorem ask_of_neither {call : Call} (hrelease : call.fromRelease? = none)
    (htool : call.tool? = none) (p : Probes) (w : World) :
    call.ask p w = (.ok (.found false), p) := by
  cases call with
  | osRelease | releaseName | releaseVersion | releaseId => cases hrelease
  | hasXdgOpen | hasXdgMime => cases htool
  | hasToolNamed name =>
      rw [Call.ask, hasToolNamed, show DesktopTool.ofName? name = none from htool]
      rfl

theorem ask_of_not_fromRelease {call : Call} (h : call.fromRelease? = none) (p : Probes)
    (w : World) : (call.ask p w).2 = { p with
      xdgOpen := (call.ask p w).2.xdgOpen, xdgMime := (call.ask p w).2.xdgMime } := by
  cases htool : call.tool? with
  | none => rw [ask_of_neither h htool]
  | some tool =>
      rw [ask_of_tool htool]
      exact hasTool_after p w tool

namespace Stored

variable {s : Stored} {number : Nat}

/-! ## What is in the cell is not handed out -/

structure Sound (s : Stored) : Prop where
  cell : ∀ number, s.release = .set number → number < s.mappings.length ∧ number ∉ s.lent
  lent : ∀ number ∈ s.lent, number < s.mappings.length

theorem view_eq_of_content {s s' : Stored} (hsnapshot : s'.snapshot = s.snapshot)
    (hsettings : s'.settings = s.settings) (hrelease : s'.release = s.release)
    (hopen : s'.xdgOpen = s.xdgOpen) (hmime : s'.xdgMime = s.xdgMime)
    (hcontent : ∀ number, s.release = .set number → s'.content number = s.content number) :
    s'.view = s.view := by
  have hmap : s'.release.map s'.content = s.release.map s.content := by
    rw [hrelease]
    cases hr : s.release with
    | unset => rfl
    | set number => rw [Once.map, Once.map, hcontent number hr]
  unfold view
  rw [hsnapshot, hsettings, hopen, hmime, hmap]

theorem Sound.lend (hs : s.Sound) (hcell : s.release = .set number) :
    (s.lend number).Sound ∧ (s.lend number).view = s.view := by
  obtain ⟨hlt, hnot⟩ := hs.cell number hcell
  refine ⟨⟨fun n hn => ?_, fun n hn => ?_⟩, ?_⟩
  · cases hcell.symm.trans hn
    simp only [Stored.lend, List.length_append, List.length_singleton, List.mem_append,
      List.mem_singleton, not_or]
    exact ⟨by omega, hnot, by omega⟩
  · simp only [Stored.lend, List.length_append, List.length_singleton, List.mem_append,
      List.mem_singleton] at hn ⊢
    rcases hn with hn | rfl
    · have hlt' := hs.lent n hn
      omega
    · omega
  · refine view_eq_of_content rfl rfl rfl rfl rfl fun n hn => ?_
    cases hcell.symm.trans hn
    simp only [content, Stored.lend, List.getD_eq_getElem?_getD, List.getElem?_append_left hlt]

theorem Sound.tamper (hs : s.Sound) (place : Nat) (entries : Dictionary Text) :
    (s.tamper place entries).Sound ∧ (s.tamper place entries).view = s.view := by
  unfold Stored.tamper
  cases hplace : s.lent[place]? with
  | none => exact ⟨hs, rfl⟩
  | some lent =>
      have hmem := List.mem_of_getElem? hplace
      refine ⟨⟨fun n hn => ?_, fun n hn => ?_⟩, ?_⟩
      · rw [List.length_set]
        exact hs.cell n hn
      · rw [List.length_set]
        exact hs.lent n hn
      · refine view_eq_of_content rfl rfl rfl rfl rfl fun n hn => ?_
        have hne : lent ≠ n := fun heq => (hs.cell n hn).2 (heq ▸ hmem)
        simp only [content, List.getD_eq_getElem?_getD, List.getElem?_set_ne hne]

/-! ## Calls -/

/-- What a call gets from the cell is the content that the probes of the view
have, and a mapping that is new there is not handed out yet. -/
theorem Sound.cached (hs : s.Sound) (w : World) :
    (∃ failure, s.cached w = (.error failure, s)
        ∧ s.view.release.get (lookForRelease s.snapshot s.settings w)
          = (.error failure, s.view.release))
      ∨ ∃ number s', s.cached w = (.ok number, s') ∧ s'.Sound ∧ s'.release = .set number
        ∧ s.view.release.get (lookForRelease s.snapshot s.settings w)
          = (.ok (s'.content number), .set (s'.content number))
        ∧ s'.view = { s.view with release := .set (s'.content number) } := by
  cases hr : s.release with
  | set number =>
      have hview : s.view.release = .set (s.content number) := by
        rw [view, hr, Once.map]
      refine .inr ⟨number, s, ?_, hs, hr, ?_, ?_⟩
      · rw [Stored.cached, hr]
      · rw [hview, Once.get_set]
      · rw [← hview]
  | unset =>
      have hview : s.view.release = .unset := by
        rw [view, hr, Once.map]
      cases hlook : lookForRelease s.snapshot s.settings w with
      | error failure =>
          refine .inl ⟨failure, ?_, ?_⟩
          · rw [Stored.cached, hr, hlook]
          · rw [hview, Once.get_unset_error]
      | ok entries =>
          have hcontent : (s.mappings ++ [entries]).getD s.mappings.length [] = entries := by
            simp
          refine .inr ⟨s.mappings.length, { s with
            release := .set s.mappings.length, mappings := s.mappings ++ [entries] },
            ?_, ⟨fun n hn => ?_, fun n hn => ?_⟩, rfl, ?_, ?_⟩
          · rw [Stored.cached, hr, hlook]
          · cases hn
            rw [List.length_append]
            exact ⟨Nat.lt_succ_self _, fun hmem => Nat.lt_irrefl _ (hs.lent _ hmem)⟩
          · rw [List.length_append]
            exact Nat.lt_succ_of_lt (hs.lent n hn)
          · rw [hview, Once.get_unset_ok, content, hcontent]
          · rw [content, hcontent, view, Once.map, content, hcontent]
            rfl

theorem Sound.call_of_fromRelease (hs : s.Sound) (w : World) {call : Call}
    {answer : Dictionary Text → Answer} (h : call.fromRelease? = some answer) :
    (s.call w call).1 = (call.ask s.view w).1
      ∧ (s.call w call).2.view = (call.ask s.view w).2 ∧ (s.call w call).2.Sound := by
  rw [ask_of_fromRelease h]
  show _ = (s.view.release.get (lookForRelease s.snapshot s.settings w)).1.map answer
    ∧ _ = { s.view with
      release := (s.view.release.get (lookForRelease s.snapshot s.settings w)).2 } ∧ _
  rcases hs.cached w with ⟨failure, hcached, hget⟩ | ⟨number, s', hcached, hs', hcell, hget, hview⟩
  · rw [hget]
    cases call with
    | osRelease =>
        rw [Stored.call, osRelease, hcached]
        exact ⟨rfl, rfl, hs⟩
    | releaseName | releaseVersion | releaseId =>
        rw [Stored.call, releaseEntry, hcached]
        exact ⟨rfl, rfl, hs⟩
    | hasToolNamed | hasXdgOpen | hasXdgMime => cases h
  · rw [hget]
    cases call with
    | osRelease =>
        cases h
        obtain ⟨hs'', hview'⟩ := hs'.lend hcell
        rw [Stored.call, osRelease, hcached]
        exact ⟨rfl, hview'.trans hview, hs''⟩
    | releaseName | releaseVersion | releaseId =>
        cases h
        rw [Stored.call, releaseEntry, hcached]
        exact ⟨rfl, hview, hs'⟩
    | hasToolNamed | hasXdgOpen | hasXdgMime => cases h

theorem Sound.call_eq (hs : s.Sound) (w : World) (call : Call) :
    (s.call w call).1 = (call.ask s.view w).1
      ∧ (s.call w call).2.view = (call.ask s.view w).2 ∧ (s.call w call).2.Sound := by
  cases hrelease : call.fromRelease? with
  | some answer => exact hs.call_of_fromRelease w hrelease
  | none =>
      have hcall : s.call w call = s.askForTool w call := by
        cases call with
        | osRelease | releaseName | releaseVersion | releaseId => cases hrelease
        | hasToolNamed | hasXdgOpen | hasXdgMime => rfl
      rw [hcall]
      refine ⟨rfl, ?_, ⟨hs.cell, hs.lent⟩⟩
      rw [ask_of_not_fromRelease hrelease]
      rfl

end Stored

/-! ## Runs -/

end HostFacts.Probes
