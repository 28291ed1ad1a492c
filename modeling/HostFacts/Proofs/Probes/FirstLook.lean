import HostFacts.Proofs.Probes.Mappings

/-!
# The first look decides

Probes look at the world once for each thing that they are asked about, and
what they found then they tell for ever after, whatever becomes of the world.
`releaseIn` and `toolIn` say what there is to see in a world. The first call
that is answered at all settles the answer of all later ones (`FirstDecides`).
A look at the release file can fail, if its path holds U+0000; a call that
comes to such a look fails too and settles nothing.

The argument is the same for every cell: `Keeps` says how calls treat one, and
`Keeps.firstDecides` follows it through a run.
-/

namespace HostFacts

/-- Files are read with their line ends made uniform, which changes nothing. -/
theorem OsRelease.read_foldNewlines (t : Text) : read t.foldNewlines = read t := by
  rw [read, read, Text.lines_foldNewlines]

namespace Probes

/-! ## What there is to see -/

/-- The entries of the release file in a world: none unless the system is a
Unix other than macOS and the file can be read as UTF-8. A path that holds
U+0000 is an error. -/
def releaseIn (snapshot : Snapshot) (settings : Settings) (w : World) :
    Except Failure (Dictionary Text) :=
  if snapshot.isUnix && !snapshot.isMac then
    if (Path.ofText settings.releaseFile).hasNul then .error .embeddedNul
    else
      match w.files.content (.ofText settings.releaseFile) with
      | .error _ => .ok []
      | .ok bytes =>
        match Utf8.decode bytes with
        | .error _ => .ok []
        | .ok t => .ok (OsRelease.read t)
  else .ok []

/-- Whether there is a file in the directory for executables that has the name
of the tool and may be executed. -/
def toolIn (settings : Settings) (tool : DesktopTool) (w : World) : Bool :=
  let path := (Path.ofText settings.executableDirectory).child tool.name
  if path.hasNul then false
  else
    match w.files.entry path with
    | .ok (.file _ executable _) => executable
    | .ok (.directory _ _) | .ok (.link _) | .error _ => false

theorem load_result (w : World) (path : Path) :
    (OsRelease.load w path).result
      = if path.hasNul then .error .embeddedNul
        else
          match w.files.content path with
          | .error _ => .ok []
          | .ok bytes =>
            match Utf8.decode bytes with
            | .error _ => .ok []
            | .ok t => .ok (OsRelease.read t) := by
  rw [OsRelease.load, World.readText_eq]
  by_cases hnul : path.hasNul
  · rw [if_pos hnul, if_pos hnul]
    rfl
  · rw [if_neg hnul, if_neg hnul]
    cases w.files.content path with
    | error fault => rfl
    | ok bytes =>
        dsimp only
        cases Utf8.decode bytes with
        | error fault => rfl
        | ok t => exact congrArg Except.ok (OsRelease.read_foldNewlines t)

theorem lookForRelease_eq (snapshot : Snapshot) (settings : Settings) (w : World) :
    lookForRelease snapshot settings w = releaseIn snapshot settings w := by
  unfold lookForRelease OsRelease.look releaseIn
  rw [← load_result]
  cases snapshot.isUnix <;> cases snapshot.isMac <;> rfl

theorem lookFor_result (settings : Settings) (tool : DesktopTool) (w : World) :
    (tool.lookFor w (.ofText settings.executableDirectory)).result
      = .ok (toolIn settings tool w) := by
  unfold DesktopTool.lookFor toolIn World.isExecutable FileTree.isExecutable FileTree.entry?
  generalize (Path.ofText settings.executableDirectory).child tool.name = path
  by_cases hnul : path.hasNul
  · simp only [hnul, if_true]
    rfl
  · simp only [hnul]
    cases w.files.entry path with
    | ok entry => cases entry <;> rfl
    | error fault =>
        cases fault <;> rfl

/-! ## Records of a run -/

section Deciding

variable {β : Type} {look : World → Except Failure β} {asks : Call → Option (β → Answer)}

/-- If the call is about it, it failed as a look does in its world. -/
def Record.FailsAs (look : World → Except Failure β) (asks : Call → Option (β → Answer))
    (r : Record) : Prop :=
  ∀ answer, asks r.call = some answer →
    ∃ failure, look r.world = .error failure ∧ r.result = .error failure

/-- If the call is about it, it was answered from `b`. -/
def Record.AnswersFrom (b : β) (asks : Call → Option (β → Answer)) (r : Record) : Prop :=
  ∀ answer, asks r.call = some answer → r.result = .ok (answer b)

/-- All calls about it failed, or the first one that did not has found `b` in
its world, and it and all calls behind it were answered from that. -/
def FirstDecides (look : World → Except Failure β) (asks : Call → Option (β → Answer))
    (records : List Record) : Prop :=
  (∀ r ∈ records, r.FailsAs look asks)
    ∨ ∃ before first after b, records = before ++ first :: after
      ∧ (∀ r ∈ before, r.FailsAs look asks)
      ∧ (asks first.call).isSome ∧ look first.world = .ok b
      ∧ ∀ r ∈ first :: after, r.AnswersFrom b asks

theorem FirstDecides.cons {records : List Record} (h : FirstDecides look asks records)
    {r : Record} (hr : r.FailsAs look asks) : FirstDecides look asks (r :: records) := by
  rcases h with hall | ⟨before, first, after, b, rfl, hbefore, hfirst⟩
  · exact .inl fun r' hr' => by
      rcases List.mem_cons.mp hr' with rfl | hr'
      · exact hr
      · exact hall r' hr'
  · refine .inr ⟨r :: before, first, after, b, rfl, fun r' hr' => ?_, hfirst⟩
    rcases List.mem_cons.mp hr' with rfl | hr'
    · exact hr
    · exact hbefore r' hr'

/-- In probes with the property, calls that are about it ask the cell, with
that look, and no others change it. -/
structure Keeps (look : World → Except Failure β) (asks : Call → Option (β → Answer))
    (cell : Probes → Once β) (good : Probes → Prop) : Prop where
  stays : ∀ p w (call : Call), good p → good (call.ask p w).2
  asked : ∀ p w (call : Call) answer, good p → asks call = some answer →
    (call.ask p w).1 = ((cell p).get (look w)).1.map answer
      ∧ cell (call.ask p w).2 = ((cell p).get (look w)).2
  other : ∀ p w (call : Call), good p → asks call = none → cell (call.ask p w).2 = cell p

variable {cell : Probes → Once β} {good : Probes → Prop}

end Deciding

/-! ## The three cells -/

/-- The probes are for this snapshot and under these settings. -/
def IsFor (snapshot : Snapshot) (settings : Settings) (p : Probes) : Prop :=
  p.snapshot = snapshot ∧ p.settings = settings

variable {snapshot : Snapshot} {settings : Settings}

theorem IsFor.ask {p : Probes} (h : IsFor snapshot settings p) (w : World) (call : Call) :
    IsFor snapshot settings (call.ask p w).2 := by
  cases hrelease : call.fromRelease? with
  | some answer =>
      rw [ask_of_fromRelease hrelease]
      exact h
  | none =>
      rw [ask_of_not_fromRelease hrelease]
      exact h

theorem keeps_release :
    Keeps (releaseIn snapshot settings) Call.fromRelease? Probes.release
      (IsFor snapshot settings) where
  stays p w call hp := hp.ask w call
  asked p w call answer hp hasks := by
    obtain ⟨rfl, rfl⟩ := hp
    rw [ask_of_fromRelease hasks, ← lookForRelease_eq]
    exact ⟨rfl, rfl⟩
  other p w call hp hasks := by
    rw [ask_of_not_fromRelease hasks]

/-- How a call answers if it is about this tool. -/
def Call.fromTool? (tool : DesktopTool) (call : Call) : Option (Bool → Answer) :=
  if call.tool? = some tool then some .found else none

theorem hasTool_eq {p : Probes} (hx : p.snapshot.isXWindow = true) (w : World)
    (tool : DesktopTool) :
    (p.hasTool w tool).1.result = ((p.cell tool).get (.ok (toolIn p.settings tool w))).1
      ∧ (p.hasTool w tool).2
        = p.withCell tool
          ((p.cell tool).get (.ok (toolIn p.settings tool w) : Except Failure Bool)).2 := by
  rw [← lookFor_result, hasTool, if_pos hx]
  exact ⟨rfl, rfl⟩

theorem keeps_tool (hx : snapshot.isXWindow = true) (tool : DesktopTool) :
    Keeps (fun w => .ok (toolIn settings tool w)) (Call.fromTool? tool) (·.cell tool)
      (IsFor snapshot settings) where
  stays p w call hp := hp.ask w call
  asked p w call answer hp hasks := by
    obtain ⟨rfl, rfl⟩ := hp
    unfold Call.fromTool? at hasks
    split at hasks
    · rename_i htool
      cases hasks
      obtain ⟨hresult, hafter⟩ := hasTool_eq hx w tool
      rw [ask_of_tool htool, hresult, hafter, cell_withCell]
      exact ⟨rfl, rfl⟩
    · cases hasks
  other p w call hp hasks := by
    obtain ⟨rfl, rfl⟩ := hp
    cases hrelease : call.fromRelease? with
    | some answer =>
        rw [ask_of_fromRelease hrelease]
        cases tool <;> rfl
    | none =>
        cases htool : call.tool? with
        | none => rw [ask_of_neither hrelease htool]
        | some other =>
            have hne : other ≠ tool := by
              rintro rfl
              rw [Call.fromTool?, if_pos htool] at hasks
              cases hasks
            rw [ask_of_tool htool, (hasTool_eq hx w other).2]
            exact cell_withCell_of_ne p hne _

/-- Where nothing is drawn by X11 no tool is there, nor is one whose name is
not known, and the cells stay as they are. -/
theorem ask_of_no_tool {p : Probes} {call : Call} (hrelease : call.fromRelease? = none)
    (hno : call.tool? = none ∨ p.snapshot.isXWindow = false) (w : World) :
    call.ask p w = (.ok (.found false), p) := by
  cases htool : call.tool? with
  | none => exact ask_of_neither hrelease htool p w
  | some tool =>
      rcases hno with hnone | hx
      · cases htool.symm.trans hnone
      · have hnot : ¬ p.snapshot.isXWindow = true := by
          rw [hx]
          exact nofun
        rw [ask_of_tool htool, hasTool, if_neg hnot]
        rfl

end Probes

end HostFacts
