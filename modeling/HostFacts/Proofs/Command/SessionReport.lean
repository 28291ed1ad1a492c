import HostFacts.Proofs.Command.Results
import HostFacts.Proofs.Process
import HostFacts.Proofs.Settings.Places
import HostFacts.Proofs.Traversal

/-!
# What a session has to report

The command has a start of its own: it locates the settings, loads them, takes a
snapshot and makes probes. Without a settings file on the command line this comes
to what a session starts with (`report_eq_start`), in every world in which the
default place can be located. So a report is made of the answers that a fresh
process gets from its session, each to one inquiry (`report_toOption`), and there
is none just if one of these fails (`sessionReport?_eq_none_iff`).
-/

namespace HostFacts.Command

open Process (Inquiry Answer answers answersOf)

/-! ## What a session has to report -/

/-- The inquiries behind the facts of the release. -/
def releaseInquiries : List Inquiry :=
  [.ask .releaseName, .ask .releaseVersion, .ask .hasXdgOpen, .ask .hasXdgMime]

def releaseItems (name version : Option Text) (xdgOpen xdgMime : Bool) : Dictionary Fact :=
  [("unix_release_name", .ofText? name), ("unix_release_version", .ofText? version),
   ("has_xdg_open", .flag xdgOpen), ("has_xdg_mime", .flag xdgMime)]

def releaseOf? : List (Except Failure Answer) → Option (Dictionary Fact)
  | [] => some []
  | [.ok (.found (.entry name)), .ok (.found (.entry version)), .ok (.found (.found xdgOpen)),
      .ok (.found (.found xdgMime))] => some (releaseItems name version xdgOpen xdgMime)
  | _ => none

/-- The facts of the snapshot that is answered first, and behind them those of the release. -/
def factsOf? : List (Except Failure Answer) → Option (Dictionary Fact)
  | .ok (.snapshot s) :: others =>
    s.facts.toOption.bind fun facts => (releaseOf? others).map fun more => facts ++ more
  | _ => none

/-- The inquiries behind the gates, by the names of the gates. -/
def gateInquiries (o : Options) : Dictionary Inquiry :=
  o.osVersions.map (fun v => (Text.ofString "os>=" ++ v, .isOsVersionAtLeast (some v)))
    ++ o.runtimeVersions.map
      fun v => (Text.ofString "runtime>=" ++ v, .isRuntimeVersionAtLeast (some v))

def gateOf? : (Text × Inquiry) × Except Failure Answer → Option (Text × Bool)
  | ((name, _), .ok (.flag isOpen)) => some (name, isOpen)
  | _ => none

/-- The gates by name, each as it is answered. -/
def gatesOf? (inquiries : Dictionary Inquiry) (answers : List (Except Failure Answer)) :
    Option (Dictionary Bool) :=
  ((inquiries.zip answers).mapM gateOf?).map .ofPairs

/-- The inquiries behind all that the options ask for. -/
def inquiriesFor (o : Options) : List Inquiry :=
  if o.osVersions.isEmpty && o.runtimeVersions.isEmpty then
    .getSnapshot :: if o.release then releaseInquiries else []
  else (gateInquiries o).map Prod.snd

/-- What a fresh process can report of its session, if all its inquiries are answered. -/
def sessionReport? (w : World) (o : Options) : Option Report :=
  let answers := answers w (inquiriesFor o)
  if o.osVersions.isEmpty && o.runtimeVersions.isEmpty then
    (factsOf? answers).map fun facts => ⟨facts, 0⟩
  else (gatesOf? (gateInquiries o) answers).map .ofGates

/-- An inquiry fails, or it comes to a snapshot that cannot tell its facts. -/
def Fails : Except Failure Answer → Prop
  | .error _ => True
  | .ok (.snapshot s) => s.facts.toOption = none
  | .ok _ => False

/-! ## Starting -/

/-- Without a settings file the command has the probes of a session. -/
theorem report_eq_start {w : World} {place : Path} (hplace : Settings.defaultPath w = .ok place)
    {o : Options} (hfile : o.settingsFile = none) :
    (report w o).result
      = (Session.start w).result.bind fun p => (reportOf p w o).result := by
  rw [report_result, hfile, settingsFor_none hplace, Session.start_result]
  cases (Settings.loadDefault w).result with
  | error failure => rfl
  | ok settings =>
      show (Snapshot.detect w.host w.env settings).result.bind _
        = ((Snapshot.detect w.host w.env settings).result.map _).bind _
      cases (Snapshot.detect w.host w.env settings).result <;> rfl

/-! ## Facts -/

theorem releaseFacts_toOption (p : Probes) (w : World) :
    (releaseFacts p w).result.toOption = releaseOf? (answersOf w p releaseInquiries) := by
  unfold releaseFacts releaseInquiries
  simp only [answersOf, Inquiry.answer, Probes.Call.attempt, Attempt.result_map,
    Attempt.result_bind]
  -- each of the four answers may be missing, and then so is the whole
  generalize (p.releaseName w).1.result = name
  generalize ((p.releaseName w).2.releaseVersion w).1.result = version
  generalize (((p.releaseName w).2.releaseVersion w).2.hasTool w .xdgOpen).1.result = xdgOpen
  generalize ((((p.releaseName w).2.releaseVersion w).2.hasTool w .xdgOpen).2.hasTool w
    .xdgMime).1.result = xdgMime
  cases name <;> cases version <;> cases xdgOpen <;> cases xdgMime <;> rfl

theorem reportOf_facts_toOption (p : Probes) (w : World) {o : Options}
    (hos : o.osVersions.isEmpty = true) (hruntime : o.runtimeVersions.isEmpty = true) :
    (reportOf p w o).result.toOption
      = (factsOf? (answersOf w p (.getSnapshot :: if o.release then releaseInquiries else []))).map
        fun facts => ⟨facts, 0⟩ := by
  rw [reportOf, hos, hruntime]
  simp only [answersOf, Inquiry.answer, factsOf?, Bool.and_self, if_true, Attempt.result_bind,
    Attempt.result_ofExcept]
  cases p.snapshot.facts with
  | error e => rfl
  | ok facts =>
      cases o.release with
      | false => rfl
      | true =>
          show (releaseFacts p w >>= fun more => pure (Report.mk (facts ++ more) 0)).result.toOption
            = ((releaseOf? (answersOf w p releaseInquiries)).map fun more => facts ++ more).map
              fun facts => Report.mk facts 0
          rw [Attempt.result_bind, ← releaseFacts_toOption]
          cases (releaseFacts p w).result <;> rfl

/-! ## Gates -/

/-- Questions to the snapshot leave the probes as they are. -/
theorem answersOf_gateInquiries (p : Probes) (w : World) (o : Options) :
    answersOf w p ((gateInquiries o).map Prod.snd)
      = (gateInquiries o).map fun gate => (gate.2.answer p w).1 := by
  have hkeeps : ∀ gate ∈ gateInquiries o, (gate.2.answer p w).2 = p := by
    intro gate hgate
    rcases List.mem_append.mp hgate with hgate | hgate
    · obtain ⟨v, -, rfl⟩ := List.mem_map.mp hgate
      rfl
    · obtain ⟨v, -, rfl⟩ := List.mem_map.mp hgate
      rfl
  generalize gateInquiries o = gates at hkeeps
  induction gates with
  | nil => rfl
  | cons gate gates ih =>
      obtain ⟨hgate, hgates⟩ := List.forall_mem_cons.mp hkeeps
      rw [List.map_cons, List.map_cons, answersOf, hgate, ih hgates]

/-- Gates as the command asks for them, and as a session answers them. -/
theorem toOption_mapM_gates (name : Text → Text) (inquiry : Text → Inquiry)
    (ask : Text → Except Numeral.TooLong Bool) (versions : List Text) :
    (versions.mapM fun v => do return (name v, ← ask v)).toOption
      = versions.mapM fun v =>
        gateOf? ((name v, inquiry v), ((ask v).mapError .numeral).map .flag) := by
  rw [toOption_mapM]
  congr 1
  funext v
  cases ask v <;> rfl

theorem gates_toOption (p : Probes) (w : World) (o : Options) :
    (gates p.snapshot o).toOption
      = gatesOf? (gateInquiries o) (answersOf w p ((gateInquiries o).map Prod.snd)) := by
  let answered (gate : Text × Inquiry) := gateOf? (gate, (gate.2.answer p w).1)
  have hos : (o.osVersions.mapM fun v => do
        return (Text.ofString "os>=" ++ v, ← p.snapshot.osVersionAtLeast (some v))).toOption
      = o.osVersions.mapM fun v =>
        answered (Text.ofString "os>=" ++ v, .isOsVersionAtLeast (some v)) :=
    toOption_mapM_gates _ (fun v => .isOsVersionAtLeast (some v)) _ o.osVersions
  have hruntime : (o.runtimeVersions.mapM fun v => do
        let isOpen ← p.snapshot.runtimeVersionAtLeast (some v)
        return (Text.ofString "runtime>=" ++ v, isOpen)).toOption
      = o.runtimeVersions.mapM fun v =>
        answered (Text.ofString "runtime>=" ++ v, .isRuntimeVersionAtLeast (some v)) :=
    toOption_mapM_gates _ (fun v => .isRuntimeVersionAtLeast (some v)) _ o.runtimeVersions
  rw [answersOf_gateInquiries, gatesOf?, ← List.map_prod_left_eq_zip, List.mapM_map,
    gateInquiries, List.mapM_append, List.mapM_map, List.mapM_map]
  show _ = Option.map Dictionary.ofPairs (do
    let osGates ← o.osVersions.mapM fun v =>
      answered (Text.ofString "os>=" ++ v, .isOsVersionAtLeast (some v))
    let runtimeGates ← o.runtimeVersions.mapM fun v =>
      answered (Text.ofString "runtime>=" ++ v, .isRuntimeVersionAtLeast (some v))
    return osGates ++ runtimeGates)
  have hboth (xs ys : Except Numeral.TooLong (List (Text × Bool))) :
      (do return Dictionary.ofPairs ((← xs) ++ (← ys)) :
          Except Numeral.TooLong (Dictionary Bool)).toOption
        = Option.map Dictionary.ofPairs (do return (← xs.toOption) ++ (← ys.toOption)) := by
    cases xs <;> cases ys <;> rfl
  rw [← hos, ← hruntime]
  exact hboth _ _

theorem reportOf_gates_toOption (p : Probes) (w : World) {o : Options}
    (hversions : (o.osVersions.isEmpty && o.runtimeVersions.isEmpty) = false) :
    (reportOf p w o).result.toOption
      = (gatesOf? (gateInquiries o) (answersOf w p ((gateInquiries o).map Prod.snd))).map
        .ofGates := by
  rw [reportOf, hversions, ← gates_toOption]
  show (Attempt.ofExcept ((gates p.snapshot o).mapError .numeral) >>= _).result.toOption = _
  rw [Attempt.result_bind, Attempt.result_ofExcept]
  cases gates p.snapshot o <;> rfl

/-! ## Reports -/

theorem inquiriesFor_of_facts {o : Options}
    (h : (o.osVersions.isEmpty && o.runtimeVersions.isEmpty) = true) :
    inquiriesFor o = .getSnapshot :: if o.release then releaseInquiries else [] := if_pos h

theorem inquiriesFor_of_gates {o : Options}
    (h : (o.osVersions.isEmpty && o.runtimeVersions.isEmpty) = false) :
    inquiriesFor o = (gateInquiries o).map Prod.snd := if_neg (Bool.eq_false_iff.mp h)

theorem inquiriesFor_ne_nil (o : Options) : inquiriesFor o ≠ [] := by
  cases hversions : o.osVersions.isEmpty && o.runtimeVersions.isEmpty with
  | true =>
      rw [inquiriesFor_of_facts hversions]
      exact List.cons_ne_nil _ _
  | false =>
      rw [inquiriesFor_of_gates hversions]
      intro hnil
      rw [List.map_eq_nil_iff, gateInquiries, List.append_eq_nil_iff, List.map_eq_nil_iff,
        List.map_eq_nil_iff] at hnil
      rw [hnil.1, hnil.2] at hversions
      cases hversions

theorem sessionReport?_of_ok {w : World} {p : Probes} (hstart : (Session.start w).result = .ok p)
    (o : Options) : sessionReport? w o = (reportOf p w o).result.toOption := by
  rw [sessionReport?, Process.answers_of_ok hstart]
  cases hversions : o.osVersions.isEmpty && o.runtimeVersions.isEmpty with
  | true =>
      obtain ⟨hos, hruntime⟩ := Bool.and_eq_true_iff.mp hversions
      rw [inquiriesFor_of_facts hversions]
      exact (reportOf_facts_toOption p w hos hruntime).symm
  | false =>
      rw [inquiriesFor_of_gates hversions]
      exact (reportOf_gates_toOption p w hversions).symm

theorem sessionReport?_of_error {w : World} {failure : Failure}
    (hstart : (Session.start w).result = .error failure) (o : Options) :
    sessionReport? w o = none := by
  rw [sessionReport?, Process.answers_of_error hstart]
  cases hversions : o.osVersions.isEmpty && o.runtimeVersions.isEmpty with
  | true =>
      rw [inquiriesFor_of_facts hversions]
      rfl
  | false =>
      -- there is a gate at least, and no answer to its inquiry
      have hne := inquiriesFor_ne_nil o
      rw [inquiriesFor_of_gates hversions] at hne ⊢
      cases hgates : gateInquiries o with
      | nil =>
          rw [hgates] at hne
          exact absurd rfl hne
      | cons gate gates => rfl

/-- **The command reports what a session answers**, or nothing where an inquiry is not answered. -/
theorem report_toOption {w : World} {place : Path} (hplace : Settings.defaultPath w = .ok place)
    {o : Options} (hfile : o.settingsFile = none) :
    (report w o).result.toOption = sessionReport? w o := by
  rw [report_eq_start hplace hfile]
  cases hstart : (Session.start w).result with
  | ok p => exact (sessionReport?_of_ok hstart o).symm
  | error failure => exact (sessionReport?_of_error hstart o).symm

/-! ## Failures -/

theorem releaseOf?_eq_none_iff (p : Probes) (w : World) :
    releaseOf? (answersOf w p releaseInquiries) = none
      ↔ ∃ answer ∈ answersOf w p releaseInquiries, Fails answer := by
  unfold releaseInquiries
  simp only [answersOf, Inquiry.answer, Probes.Call.attempt, Attempt.result_map]
  generalize (p.releaseName w).1.result = name
  generalize ((p.releaseName w).2.releaseVersion w).1.result = version
  generalize (((p.releaseName w).2.releaseVersion w).2.hasTool w .xdgOpen).1.result = xdgOpen
  generalize ((((p.releaseName w).2.releaseVersion w).2.hasTool w .xdgOpen).2.hasTool w
    .xdgMime).1.result = xdgMime
  cases name <;> cases version <;> cases xdgOpen <;> cases xdgMime <;>
    simp [releaseOf?, Fails, Except.map]

theorem factsOf?_eq_none_iff (p : Probes) (w : World) (release : Bool) :
    factsOf? (answersOf w p (.getSnapshot :: if release then releaseInquiries else [])) = none
      ↔ ∃ answer ∈ answersOf w p (.getSnapshot :: if release then releaseInquiries else []),
        Fails answer := by
  have hothers : releaseOf? (answersOf w p (if release then releaseInquiries else [])) = none
      ↔ ∃ answer ∈ answersOf w p (if release then releaseInquiries else []), Fails answer := by
    cases release with
    | true => exact releaseOf?_eq_none_iff p w
    | false => exact ⟨nofun, fun ⟨_, hmem, _⟩ => absurd hmem List.not_mem_nil⟩
  generalize (if release then releaseInquiries else []) = others at hothers
  show (p.snapshot.facts.toOption.bind fun facts =>
      (releaseOf? (answersOf w p others)).map fun more => facts ++ more) = none
    ↔ ∃ answer ∈ .ok (.snapshot p.snapshot) :: answersOf w p others, Fails answer
  rw [List.exists_mem_cons_iff, ← hothers]
  show _ ↔ p.snapshot.facts.toOption = none ∨ _
  cases p.snapshot.facts.toOption with
  | none => simp
  | some facts => simp

theorem gatesOf?_eq_none_iff (p : Probes) (w : World) (o : Options) :
    gatesOf? (gateInquiries o) (answersOf w p ((gateInquiries o).map Prod.snd)) = none
      ↔ ∃ answer ∈ answersOf w p ((gateInquiries o).map Prod.snd), Fails answer := by
  have hgate : ∀ gate ∈ gateInquiries o,
      (gateOf? (gate, (gate.2.answer p w).1) = none ↔ Fails (gate.2.answer p w).1) := by
    intro gate hgate
    rcases List.mem_append.mp hgate with hgate | hgate
    · obtain ⟨v, -, rfl⟩ := List.mem_map.mp hgate
      simp only [Inquiry.answer]
      cases p.snapshot.osVersionAtLeast (some v) <;>
        simp [gateOf?, Fails, Except.map, Except.mapError]
    · obtain ⟨v, -, rfl⟩ := List.mem_map.mp hgate
      simp only [Inquiry.answer]
      cases p.snapshot.runtimeVersionAtLeast (some v) <;>
        simp [gateOf?, Fails, Except.map, Except.mapError]
  rw [answersOf_gateInquiries, gatesOf?, ← List.map_prod_left_eq_zip, Option.map_eq_none_iff,
    mapM_eq_none_iff]
  constructor
  · rintro ⟨_, hpair, hnone⟩
    obtain ⟨gate, hmem, rfl⟩ := List.mem_map.mp hpair
    exact ⟨_, List.mem_map.mpr ⟨gate, hmem, rfl⟩, (hgate gate hmem).mp hnone⟩
  · rintro ⟨_, hanswer, hfails⟩
    obtain ⟨gate, hmem, rfl⟩ := List.mem_map.mp hanswer
    exact ⟨_, List.mem_map.mpr ⟨gate, hmem, rfl⟩, (hgate gate hmem).mpr hfails⟩

/-- There is nothing to report just if an inquiry fails. -/
theorem sessionReport?_eq_none_iff (w : World) (o : Options) :
    sessionReport? w o = none ↔ ∃ answer ∈ answers w (inquiriesFor o), Fails answer := by
  cases hstart : (Session.start w).result with
  | ok p =>
      rw [sessionReport?, Process.answers_of_ok hstart]
      cases hversions : o.osVersions.isEmpty && o.runtimeVersions.isEmpty with
      | true =>
          rw [inquiriesFor_of_facts hversions, ← factsOf?_eq_none_iff]
          exact Option.map_eq_none_iff
      | false =>
          rw [inquiriesFor_of_gates hversions, ← gatesOf?_eq_none_iff]
          exact Option.map_eq_none_iff
  | error failure =>
      refine ⟨fun _ => ?_, fun _ => sessionReport?_of_error hstart o⟩
      obtain ⟨inquiry, hinquiry⟩ := List.exists_mem_of_ne_nil _ (inquiriesFor_ne_nil o)
      rw [Process.answers_of_error hstart]
      exact ⟨.error failure, List.mem_map.mpr ⟨inquiry, hinquiry, rfl⟩, trivial⟩

end HostFacts.Command
