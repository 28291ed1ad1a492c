import HostFacts.Command.Run
import HostFacts.Proofs.Command.Sequences
import HostFacts.Proofs.Json.RoundTrip

/-!
# What is shown of a report

A line can be written just if it is well-formed, and is written without its control
sequences. Of several lines all are written up to the first that is not well-formed
(`writeLines_fst`). The JSON of a report is printable ASCII and is written as it
stands (`writeLines_objectOf`). What comes of a report that was made is put together
from this (`Outcome.Shows`).
-/

namespace HostFacts.Command

/-! ## Lines -/

theorem unwritable?_of_isWellFormed {t : Text} (h : t.isWellFormed = true) :
    unwritable? t = none := by
  have hdrop : t.dropWhile (fun c => !c.isSurrogate) = [] := by
    rw [List.dropWhile_eq_nil_iff]
    exact List.all_eq_true.mp h
  rw [unwritable?, hdrop]

theorem unwritable?_of_not_isWellFormed {t : Text} (h : t.isWellFormed = false) :
    ∃ first start count, unwritable? t = some (.unencodable first start count) := by
  unfold unwritable?
  split
  · rename_i hdrop
    rw [List.dropWhile_eq_nil_iff] at hdrop
    rw [Text.isWellFormed, List.all_eq_true.mpr hdrop] at h
    cases h
  · exact ⟨_, _, _, rfl⟩

/-- A line as it is written, with its end. -/
def written (line : Text) : Text := plain line ++ ("\n" : Text)

theorem isWellFormed_written (line : Text) : (written line).isWellFormed = line.isWellFormed := by
  rw [written, Text.isWellFormed, List.all_append]
  exact (Bool.and_true _).trans (isWellFormed_plain line)

/-- What is written are the lines up to the first that cannot be. -/
theorem writeLines_fst (lines : List Text) :
    (writeLines lines).1 = (lines.takeWhile Text.isWellFormed).flatMap written := by
  induction lines with
  | nil => rfl
  | cons line lines ih =>
      cases hline : line.isWellFormed with
      | true =>
          have hnone := unwritable?_of_isWellFormed ((isWellFormed_written line).trans hline)
          rw [written] at hnone
          rw [writeLines, List.takeWhile_cons_of_pos hline, List.flatMap_cons, ← ih]
          simp only [hnone, written]
      | false =>
          obtain ⟨first, start, count, hsome⟩ :=
            unwritable?_of_not_isWellFormed ((isWellFormed_written line).trans hline)
          rw [written] at hsome
          rw [writeLines, List.takeWhile_cons_of_neg (Bool.eq_false_iff.mp hline)]
          simp only [hsome]
          rfl

theorem writeLines_snd_of_isWellFormed {lines : List Text}
    (h : ∀ line ∈ lines, line.isWellFormed = true) : (writeLines lines).2 = .ok () := by
  induction lines with
  | nil => rfl
  | cons line lines ih =>
      obtain ⟨hline, hlines⟩ := List.forall_mem_cons.mp h
      have hnone := unwritable?_of_isWellFormed ((isWellFormed_written line).trans hline)
      rw [written] at hnone
      rw [writeLines]
      simp only [hnone]
      exact ih hlines

theorem writeLines_snd_of_mem {lines : List Text} {line : Text} (hmem : line ∈ lines)
    (h : line.isWellFormed = false) :
    ∃ first start count, (writeLines lines).2 = .error (.unencodable first start count) := by
  induction lines with
  | nil => cases hmem
  | cons next lines ih =>
      rw [writeLines]
      cases hnext : next.isWellFormed with
      | false =>
          obtain ⟨first, start, count, hsome⟩ :=
            unwritable?_of_not_isWellFormed ((isWellFormed_written next).trans hnext)
          rw [written] at hsome
          simp only [hsome]
          exact ⟨first, start, count, rfl⟩
      | true =>
          have hnone := unwritable?_of_isWellFormed ((isWellFormed_written next).trans hnext)
          rw [written] at hnone
          simp only [hnone]
          refine ih ((List.mem_cons.mp hmem).resolve_left ?_)
          rintro rfl
          rw [h] at hnext
          cases hnext

/-! ## Reports in JSON -/

theorem isWritten_fact (f : Fact) (layout : Json.Layout) (depth : Nat) :
    ∀ c ∈ f.json.write layout depth, Json.isWritten c = true := by
  cases f with
  | text t => exact Json.isWritten_writeString t
  | flag b => cases b <;> rw [Fact.json, Json.write] <;> decide
  | absent =>
      rw [Fact.json, Json.write]
      decide

/-- The JSON object of the items. -/
def objectOf (items : Dictionary Fact) : Json :=
  .obj (items.map fun (name, fact) => (name, fact.json))

theorem isWritten_objectOf (items : Dictionary Fact) :
    ∀ c ∈ (objectOf items).pretty, Json.isWritten c = true := by
  have hmembers : ∀ c ∈ Json.writeMembers .indented 1
      (items.map fun (name, fact) => (name, fact.json)), Json.isWritten c = true := by
    refine Json.isWritten_writeMembers Json.Layout.isBlank_indented fun member hmember => ?_
    obtain ⟨⟨name, fact⟩, -, rfl⟩ := List.mem_map.mp hmember
    exact isWritten_fact fact _ _
  rw [objectOf, Json.pretty]
  by_cases hne : items = []
  · subst hne
    show ∀ c ∈ ("\x7b\x7d" : Text), Json.isWritten c = true
    decide
  · rw [Json.write]
    · simp only [List.forall_mem_append]
      exact ⟨⟨⟨by decide, hmembers⟩,
        Json.isWritten_gap (Json.Layout.isBlank_indented.closing 0)⟩, by decide⟩
    · simpa using hne

theorem isSurrogate_of_isWritten {c : CodePoint} (h : Json.isWritten c = true) :
    c.isSurrogate = false := by
  have hcode := Json.code_lt_of_isWritten h
  exact isSurrogate_of_code_lt (by omega)

/-- The JSON of a report can be written, and as it stands. -/
theorem writeLines_objectOf (items : Dictionary Fact) :
    writeLines [(objectOf items).pretty] = ((objectOf items).pretty ++ ("\n" : Text), .ok ()) := by
  have hplain : plain (objectOf items).pretty = (objectOf items).pretty := by
    refine plain_of_noEscape fun c hc => ?_
    rintro rfl
    cases isWritten_objectOf items _ hc
  have hwell : (objectOf items).pretty.isWellFormed = true := by
    refine List.all_eq_true.mpr fun c hc => ?_
    rw [isSurrogate_of_isWritten (isWritten_objectOf items c hc)]
    rfl
  refine Prod.ext ?_ (writeLines_snd_of_isWellFormed (List.forall_mem_singleton.mpr hwell))
  rw [writeLines_fst, List.takeWhile_cons_of_pos hwell, List.takeWhile_nil,
    List.flatMap_singleton, written, hplain]

/-! ## Outcomes -/

/-- The line of an item. -/
def lineOf (item : Text × Fact) : Text := item.1 ++ ": " ++ item.2.display

/-- An outcome shows a report, as one JSON object or line by line, and ends with its status. Only a
line with a surrogate cannot be shown, and stops the lines behind it. -/
structure Outcome.Shows (outcome : Outcome) (json : Bool) (r : Report) : Prop where
  object : json = true →
    outcome.output = (objectOf r.items).pretty ++ ("\n" : Text) ∧ outcome.ending = .ok r.status
  lines : json = false →
    outcome.output = ((r.items.map lineOf).takeWhile Text.isWellFormed).flatMap written
  status : json = false → (∀ item ∈ r.items, (lineOf item).isWellFormed = true) →
    outcome.ending = .ok r.status
  stopped : json = false → ∀ item ∈ r.items, (lineOf item).isWellFormed = false →
    ∃ first start count, outcome.ending = .error (.unencodable first start count)

/-- If all can be written, the outcome is the status of the report. -/
theorem Outcome.Shows.ending_eq {outcome : Outcome} {json : Bool} {r : Report}
    (h : outcome.Shows json r)
    (hwell : json = true ∨ ∀ item ∈ r.items, (lineOf item).isWellFormed = true) :
    outcome.ending = .ok r.status := by
  cases json with
  | true => exact (h.object rfl).2
  | false => exact h.status rfl (hwell.resolve_left Bool.false_ne_true)

theorem Outcome.shows_ofReport (env : Environment) (json : Bool) {attempt : Attempt Report}
    {r : Report} (h : attempt.result = .ok r) : (ofReport env json attempt).Shows json r := by
  have houtput : (ofReport env json attempt).output = (writeLines (r.lines json)).1 := by
    unfold ofReport
    rw [h]
  have hending : (ofReport env json attempt).ending
      = (writeLines (r.lines json)).2.map fun _ => r.status := by
    unfold ofReport
    rw [h]
  refine ⟨fun hjson => ?_, fun hjson => ?_, fun hjson hall => ?_, fun hjson item hitem hnot => ?_⟩
  · subst hjson
    have hlines : r.lines true = [(objectOf r.items).pretty] := rfl
    rw [houtput, hending, hlines, writeLines_objectOf]
    exact ⟨rfl, rfl⟩
  · subst hjson
    rw [houtput, writeLines_fst]
    rfl
  · subst hjson
    have hlines : ∀ line ∈ r.lines false, line.isWellFormed = true := by
      intro line hline
      obtain ⟨item, hitem, rfl⟩ := List.mem_map.mp hline
      exact hall item hitem
    rw [hending, writeLines_snd_of_isWellFormed hlines]
    rfl
  · subst hjson
    have hline : lineOf item ∈ r.lines false := List.mem_map.mpr ⟨item, hitem, rfl⟩
    obtain ⟨first, start, count, herror⟩ := writeLines_snd_of_mem hline hnot
    refine ⟨first, start, count, ?_⟩
    rw [hending, herror]
    rfl

theorem Outcome.ofReport_of_error (env : Environment) (json : Bool) {attempt : Attempt Report}
    {failure : Failure} (h : attempt.result = .error failure) :
    (ofReport env json attempt).output = []
      ∧ (ofReport env json attempt).ending = .error failure := by
  unfold ofReport
  rw [h]
  exact ⟨rfl, rfl⟩

end HostFacts.Command
