import Mathlib.Data.List.DropRight
import HostFacts.Proofs.OsRelease.RoundTrip
import HostFacts.Proofs.Probes.FirstLook

/-!
# The last assignment counts

What a release file says is said line by line: a line assigns or it does not
(`Assigns`), and a name has the value that the last line with an assignment to it
gives (`LastAssigns`). A line that is passed over takes nothing back. The lines are
those between the boundaries of the text (`lined_iff`), so that a text behind a
boundary only adds its own assignments (`assignments_append`). That holds even if
the boundary is a carriage return and a line feed follows: the two are one ending
then, and what is missing is an empty line, which assigns nothing
(`assignments_line`).
-/

namespace HostFacts

namespace Text

/-! ## Lines -/

/-- The text has these lines. Carriage return and line feed in a row end one line, and
the last line may lack its ending. -/
inductive Lined : (t : Text) → (lines : List Text) → Prop
  | nil : Lined [] []
  | last {line : Text} (hl : line.IsOneLine) (hne : line ≠ []) : Lined line [line]
  | cons {line ending t : Text} {lines : List Text} (hl : line.IsOneLine) (he : LineEnd ending)
      (hpair : ending = [.scalar '\r'] → ∀ u, t ≠ .scalar '\n' :: u) (ht : Lined t lines) :
      Lined (line ++ (ending ++ t)) (line :: lines)

theorem Lined.lines_eq {t : Text} {ls : List Text} (h : Lined t ls) : t.lines = ls := by
  induction h with
  | nil => rfl
  | last hl hne => exact lines_oneLine hl hne
  | cons hl he hpair _ ih => rw [lines_cons_line hl he hpair, ih]

theorem Lined.cons_char {c : CodePoint} (hc : c.endsLine = false) {t line : Text}
    {rest : List Text} (h : Lined t (line :: rest)) : Lined (c :: t) ((c :: line) :: rest) := by
  have hcons : ∀ {line : Text}, line.IsOneLine → IsOneLine (c :: line) := fun hl =>
    List.forall_mem_cons.mpr ⟨hc, hl⟩
  cases h with
  | last hl hne => exact .last (hcons hl) (List.cons_ne_nil _ _)
  | cons hl he hpair ht => exact .cons (hcons hl) he hpair ht

theorem lined_lines (t : Text) : Lined t t.lines := by
  have hempty : IsOneLine [] := fun c hc => absurd hc List.not_mem_nil
  fun_induction lines t with
  | case1 => exact .nil
  | case2 t ih =>
      refine .cons hempty .pair (fun hpair => ?_) ih
      cases hpair
  | case3 c t hpair hends ih =>
      exact .cons hempty (.boundary hends) (fun hreturn u => hpair u (List.cons.inj hreturn).1) ih
  | case4 c t hpair hends hlines ih =>
      rw [hlines] at ih
      cases ih
      exact .last (List.forall_mem_singleton.mpr (Bool.eq_false_iff.mpr hends))
        (List.cons_ne_nil _ _)
  | case5 c t hpair hends line rest hlines ih =>
      rw [hlines] at ih
      exact ih.cons_char (Bool.eq_false_iff.mpr hends)

theorem lined_iff {t : Text} {ls : List Text} : Lined t ls ↔ t.lines = ls := by
  constructor
  · exact Lined.lines_eq
  · rintro rfl
    exact lined_lines t

/-! ## Trimming -/

/-- What is left of a text without the blanks at both ends. -/
structure Trimmed (t core : Text) : Prop where
  around : ∃ before after, t = before ++ (core ++ after)
    ∧ before.isBlank = true ∧ after.isBlank = true
  first : ∀ c ∈ core.head?, c.isBlank = false
  last : ∀ c ∈ core.getLast?, c.isBlank = false

/-- Trimming as a function of Mathlib. -/
theorem trim_eq_rdropWhile (t : Text) : t.trim = t.trimStart.rdropWhile CodePoint.isBlank := rfl

theorem trimEnd_append_blank {after : Text} (h : after.isBlank = true) (t : Text) :
    trimEnd (t ++ after) = t.trimEnd := by
  have hreverse : ∀ c ∈ after.reverse, c.isBlank = true := fun c hc =>
    List.all_eq_true.mp h c (List.mem_reverse.mp hc)
  rw [trimEnd, List.reverse_append, List.dropWhile_append_of_pos hreverse, trimEnd]

theorem trim_append_blank {before after : Text} (hbefore : before.isBlank = true)
    (hafter : after.isBlank = true) (t : Text) : (before ++ (t ++ after)).trim = t.trim := by
  have hstart : trimStart (before ++ (t ++ after)) = trimStart (t ++ after) :=
    List.dropWhile_append_of_pos (List.all_eq_true.mp hbefore)
  rw [trim, hstart, trimStart, List.dropWhile_append, trim, trimStart]
  split
  · rename_i hnone
    rw [List.isEmpty_iff] at hnone
    rw [hnone, List.dropWhile_eq_nil_iff.mpr (List.all_eq_true.mp hafter)]
  · exact trimEnd_append_blank hafter _

theorem trimmed_trim (t : Text) : Trimmed t t.trim where
  around := by
    refine ⟨t.takeWhile CodePoint.isBlank, t.trimStart.rtakeWhile CodePoint.isBlank, ?_, ?_, ?_⟩
    · rw [trim_eq_rdropWhile, List.rdropWhile_append_rtakeWhile, trimStart,
        List.takeWhile_append_dropWhile]
    · exact List.all_takeWhile
    · exact List.all_eq_true.mpr fun c hc => List.mem_rtakeWhile_imp hc
  first := by
    intro c hc
    obtain ⟨blanks, hblanks⟩ := List.rdropWhile_prefix CodePoint.isBlank t.trimStart
    have hstart : c ∈ t.trimStart.head? := by
      rw [← hblanks]
      exact List.mem_head?_append_of_mem_head? hc
    have hnot := List.head?_dropWhile_not CodePoint.isBlank t
    rw [← trimStart, Option.mem_def.mp hstart] at hnot
    exact hnot
  last := by
    intro c hc
    have hne : t.trim ≠ [] := List.ne_nil_of_mem (List.mem_of_mem_getLast? hc)
    obtain ⟨_, rfl⟩ := List.mem_getLast?_eq_getLast hc
    exact Bool.eq_false_iff.mpr (List.rdropWhile_last_not CodePoint.isBlank t.trimStart hne)

theorem trim_eq_iff {t core : Text} : t.trim = core ↔ Trimmed t core := by
  constructor
  · rintro rfl
    exact trimmed_trim t
  · rintro ⟨⟨before, after, rfl, hbefore, hafter⟩, hfirst, hlast⟩
    rw [trim_append_blank hbefore hafter, trim_eq_self hfirst hlast]

end Text

namespace OsRelease

/-! ## Assignments -/

/-- A value without the pair of like quotes around it, if it stands between one. -/
inductive Unquoted : (written value : Text) → Prop
  | pair {quote : CodePoint} (h : isQuote quote = true) (value : Text) :
      Unquoted (quote :: (value ++ [quote])) value
  | bare {value : Text} (h : ¬ IsQuoted value) : Unquoted value value

theorem unquote_eq_iff {written value : Text} :
    unquote written = value ↔ Unquoted written value := by
  constructor
  · rintro rfl
    by_cases h : IsQuoted written
    · obtain ⟨quote, inner, hquote, rfl⟩ := h
      rw [unquote_quoted hquote]
      exact .pair hquote inner
    · rw [unquote_bare h]
      exact .bare h
  · rintro (⟨hquote⟩ | hbare)
    · exact unquote_quoted hquote _
    · exact unquote_bare hbare

/-- The line assigns the value to the name. The name is what stands before the first equals
sign, with its blanks; neither the name nor the value is blank. -/
inductive Assigns : (line name value : Text) → Prop
  | intro {name rest core value : Text} (hequals : equals ∉ name) (hname : name.isBlank = false)
      (htrim : rest.Trimmed core) (hunquote : Unquoted core value)
      (hvalue : value.isBlank = false) : Assigns (name ++ equals :: rest) name value

theorem assignment?_eq_some_iff {line name value : Text} :
    assignment? line = some (name, value) ↔ Assigns line name value := by
  constructor
  · intro h
    unfold assignment? at h
    split at h
    · cases h
    · rename_i before rest hcut
      obtain ⟨rfl, hequals⟩ := Text.cut_eq_some hcut
      dsimp only at h
      split at h
      · cases h
      · rename_i hblank
        cases h
        rw [Bool.or_eq_true, not_or, Bool.not_eq_true, Bool.not_eq_true] at hblank
        exact .intro hequals hblank.1 (Text.trim_eq_iff.mp rfl) (unquote_eq_iff.mp rfl) hblank.2
  · rintro ⟨hequals, hname, htrim, hunquote, hvalue⟩
    rw [← Text.trim_eq_iff] at htrim
    rw [← unquote_eq_iff] at hunquote
    rw [assignment?, Text.cut_append hequals]
    simp [htrim, hunquote, hname, hvalue]

/-- The text has a line that assigns the value to the name, and no line behind it assigns
another to that name. -/
def LastAssigns (t name value : Text) : Prop :=
  ∃ before line after, t.Lined (before ++ line :: after) ∧ Assigns line name value
    ∧ ∀ later ∈ after, ∀ other, ¬ Assigns later name other

theorem get?_read_eq_some_iff {t name value : Text} :
    (read t).get? name = some value ↔ LastAssigns t name value := by
  rw [read, Dictionary.get?_ofPairs_filterMap_eq_some_iff]
  simp only [LastAssigns, Text.lined_iff, ne_eq, assignment?_eq_some_iff]

/-! ## One text behind another -/

/-- What the lines of a text assign, in their order. -/
def assignments (t : Text) : List (Text × Text) := t.lines.filterMap assignment?

/-- A line comes first with what it assigns, whatever its ending meets. -/
theorem assignments_line {line ending : Text} (hl : line.IsOneLine) (he : Text.LineEnd ending)
    (t : Text) :
    assignments (line ++ (ending ++ t)) = (assignment? line).toList ++ assignments t := by
  have hcons : ∀ ls : List Text,
      (line :: ls).filterMap assignment? = (assignment? line).toList ++ ls.filterMap assignment? := by
    intro ls
    rw [List.filterMap_cons]
    cases assignment? line <;> rfl
  by_cases hsplit : ending = [.scalar '\r'] ∧ ∃ u, t = .scalar '\n' :: u
  · -- The boundary is the first half of an ending, and `t` is behind an empty line with the other.
    obtain ⟨rfl, u, rfl⟩ := hsplit
    have hfeed : (CodePoint.scalar '\n').endsLine = true := by decide
    have hu : Text.lines (.scalar '\n' :: u) = [] :: Text.lines u :=
      Text.lines_ending (.boundary hfeed) nofun
    have hline := Text.lines_cons_line hl .pair (t := u) nofun
    rw [assignments, assignments, hu]
    exact (congrArg _ hline).trans (hcons _)
  · rw [assignments, Text.lines_cons_line hl he fun hreturn u hu => hsplit ⟨hreturn, u, hu⟩, hcons,
      assignments]

theorem assignments_append {ending : Text} (he : Text.LineEnd ending) (a b : Text) :
    assignments (a ++ (ending ++ b)) = assignments a ++ assignments b := by
  have hlined := Text.lined_lines a
  generalize a.lines = ls at hlined
  induction hlined with
  | nil => exact assignments_line (fun c hc => absurd hc List.not_mem_nil) he b
  | @last line hl hne =>
      have hline : assignments line = (assignment? line).toList := by
        rw [assignments, Text.lines_oneLine hl hne, List.filterMap_cons]
        cases assignment? line <;> rfl
      rw [assignments_line hl he, hline]
  | cons hl he' hpair _ ih =>
      rw [List.append_assoc, List.append_assoc, assignments_line hl he', ih,
        assignments_line hl he', List.append_assoc]

theorem read_append {ending : Text} (he : Text.LineEnd ending) (a b : Text) :
    read (a ++ (ending ++ b)) = (read a).overwrite (read b) := by
  have happend := assignments_append he a b
  rw [assignments, assignments, assignments] at happend
  rw [read, happend, Dictionary.ofPairs_append, read, read]

/-! ## The headline theorem -/

/-- **The last assignment counts.** A name has the value of the last line that assigns to
it; a text behind a line boundary overwrites the text before it with what it assigns
itself; and folding the carriage returns, as the reader of files does, changes nothing. -/
theorem read_lastAssignment (t : Text) :
    (∀ name value, (read t).get? name = some value ↔ LastAssigns t name value)
      ∧ (∀ ending b, Text.LineEnd ending →
        read (t ++ (ending ++ b)) = (read t).overwrite (read b)
          ∧ ∀ name, (read (t ++ (ending ++ b))).get? name
              = ((read b).get? name).or ((read t).get? name))
      ∧ read t.foldNewlines = read t := by
  refine ⟨fun name value => get?_read_eq_some_iff, fun ending b he => ?_, read_foldNewlines t⟩
  have happend := read_append he t b
  refine ⟨happend, fun name => ?_⟩
  rw [happend]
  exact Dictionary.get?_overwrite (Dictionary.nodup_ofPairs _) _ _

/-- The first text ends with half an ending, and the second starts with the other half. The
blank value behind it takes nothing back; the quoted one counts. -/
theorem read_lastAssignment_halves :
    Text.LineEnd [.scalar '\n']
      ∧ read (("A=1\nB=2\r" : Text) ++ ([.scalar '\n'] ++ ("A= \nB='3'" : Text)))
        = [(("A" : Text), ("1" : Text)), ("B", "3")] := by
  have he : Text.LineEnd [.scalar '\n'] := .boundary (by decide)
  obtain ⟨hread, -⟩ := (read_lastAssignment "A=1\nB=2\r").2.1 [.scalar '\n'] "A= \nB='3'" he
  refine ⟨he, hread.trans ?_⟩
  decide

end OsRelease

end HostFacts
