import Mathlib.Data.List.TakeWhile
import HostFacts.Text.Lines

/-!
# Texts that differ in line ends only

A line ends with a line feed, a carriage return, or both. Two texts are
`SameLines` if they differ in nothing but which of these ends each line, so a
text has the same lines as the one with its carriage returns folded
(`sameLines_foldNewlines`). Where a carriage return and a line feed could be
one end or two the relation takes both readings; that makes it symmetric, and
what holds of it in one direction holds in the other.
-/

namespace HostFacts

namespace Text

def lineEnds : List Text := ["\n", "\r", "\r\n"]

theorem feed_mem : [.scalar '\n'] ∈ lineEnds := by decide

theorem return_mem : [.scalar '\r'] ∈ lineEnds := by decide

theorem both_mem : [.scalar '\r', .scalar '\n'] ∈ lineEnds := by decide

/-- A character of a line end. -/
def isReturn (c : CodePoint) : Bool := c = .scalar '\n' || c = .scalar '\r'

theorem isReturn_iff {c : CodePoint} :
    isReturn c = true ↔ c = .scalar '\n' ∨ c = .scalar '\r' := by
  simp [isReturn]

theorem isReturn_eq_false {c : CodePoint} (hn : c ≠ .scalar '\n') (hr : c ≠ .scalar '\r') :
    isReturn c = false := by
  simp [isReturn, hn, hr]

inductive SameLines : Text → Text → Prop
  | nil : SameLines [] []
  | keep (c : CodePoint) {t u : Text} (h : SameLines t u) : SameLines (c :: t) (c :: u)
  | lineEnd {e e' : Text} (he : e ∈ lineEnds) (he' : e' ∈ lineEnds) {t u : Text}
      (h : SameLines t u) : SameLines (e ++ t) (e' ++ u)

namespace SameLines

theorem symm {t u : Text} (h : SameLines t u) : SameLines u t := by
  induction h with
  | nil => exact .nil
  | keep c _ ih => exact .keep c ih
  | lineEnd he he' _ ih => exact .lineEnd he' he ih

/-- A line end is one or two characters, and each of them is one of a line end. -/
theorem lineEnd_cases {e : Text} (he : e ∈ lineEnds) :
    (∃ c, e = [c] ∧ isReturn c = true) ∨ e = [.scalar '\r', .scalar '\n'] := by
  simp only [lineEnds, List.mem_cons, List.not_mem_nil, or_false] at he
  rcases he with rfl | rfl | rfl
  · exact .inl ⟨_, rfl, rfl⟩
  · exact .inl ⟨_, rfl, rfl⟩
  · exact .inr rfl

theorem of_nil {u : Text} (h : SameLines [] u) : u = [] := by
  generalize ht : ([] : Text) = t at h
  cases h with
  | nil => rfl
  | keep => cases ht
  | lineEnd he =>
      rcases lineEnd_cases he with ⟨c, rfl, -⟩ | rfl
      · cases ht
      · cases ht

/-- A line end in front is one in the other text too, or the first half of one there. -/
theorem of_return {c : CodePoint} (hc : isReturn c = true) {t u : Text}
    (h : SameLines (c :: t) u) :
    (∃ e ∈ lineEnds, ∃ u', u = e ++ u' ∧ SameLines t u') ∨ SameLines t u := by
  generalize ht : c :: t = ct at h
  cases h with
  | nil => cases ht
  | @keep d t u h =>
      obtain ⟨rfl, rfl⟩ := List.cons.inj ht
      refine .inl ⟨[c], ?_, u, rfl, h⟩
      rcases isReturn_iff.mp hc with rfl | rfl <;> decide
  | @lineEnd e e' he he' t u h =>
      rcases lineEnd_cases he with ⟨d, rfl, -⟩ | rfl
      · obtain ⟨rfl, rfl⟩ := List.cons.inj ht
        exact .inl ⟨e', he', u, rfl, h⟩
      · obtain ⟨rfl, rfl⟩ := List.cons.inj ht
        exact .inr (.lineEnd feed_mem he' h)

/-- Within a line the texts are equal. -/
theorem of_cons {c : CodePoint} (hc : isReturn c = false) {t u : Text}
    (h : SameLines (c :: t) u) : ∃ u', u = c :: u' ∧ SameLines t u' := by
  generalize ht : c :: t = ct at h
  cases h with
  | nil => cases ht
  | keep c h =>
      obtain ⟨rfl, rfl⟩ := List.cons.inj ht
      exact ⟨_, rfl, h⟩
  | lineEnd he he' h =>
      rcases lineEnd_cases he with ⟨d, rfl, hd⟩ | rfl
      · obtain ⟨rfl, -⟩ := List.cons.inj ht
        rw [hc] at hd
        cases hd
      · obtain ⟨rfl, -⟩ := List.cons.inj ht
        cases hc

theorem of_append {w : Text} (hw : ∀ c ∈ w, isReturn c = false) {t u : Text}
    (h : SameLines (w ++ t) u) : ∃ u', u = w ++ u' ∧ SameLines t u' := by
  induction w generalizing u with
  | nil => exact ⟨u, rfl, h⟩
  | cons c w ih =>
      obtain ⟨u', rfl, h'⟩ := h.of_cons (hw c (List.mem_cons_self ..))
      obtain ⟨u'', rfl, h''⟩ := ih (fun d hd => hw d (List.mem_cons_of_mem _ hd)) h'
      exact ⟨u'', rfl, h''⟩

/-- At the end of a line one text is over, or goes on with a line end, just like the other. -/
theorem endsLine {t u : Text} (h : SameLines t u) (ht : ∀ c ∈ t.head?, isReturn c = true) :
    ∀ c ∈ u.head?, isReturn c = true := by
  cases h with
  | nil => exact ht
  | keep c h => exact ht
  | lineEnd he he' h =>
      rcases lineEnd_cases he' with ⟨c, rfl, hc⟩ | rfl
      · rintro _ ⟨⟩
        exact hc
      · rintro _ ⟨⟩
        rfl

theorem append_left (w : Text) {t u : Text} (h : SameLines t u) :
    SameLines (w ++ t) (w ++ u) := by
  induction w with
  | nil => exact h
  | cons c w ih => exact .keep c ih

/-- The first lines are equal, and what follows them has the same lines. -/
theorem firstLine {t u : Text} (h : SameLines t u) :
    ∃ w t' u', t = w ++ t' ∧ u = w ++ u' ∧ (∀ c ∈ w, isReturn c = false)
      ∧ (∀ c ∈ t'.head?, isReturn c = true) ∧ (∀ c ∈ u'.head?, isReturn c = true)
      ∧ SameLines t' u' := by
  have hline : ∀ c ∈ t.takeWhile fun c => !isReturn c, isReturn c = false := fun c hc => by
    simpa using List.mem_takeWhile_imp hc
  have hend : ∀ c ∈ (t.dropWhile fun c => !isReturn c).head?, isReturn c = true := fun c hc => by
    have := List.head?_dropWhile_not (fun c => !isReturn c) t
    rw [hc] at this
    simpa using this
  rw [← List.takeWhile_append_dropWhile (p := fun c => !isReturn c) (l := t)] at h
  obtain ⟨u', rfl, h'⟩ := h.of_append hline
  exact ⟨_, _, u', List.takeWhile_append_dropWhile.symm, rfl, hline, hend, h'.endsLine hend, h'⟩

end SameLines

/-- Folding the carriage returns of a text leaves its lines alone. -/
theorem sameLines_foldNewlines : ∀ t : Text, SameLines t t.foldNewlines
  | [] => .nil
  | [c] => by
      by_cases hc : c = .scalar '\r'
      · subst hc
        exact .lineEnd return_mem feed_mem .nil
      · rw [foldNewlines_cons hc]
        exact .keep c .nil
  | c :: d :: t => by
      by_cases hc : c = .scalar '\r'
      · subst hc
        by_cases hd : d = .scalar '\n'
        · subst hd
          rw [foldNewlines_pair]
          exact .lineEnd both_mem feed_mem (sameLines_foldNewlines t)
        · rw [foldNewlines_return fun u hu => hd (List.cons.inj hu).1]
          exact .lineEnd return_mem feed_mem (sameLines_foldNewlines (d :: t))
      · rw [foldNewlines_cons hc]
        exact .keep c (sameLines_foldNewlines (d :: t))

end Text

end HostFacts
