import HostFacts.Text.CodePoint

/-!
# Lines

A line ends at any of Unicode's line boundaries, of which carriage return
and line feed together are one. Files are read with their carriage returns
folded into line feeds first; `lines` does not see the difference.
-/

namespace HostFacts

/-- Line feed, carriage return, the other vertical controls, the file, group
and record separators, next line, and the line and paragraph separators. -/
def CodePoint.endsLine (c : CodePoint) : Bool :=
  c.inRanges [(0x0A, 0x0D), (0x1C, 0x1E), (0x85, 0x85), (0x2028, 0x2029)]

namespace Text

/-- The lines without their ends. Nothing follows a line end that closes the text. -/
def lines : Text → List Text
  | [] => []
  | .scalar '\r' :: .scalar '\n' :: t => [] :: lines t
  | c :: t =>
    if c.endsLine then [] :: lines t
    else
      match lines t with
      | [] => [[c]]
      | line :: rest => (c :: line) :: rest

/-- Puts the text behind `done`, which is kept backwards, with its carriage returns folded. -/
def foldOnto (done : Text) : Text → Text
  | [] => done.reverse
  | .scalar '\r' :: .scalar '\n' :: t => foldOnto (.scalar '\n' :: done) t
  | .scalar '\r' :: t => foldOnto (.scalar '\n' :: done) t
  | c :: t => foldOnto (c :: done) t

/-- Every carriage return becomes a line feed, together with a line feed that follows it. -/
def foldNewlines (t : Text) : Text := foldOnto [] t

theorem foldOnto_append (done before t : Text) :
    foldOnto (done ++ before) t = before.reverse ++ foldOnto done t := by
  fun_induction foldOnto done t with
  | case1 done => simp [foldOnto]
  | case2 done t ih => rw [foldOnto, ← List.cons_append, ih]
  | case3 done t hpair ih =>
      rw [foldOnto, ← List.cons_append, ih]
      exact hpair
  | case4 done c t hpair hreturn ih =>
      rw [foldOnto, ← List.cons_append, ih]
      · exact hpair
      · exact hreturn

theorem foldNewlines_pair (t : Text) :
    foldNewlines (.scalar '\r' :: .scalar '\n' :: t) = .scalar '\n' :: foldNewlines t :=
  foldOnto_append [] [.scalar '\n'] t

theorem foldNewlines_return {t : Text} (h : ∀ u, t ≠ .scalar '\n' :: u) :
    foldNewlines (.scalar '\r' :: t) = .scalar '\n' :: foldNewlines t := by
  rw [foldNewlines, foldOnto]
  · exact foldOnto_append [] [.scalar '\n'] t
  · exact h

theorem foldNewlines_cons {c : CodePoint} (hc : c ≠ .scalar '\r') (t : Text) :
    foldNewlines (c :: t) = c :: foldNewlines t := by
  rw [foldNewlines, foldOnto]
  · exact foldOnto_append [] [c] t
  · exact fun _ h _ => hc h
  · exact hc

theorem lines_cons {c : CodePoint} (hc : c ≠ .scalar '\r') (t : Text) :
    lines (c :: t) = if c.endsLine then [] :: lines t else
      match lines t with
      | [] => [[c]]
      | line :: rest => (c :: line) :: rest := by
  rw [lines]
  exact fun _ h _ => hc h

theorem lines_foldNewlines (t : Text) : lines (foldNewlines t) = lines t := by
  fun_induction lines t with
  | case1 => rfl
  | case2 t ih =>
      rw [foldNewlines_pair, lines_cons (by decide), ih]
      rfl
  | case3 c t hpair hends ih =>
      by_cases hc : c = .scalar '\r'
      · subst hc
        rw [foldNewlines_return fun u hu => hpair u rfl hu, lines_cons (by decide), ih]
        rfl
      · rw [foldNewlines_cons hc, lines_cons hc, if_pos hends, ih]
  | case4 c t hpair hends hlines ih =>
      have hc : c ≠ .scalar '\r' := fun h => hends (h ▸ rfl)
      rw [foldNewlines_cons hc, lines_cons hc, if_neg hends, ih, hlines]
  | case5 c t hpair hends line rest hlines ih =>
      have hc : c ≠ .scalar '\r' := fun h => hends (h ▸ rfl)
      rw [foldNewlines_cons hc, lines_cons hc, if_neg hends, ih, hlines]

end Text

end HostFacts
