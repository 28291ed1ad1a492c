import HostFacts.Proofs.Json.Lexing
import HostFacts.Proofs.Text.LineEnds

/-!
# The reader does not see line ends

Between tokens a line end is white space, and inside of one it cannot stand:
strings must escape it, and no number, word or mark has one. So texts with the
same lines have the same tokens (`Lexes.of_sameLines`), and what the one says the other
says too (`read_eq_ok_iff_of_sameLines`), although their characters are at
different places.
-/

namespace HostFacts

namespace Json

open Text (isReturn isReturn_iff isReturn_eq_false lineEnds SameLines)

theorem isSpace_of_isReturn {c : CodePoint} (h : isReturn c = true) : isSpace c = true := by
  rcases isReturn_iff.mp h with rfl | rfl <;> rfl

theorem isReturn_of_isSpace {c : CodePoint} (h : isSpace c = false) : isReturn c = false := by
  refine isReturn_eq_false ?_ ?_ <;> rintro rfl <;> cases h

/-! ## Inside of tokens -/

theorem isReturn_of_hexValue? {c : CodePoint} {n : Nat} (h : hexValue? c = some n) :
    isReturn c = false := by
  refine isReturn_eq_false ?_ ?_ <;> rintro rfl <;> cases h

theorem isReturn_of_unescape? {c plain : CodePoint} (h : unescape? c = some plain) :
    isReturn c = false := by
  refine isReturn_eq_false ?_ ?_ <;> rintro rfl <;> cases h

theorem isReturn_of_code {c : CodePoint} (h : 0x20 ≤ c.code) : isReturn c = false := by
  refine isReturn_eq_false ?_ ?_ <;> rintro rfl <;> exact absurd h (by decide)

theorem StringBody.of_sameLines {t rest : Text} {pieces : List Piece} (h : StringBody t pieces rest)
    {u : Text} (hu : SameLines t u) :
    ∃ rest', StringBody u pieces rest' ∧ SameLines rest rest' := by
  induction h generalizing u with
  | close rest =>
      obtain ⟨u, rfl, hrest⟩ := hu.of_cons rfl
      exact ⟨u, .close u, hrest⟩
  | @unit a b c d n t rest pieces hn h ih =>
      have hline : ∀ x ∈ [.scalar '\\', .scalar 'u', a, b, c, d], isReturn x = false := by
        simp only [hexUnit?, Option.bind_eq_bind, Option.bind_eq_some_iff] at hn
        obtain ⟨_, ha, _, hb, _, hc, _, hd, -⟩ := hn
        simp only [List.forall_mem_cons]
        exact ⟨rfl, rfl, isReturn_of_hexValue? ha, isReturn_of_hexValue? hb,
          isReturn_of_hexValue? hc, isReturn_of_hexValue? hd, nofun⟩
      obtain ⟨u, rfl, ht⟩ := hu.of_append hline
      obtain ⟨rest', hbody, hrest⟩ := ih ht
      exact ⟨rest', .unit hn hbody, hrest⟩
  | @escape c plain t rest pieces hc h ih =>
      have hline : ∀ x ∈ [.scalar '\\', c], isReturn x = false := by
        rw [List.forall_mem_cons, List.forall_mem_singleton]
        exact ⟨rfl, isReturn_of_unescape? hc⟩
      obtain ⟨u, rfl, ht⟩ := hu.of_append hline
      obtain ⟨rest', hbody, hrest⟩ := ih ht
      exact ⟨rest', .escape hc hbody, hrest⟩
  | plain hq hb hc h ih =>
      obtain ⟨u, rfl, ht⟩ := hu.of_cons (isReturn_of_code hc)
      obtain ⟨rest', hbody, hrest⟩ := ih ht
      exact ⟨rest', .plain hq hb hc hbody, hrest⟩

theorem endsNumber_of_isReturn {t : Text} (h : ∀ c ∈ t.head?, isReturn c = true) :
    EndsNumber t := fun c hc => by
  rcases isReturn_iff.mp (h c hc) with rfl | rfl <;> rfl

theorem Lexeme.of_sameLines {t rest : Text} {token : Token} (h : Lexeme t token rest) {u : Text}
    (hu : SameLines t u) : ∃ rest', Lexeme u token rest' ∧ SameLines rest rest' := by
  cases h with
  | @mark c _ hmark rest =>
      have hc : isReturn c = false := isReturn_of_isSpace (mark_spec hmark).1
      obtain ⟨u, rfl, hrest⟩ := hu.of_cons hc
      exact ⟨u, .mark hmark u, hrest⟩
  | string hbody =>
      obtain ⟨u, rfl, ht⟩ := hu.of_cons rfl
      obtain ⟨rest', hbody', hrest⟩ := hbody.of_sameLines ht
      exact ⟨rest', .string hbody', hrest⟩
  | @word word value hword rest =>
      have hline : ∀ c ∈ word, isReturn c = false := fun c hc =>
        isReturn_of_isSpace ((word_spec hword).2.1 c hc)
      obtain ⟨u, rfl, hrest⟩ := hu.of_append hline
      exact ⟨u, .word hword u, hrest⟩
  | @number t parts value hparts hvalue =>
      -- a number ends before its line does, so it is one of the first line alone
      obtain ⟨w, t', u', rfl, rfl, -, ht', hu', hrest⟩ := hu.firstLine
      have hw := (numberParts?_append (endsNumber_of_isReturn ht') w).symm.trans hparts
      have hle := (numberParts?_eq_some hw).2.1
      have hu := (numberParts?_append (endsNumber_of_isReturn hu') w).trans hw
      refine ⟨_, .number hu hvalue, ?_⟩
      rw [List.drop_append_of_le_length hle, List.drop_append_of_le_length hle]
      exact hrest.append_left _

/-! ## Between tokens -/

theorem Lexes.lineEnd {e t : Text} {tokens : List Token} (he : e ∈ lineEnds)
    (h : Lexes t tokens) : Lexes (e ++ t) tokens := by
  rcases SameLines.lineEnd_cases he with ⟨c, rfl, hc⟩ | rfl
  · exact .space (isSpace_of_isReturn hc) h
  · exact .space rfl (.space rfl h)

theorem Lexes.of_sameLines {t : Text} {tokens : List Token} (h : Lexes t tokens) {u : Text}
    (hu : SameLines t u) : Lexes u tokens := by
  induction h generalizing u with
  | nil =>
      rw [hu.of_nil]
      exact .nil
  | @space c t tokens hc h ih =>
      cases hreturn : isReturn c with
      | true =>
          rcases hu.of_return hreturn with ⟨e, he, u', rfl, ht⟩ | ht
          · exact .lineEnd he (ih ht)
          · exact ih ht
      | false =>
          obtain ⟨u', rfl, ht⟩ := hu.of_cons hreturn
          exact .space hc (ih ht)
  | @token c t rest token tokens hc htoken h ih =>
      obtain ⟨u', rfl, -⟩ := hu.of_cons (isReturn_of_isSpace hc)
      obtain ⟨rest', htoken', hrest⟩ := htoken.of_sameLines hu
      exact .token hc htoken' (ih hrest)

/-- Texts with the same lines say the same, if they say anything. -/
theorem read_eq_ok_iff_of_sameLines {t u : Text} (h : SameLines t u) {value : Json} :
    read t = .ok value ↔ read u = .ok value := by
  have hlexes : ∀ tokens, Lexes t tokens ↔ Lexes u tokens := fun tokens =>
    ⟨fun ht => ht.of_sameLines h, fun hu => hu.of_sameLines h.symm⟩
  simp only [read_eq_ok_iff, hlexes]

end Json

end HostFacts
