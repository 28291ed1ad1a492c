import HostFacts.Json.Writer
import HostFacts.Proofs.Json.Lexing
import HostFacts.Proofs.Text.CodePoint

/-!
# Strings read back

A string is written character by character: as it stands, by a short escape,
or by the numbers of its UTF-16 units. The pieces that the reader finds of what
was written spell the text (`StringBody.of_text`), and joining the pairs among
pieces that spell a text gives the text back (`Spells.joinPairsOnto_eq`), unless
two surrogates stand in it that would be taken for a pair. A text with a UTF-8
form has no surrogates at all.
-/

namespace HostFacts

/-! ## Pairs -/

/-- The units of a character above U+FFFF are a pair of surrogates, and the pair is the
character. -/
theorem CodePoint.exists_pair {c : CodePoint} (h : 0x10000 ≤ c.code) :
    ∃ high low : Fin 0x800, ofCode (0xD800 + (c.code - 0x10000) / 0x400) = .surrogate high
      ∧ ofCode (0xDC00 + (c.code - 0x10000) % 0x400) = .surrogate low
      ∧ high.val < 0x400 ∧ 0x400 ≤ low.val ∧ Json.joinedPair high low = c := by
  have hlimit := c.code_lt
  have hhigh : (c.code - 0x10000) / 0x400 < 0x800 := by omega
  have hlow : 0x400 + (c.code - 0x10000) % 0x400 < 0x800 := by omega
  refine ⟨⟨_, hhigh⟩, ⟨_, hlow⟩, ofCode_surrogate hhigh, ?_, by simp only; omega,
    by simp only; omega, ?_⟩
  · rw [← ofCode_surrogate hlow, ← Nat.add_assoc]
  · have hcode : 0x10000 + (c.code - 0x10000) / 0x400 * 0x400
        + (0x400 + (c.code - 0x10000) % 0x400 - 0x400) = c.code := by omega
    rw [Json.joinedPair, hcode, ofCode_code]

namespace Text

/-- Whether one surrogate is the first and the next the second half of a pair. -/
def isPair (c d : CodePoint) : Bool :=
  match c, d with
  | .surrogate high, .surrogate low => high.val < 0x400 && 0x400 ≤ low.val
  | _, _ => false

/-- No two surrogates stand together that are a pair. -/
def isJoined : Text → Bool
  | c :: d :: t => !isPair c d && isJoined (d :: t)
  | _ => true

theorem isJoined_cons {c : CodePoint} {t : Text} (h : isJoined (c :: t) = true) :
    (∀ d ∈ t.head?, isPair c d = false) ∧ t.isJoined = true := by
  cases t with
  | nil => exact ⟨nofun, rfl⟩
  | cons d t =>
      rw [isJoined, Bool.and_eq_true, Bool.not_eq_true'] at h
      refine ⟨?_, h.2⟩
      rintro _ ⟨⟩
      exact h.1

theorem isJoined_of_isWellFormed {t : Text} (h : t.isWellFormed = true) : t.isJoined = true := by
  induction t with
  | nil => rfl
  | cons c t ih =>
      rw [isWellFormed, List.all_cons, Bool.and_eq_true, Bool.not_eq_true'] at h
      cases t with
      | nil => rfl
      | cons d t =>
          rw [isJoined, ih h.2]
          cases c with
          | scalar c => rfl
          | surrogate offset => cases h.1

end Text

namespace Json

/-! ## Digits in base sixteen -/

theorem hexValue?_hexDigit {n : Nat} (h : n < 16) : hexValue? (hexDigit n) = some n := by
  revert n
  decide

theorem hexUnit?_hexDigits {n : Nat} (h : n < 0x10000) :
    ∃ a b c d, hexDigits 4 n = [a, b, c, d] ∧ hexUnit? a b c d = some n := by
  refine ⟨_, _, _, _, rfl, ?_⟩
  simp only [hexUnit?, hexValue?_hexDigit (Nat.mod_lt _ (by decide)), Option.bind_eq_bind,
    Option.bind_some, Option.pure_def, Option.some.injEq]
  omega

/-! ## Pieces joined -/

/-- The pieces say the text, each of them one code point, or two units a character above
U+FFFF. -/
inductive Spells : List Piece → Text → Prop
  | nil : Spells [] []
  | plain {pieces : List Piece} {t : Text} (c : CodePoint) (h : Spells pieces t) :
      Spells (.plain c :: pieces) (c :: t)
  | unit {pieces : List Piece} {t : Text} (c : CodePoint) (h : Spells pieces t) :
      Spells (.unit c :: pieces) (c :: t)
  | pair {pieces : List Piece} {t : Text} {high low : Fin 0x800} (hhigh : high.val < 0x400)
      (hlow : 0x400 ≤ low.val) (h : Spells pieces t) :
      Spells (.unit (.surrogate high) :: .unit (.surrogate low) :: pieces)
        (joinedPair high low :: t)

/-- A unit is a code point of its own if it is no pair with a unit behind it. -/
theorem joinPairsOnto_unit {c : CodePoint} {pieces : List Piece}
    (h : ∀ d, pieces.head? = some (.unit d) → Text.isPair c d = false) (done : Text) :
    joinPairsOnto done (.unit c :: pieces) = joinPairsOnto (c :: done) pieces := by
  cases c with
  | scalar c => rw [joinPairsOnto]; exacts [rfl, nofun]
  | surrogate high =>
      cases pieces with
      | nil => rfl
      | cons piece pieces =>
          cases piece with
          | plain d => rw [joinPairsOnto]; exacts [rfl, nofun]
          | unit d =>
              cases d with
              | scalar d => rw [joinPairsOnto]; exacts [rfl, nofun]
              | surrogate low =>
                  have hpair := h _ rfl
                  simp only [Text.isPair, Bool.and_eq_false_iff, decide_eq_false_iff_not] at hpair
                  rw [joinPairsOnto, if_neg (by omega)]

/-- The first unit behind a code point is no pair with it that was not there in the text. -/
theorem Spells.isPair_head {pieces : List Piece} {t : Text} (h : Spells pieces t) {c : CodePoint}
    (hc : ∀ d ∈ t.head?, Text.isPair c d = false) :
    ∀ d, pieces.head? = some (.unit d) → Text.isPair c d = false := by
  intro d hd
  cases h with
  | nil => cases hd
  | plain => cases hd
  | unit =>
      cases hd
      exact hc d rfl
  | pair hhigh =>
      cases hd
      cases c with
      | scalar c => rfl
      | surrogate offset =>
          simp only [Text.isPair, Bool.and_eq_false_iff, decide_eq_false_iff_not]
          omega

/-- Joining the pairs among pieces that spell a text gives the text back. -/
theorem Spells.joinPairsOnto_eq {pieces : List Piece} {t : Text} (h : Spells pieces t)
    (ht : t.isJoined = true) (done : Text) : joinPairsOnto done pieces = done.reverse ++ t := by
  induction h generalizing done with
  | nil => exact (List.append_nil _).symm
  | plain c h ih =>
      rw [joinPairsOnto, ih (Text.isJoined_cons ht).2, List.reverse_cons, List.append_assoc]
      · rfl
      · exact nofun
  | unit c h ih =>
      obtain ⟨hhead, ht⟩ := Text.isJoined_cons ht
      rw [joinPairsOnto_unit (h.isPair_head hhead), ih ht, List.reverse_cons, List.append_assoc,
        List.singleton_append]
  | pair hhigh hlow h ih =>
      rw [joinPairsOnto, if_pos ⟨hhigh, hlow⟩, ih (Text.isJoined_cons ht).2, List.reverse_cons,
        List.append_assoc, List.singleton_append]

/-! ## Escapes read -/

theorem StringBody.unitEscape_append {n : Nat} (hn : n < 0x10000) {t rest : Text}
    {pieces : List Piece} (h : StringBody t pieces rest) :
    StringBody (unitEscape n ++ t) (.unit (.ofCode n) :: pieces) rest := by
  obtain ⟨a, b, c, d, hdigits, hunit⟩ := hexUnit?_hexDigits hn
  rw [unitEscape, hdigits]
  exact .unit hunit h

/-- The pieces of an escape spell the code point. -/
theorem StringBody.escape_append (c : CodePoint) {t rest u : Text} {pieces : List Piece}
    (h : StringBody t pieces rest) (hu : Spells pieces u) :
    ∃ more, StringBody (Json.escape c ++ t) more rest ∧ Spells more (c :: u) := by
  unfold Json.escape
  split
  iterate 7 exact ⟨_, .escape rfl h, .plain _ hu⟩
  split
  · rename_i hc
    exact ⟨_, .plain ‹_› ‹_› hc.1 h, .plain c hu⟩
  · unfold escapeByUnits
    split
    · rename_i hc
      have hunit := h.unitEscape_append hc
      rw [CodePoint.ofCode_code] at hunit
      exact ⟨_, hunit, .unit c hu⟩
    · rename_i hc
      have hlimit := c.code_lt
      obtain ⟨high, low, hfirst, hsecond, hhigh, hlow, hjoined⟩ :=
        CodePoint.exists_pair (Nat.not_lt.mp hc)
      have hunits := (h.unitEscape_append (n := 0xDC00 + (c.code - 0x10000) % 0x400)
        (by omega)).unitEscape_append (n := 0xD800 + (c.code - 0x10000) / 0x400) (by omega)
      rw [hfirst, hsecond, ← List.append_assoc] at hunits
      have hpair := hu.pair hhigh hlow
      rw [hjoined] at hpair
      exact ⟨_, hunits, hpair⟩

/-- What is written of a text is read as pieces that spell it. -/
theorem StringBody.of_text (t rest : Text) :
    ∃ pieces, StringBody (t.flatMap Json.escape ++ .scalar '"' :: rest) pieces rest
      ∧ Spells pieces t := by
  induction t with
  | nil => exact ⟨[], .close rest, .nil⟩
  | cons c t ih =>
      obtain ⟨pieces, hbody, hspells⟩ := ih
      rw [List.flatMap_cons, List.append_assoc]
      exact hbody.escape_append c hspells

/-- A written string is read as the text. -/
theorem Lexeme.of_writeString {t : Text} (h : t.isJoined = true) (rest : Text) :
    Lexeme (writeString t ++ rest) (.string (.ok t)) rest := by
  obtain ⟨pieces, hbody, hspells⟩ := StringBody.of_text t rest
  have hstring := Lexeme.string hbody
  rw [hspells.joinPairsOnto_eq h, List.reverse_nil, List.nil_append] at hstring
  rw [writeString, List.append_assoc]
  exact hstring

/-! ## Characters written -/

/-- What is written is printable ASCII and white space. -/
def isWritten (c : CodePoint) : Bool := (0x20 ≤ c.code && c.code ≤ 0x7E) || isSpace c

theorem isWritten_hexDigits (width n : Nat) : ∀ c ∈ hexDigits width n, isWritten c = true := by
  have hdigit : ∀ k < 16, isWritten (hexDigit k) = true := by decide
  induction width generalizing n with
  | zero => exact nofun
  | succ width ih =>
      rw [hexDigits, List.forall_mem_append, List.forall_mem_singleton]
      exact ⟨ih _, hdigit _ (Nat.mod_lt _ (by decide))⟩

theorem isWritten_unitEscape (n : Nat) : ∀ c ∈ unitEscape n, isWritten c = true := by
  rw [unitEscape, List.forall_mem_append]
  exact ⟨by decide, isWritten_hexDigits 4 n⟩

theorem isWritten_escape (c : CodePoint) : ∀ d ∈ escape c, isWritten d = true := by
  unfold escape
  split
  iterate 7 decide
  split
  · rename_i hc
    rw [List.forall_mem_singleton, isWritten, Bool.or_eq_true, Bool.and_eq_true]
    exact .inl ⟨decide_eq_true hc.1, decide_eq_true hc.2⟩
  · unfold escapeByUnits
    split
    · exact isWritten_unitEscape _
    · rw [List.forall_mem_append]
      exact ⟨isWritten_unitEscape _, isWritten_unitEscape _⟩

theorem isWritten_writeString (t : Text) : ∀ c ∈ writeString t, isWritten c = true := by
  rw [writeString, List.forall_mem_append, List.forall_mem_cons]
  refine ⟨⟨by decide, fun c hc => ?_⟩, by decide⟩
  obtain ⟨d, -, hd⟩ := List.mem_flatMap.mp hc
  exact isWritten_escape d c hd

end Json

end HostFacts
