import Mathlib.Data.List.Basic
import HostFacts.Json.Reader
import HostFacts.Proofs.Json.Numbers

/-!
# The tokens of a text

The reader finds a token, takes it and goes on behind it, and carries along a
position for its refusals. Here the two are pulled apart. `Lexes` says of
which tokens a text consists, and `State.run` what a list of tokens comes to;
neither knows of positions. A text has a value just if it has tokens and they
come to that value (`read_eq_ok_iff`), so a property of the reader is one of
the characters of single tokens and one of the states between tokens.
-/

namespace HostFacts

theorem toOption_eq_some_iff {ε α : Type} {x : Except ε α} {a : α} :
    x.toOption = some a ↔ x = .ok a := by
  cases x with
  | error e => exact ⟨nofun, nofun⟩
  | ok b => exact ⟨fun h => congrArg _ (Option.some.inj h), fun h => congrArg _ (Except.ok.inj h)⟩

namespace Json

/-! ## Strings -/

/-- The text behind the opening quote of a string: the pieces that the string holds, its surrogate
pairs still apart, and what follows the closing quote. -/
inductive StringBody : Text → List Piece → Text → Prop
  | close (rest : Text) : StringBody (.scalar '"' :: rest) [] rest
  | unit {a b c d : CodePoint} {n : Nat} {t rest : Text} {pieces : List Piece}
      (hn : hexUnit? a b c d = some n) (h : StringBody t pieces rest) :
      StringBody (.scalar '\\' :: .scalar 'u' :: a :: b :: c :: d :: t)
        (.unit (.ofCode n) :: pieces) rest
  | escape {c plain : CodePoint} {t rest : Text} {pieces : List Piece}
      (hc : unescape? c = some plain) (h : StringBody t pieces rest) :
      StringBody (.scalar '\\' :: c :: t) (.plain plain :: pieces) rest
  | plain {c : CodePoint} {t rest : Text} {pieces : List Piece} (hq : c ≠ .scalar '"')
      (hb : c ≠ .scalar '\\') (hc : 0x20 ≤ c.code) (h : StringBody t pieces rest) :
      StringBody (c :: t) (.plain c :: pieces) rest

theorem StringBody.suffix {t rest : Text} {pieces : List Piece} (h : StringBody t pieces rest) :
    rest <:+ t := by
  induction h with
  | close rest => exact List.suffix_cons _ rest
  | unit hn h ih =>
      exact ih.trans (List.suffix_append [CodePoint.scalar '\\', .scalar 'u', _, _, _, _] _)
  | escape hc h ih => exact ih.trans (List.suffix_append [CodePoint.scalar '\\', _] _)
  | plain hq hb hc h ih => exact ih.trans (List.suffix_cons _ _)

theorem StringBody.ne_nil {t rest : Text} {pieces : List Piece} (h : StringBody t pieces rest) :
    t ≠ [] := by
  cases h <;> exact List.cons_ne_nil _ _

/-! The reader of a string takes the steps of the grammar, and no others. -/

theorem scanString_unit {a b c d : CodePoint} {n : Nat} (hn : hexUnit? a b c d = some n) {t : Text}
    (ht : t ≠ []) (opening position : Nat) (done : List Piece) :
    scanString opening position done (.scalar '\\' :: .scalar 'u' :: a :: b :: c :: d :: t)
      = scanString opening (position + 6) (.unit (.ofCode n) :: done) t := by
  rw [scanString, hn]
  simp [ht]

theorem scanString_escape {c plain : CodePoint} (hc : unescape? c = some plain)
    (opening position : Nat) (done : List Piece) (t : Text) :
    scanString opening position done (.scalar '\\' :: c :: t)
      = scanString opening (position + 2) (.plain plain :: done) t := by
  have hu : c ≠ .scalar 'u' := by
    rintro rfl
    cases hc
  rw [scanString, hc]
  · exact fun _ _ _ _ _ h _ => hu h
  · exact hu

theorem scanString_plain {c : CodePoint} (hq : c ≠ .scalar '"') (hb : c ≠ .scalar '\\')
    (hc : 0x20 ≤ c.code) (opening position : Nat) (done : List Piece) (t : Text) :
    scanString opening position done (c :: t)
      = scanString opening (position + 1) (.plain c :: done) t := by
  rw [scanString, if_neg (Nat.not_lt.mpr hc)]
  · exact hq
  · exact fun _ _ _ _ _ h _ => hb h
  · exact fun _ h _ => hb h
  · exact fun _ _ h _ => hb h
  · exact fun h _ => hb h

theorem StringBody.scanString_eq {t rest : Text} {pieces : List Piece}
    (h : StringBody t pieces rest) (opening position : Nat) (done : List Piece) :
    scanString opening position done t
      = .ok (joinPairsOnto [] (done.reverse ++ pieces), position + (t.length - rest.length)) := by
  induction h generalizing position done with
  | close rest => simp [scanString]
  | unit hn h ih =>
      have hle := h.suffix.length_le
      rw [scanString_unit hn h.ne_nil, ih, List.reverse_cons, List.append_assoc,
        List.singleton_append]
      simp only [List.length_cons, Except.ok.injEq, Prod.mk.injEq, true_and]
      omega
  | escape hc h ih =>
      have hle := h.suffix.length_le
      rw [scanString_escape hc, ih, List.reverse_cons, List.append_assoc, List.singleton_append]
      simp only [List.length_cons, Except.ok.injEq, Prod.mk.injEq, true_and]
      omega
  | plain hq hb hc h ih =>
      have hle := h.suffix.length_le
      rw [scanString_plain hq hb hc, ih, List.reverse_cons, List.append_assoc,
        List.singleton_append]
      simp only [List.length_cons, Except.ok.injEq, Prod.mk.injEq, true_and]
      omega

theorem StringBody.of_scanString {opening position : Nat} {done : List Piece} {t content : Text}
    {behind : Nat} (h : scanString opening position done t = .ok (content, behind)) :
    ∃ pieces rest, StringBody t pieces rest ∧ content = joinPairsOnto [] (done.reverse ++ pieces)
      ∧ behind + rest.length = position + t.length := by
  fun_induction scanString opening position done t with
  | case1 => cases h
  | case2 position done rest =>
      cases h
      refine ⟨[], rest, .close rest, by rw [List.append_nil], ?_⟩
      rw [List.length_cons]
      omega
  | case3 => cases h
  | case4 position done a b c d t n hn hne ih =>
      obtain ⟨pieces, rest, hbody, rfl, hlength⟩ := ih h
      refine ⟨.unit (.ofCode n) :: pieces, rest, .unit hn hbody, by simp, ?_⟩
      simp only [List.length_cons]
      omega
  | case5 => cases h
  | case6 => cases h
  | case7 position done c t hfour hu plain hplain ih =>
      obtain ⟨pieces, rest, hbody, rfl, hlength⟩ := ih h
      refine ⟨.plain plain :: pieces, rest, .escape hplain hbody, by simp, ?_⟩
      simp only [List.length_cons]
      omega
  | case8 => cases h
  | case9 => cases h
  | case10 => cases h
  | case11 position done c t hquote hfour hu hescape hend hc ih =>
      obtain ⟨pieces, rest, hbody, rfl, hlength⟩ := ih h
      have hbackslash : c ≠ .scalar '\\' := by
        rintro rfl
        cases t with
        | nil => exact hend rfl rfl
        | cons d t => exact hescape d t rfl rfl
      have hcontrol := Nat.not_lt.mp hc
      refine ⟨.plain c :: pieces, rest, .plain hquote hbackslash hcontrol hbody, by simp, ?_⟩
      simp only [List.length_cons]
      omega

/-! ## Tokens -/

/-- The tokens of one character. -/
def marks : List (CodePoint × Token) :=
  [(.scalar '[', .beginArray), (.scalar ']', .endArray), (.scalar '\x7b', .beginObject),
   (.scalar '\x7d', .endObject), (.scalar ',', .comma), (.scalar ':', .colon)]

/-- A token at the start of a text, and what follows it. -/
inductive Lexeme : Text → Token → Text → Prop
  | mark {c : CodePoint} {token : Token} (h : (c, token) ∈ marks) (rest : Text) :
      Lexeme (c :: rest) token rest
  | string {t rest : Text} {pieces : List Piece} (h : StringBody t pieces rest) :
      Lexeme (.scalar '"' :: t) (.string (.ok (joinPairsOnto [] pieces))) rest
  | word {word : Text} {value : Json} (h : (word, value) ∈ words) (rest : Text) :
      Lexeme (word ++ rest) (.scalar (.ok value)) rest
  | number {t : Text} {parts : NumberParts} {value : Json} (h : numberParts? t = some parts)
      (hv : parts.value = .ok value) : Lexeme t (.scalar (.ok value)) (t.drop parts.width)

/-- The token is one that some text has. -/
def Token.isSound : Token → Bool
  | .string (.error _) | .scalar (.error _) | .other => false
  | _ => true

/-- What is to be known about a mark. -/
theorem mark_spec {c : CodePoint} {token : Token} (h : (c, token) ∈ marks) :
    isSpace c = false ∧ token.isSound = true
      ∧ ∀ position rest, Token.read position (c :: rest) = (token, 1) := by
  simp only [marks, List.mem_cons, Prod.mk.injEq, List.not_mem_nil, or_false] at h
  rcases h with ⟨rfl, rfl⟩ | ⟨rfl, rfl⟩ | ⟨rfl, rfl⟩ | ⟨rfl, rfl⟩ | ⟨rfl, rfl⟩ | ⟨rfl, rfl⟩ <;>
    exact ⟨rfl, rfl, fun _ _ => rfl⟩

/-- What is to be known about a word: there is something in it, no white space, it does not
begin like a number, and the reader finds it. -/
theorem word_spec {word : Text} {value : Json} (h : (word, value) ∈ words) :
    0 < word.length ∧ (∀ c ∈ word, isSpace c = false)
      ∧ (∀ rest, numberParts? (word ++ rest) = none)
      ∧ ∀ position rest,
        Token.read position (word ++ rest) = (.scalar (.ok value), word.length) := by
  simp only [words, List.mem_cons, Prod.mk.injEq, List.not_mem_nil, or_false] at h
  rcases h with ⟨rfl, rfl⟩ | ⟨rfl, rfl⟩ | ⟨rfl, rfl⟩ | ⟨rfl, rfl⟩ | ⟨rfl, rfl⟩ | ⟨rfl, rfl⟩ <;>
    exact ⟨by decide, by decide, fun _ => rfl, fun _ _ => rfl⟩

theorem read_number {t : Text} {parts : NumberParts} (h : numberParts? t = some parts)
    (position : Nat) : Token.read position t = (.scalar parts.value, parts.width) := by
  obtain ⟨-, -, c, u, rfl, hc⟩ := numberParts?_eq_some h
  unfold Token.read
  split
  -- neither a mark nor a quote is a minus or a digit
  iterate 7
    rename_i heq
    obtain ⟨rfl, -⟩ := List.cons.inj heq
    exact absurd hc (by decide)
  split
  · rename_i word value hfind
    have hprefix : word.isPrefixOf (c :: u) = true := by simpa using List.find?_some hfind
    obtain ⟨rest, hrest⟩ := List.isPrefixOf_iff_prefix.mp hprefix
    have hnone := (word_spec (List.mem_of_find?_eq_some hfind)).2.2.1 rest
    rw [hrest, h] at hnone
    cases hnone
  · simp only [h]

/-- The reader finds every token of the grammar. -/
theorem Lexeme.read_eq {t rest : Text} {token : Token} (h : Lexeme t token rest)
    (position : Nat) : ∃ width, Token.read position t = (token, width) ∧ 0 < width
      ∧ width ≤ t.length ∧ rest = t.drop width := by
  cases h with
  | mark hmark rest =>
      exact ⟨1, (mark_spec hmark).2.2 position rest, Nat.one_pos, by simp, rfl⟩
  | @string t rest pieces hbody =>
      have hle := hbody.suffix.length_le
      refine ⟨1 + (t.length - rest.length), ?_, by omega, by rw [List.length_cons]; omega, ?_⟩
      · simp only [Token.read, hbody.scanString_eq, List.reverse_nil, List.nil_append]
        congr 1
        omega
      · rw [Nat.add_comm, List.drop_succ_cons]
        exact List.suffix_iff_eq_drop.mp hbody.suffix
  | @word word value hword rest =>
      obtain ⟨hpositive, -, -, hread⟩ := word_spec hword
      exact ⟨word.length, hread position rest, hpositive, by simp, by simp⟩
  | @number t parts value hparts hvalue =>
      obtain ⟨hpositive, hle, -⟩ := numberParts?_eq_some hparts
      exact ⟨parts.width, by rw [read_number hparts, hvalue], hpositive, hle, rfl⟩

theorem Lexeme.suffix {t rest : Text} {token : Token} (h : Lexeme t token rest) : rest <:+ t := by
  obtain ⟨width, -, -, -, rfl⟩ := h.read_eq 0
  exact List.drop_suffix width t

theorem Lexeme.isSound {t rest : Text} {token : Token} (h : Lexeme t token rest) :
    token.isSound = true := by
  cases h with
  | mark h => exact (mark_spec h).2.1
  | _ => rfl

/-- Whatever sound token the reader finds is one of the grammar. -/
theorem Lexeme.of_read {position width : Nat} {t : Text} {token : Token}
    (h : Token.read position t = (token, width)) (hs : token.isSound = true) :
    Lexeme t token (t.drop width) := by
  unfold Token.read at h
  split at h
  -- the marks
  iterate 6
    obtain ⟨rfl, rfl⟩ := Prod.mk.inj h
    exact .mark (by simp [marks]) _
  · rename_i rest
    split at h
    · rename_i content behind hscan
      obtain ⟨rfl, rfl⟩ := Prod.mk.inj h
      obtain ⟨pieces, rest', hbody, rfl, hlength⟩ := StringBody.of_scanString hscan
      have hle := hbody.suffix.length_le
      have hwidth : behind - position = (rest.length - rest'.length) + 1 := by omega
      rw [hwidth, List.drop_succ_cons, ← List.suffix_iff_eq_drop.mp hbody.suffix]
      exact .string hbody
    · obtain ⟨rfl, rfl⟩ := Prod.mk.inj h
      cases hs
  · split at h
    · rename_i word value hfind
      obtain ⟨rfl, rfl⟩ := Prod.mk.inj h
      have hprefix : word.isPrefixOf t = true := by simpa using List.find?_some hfind
      obtain ⟨rest, rfl⟩ := List.isPrefixOf_iff_prefix.mp hprefix
      rw [List.drop_left]
      exact .word (List.mem_of_find?_eq_some hfind) rest
    · split at h
      · rename_i parts hparts
        obtain ⟨rfl, rfl⟩ := Prod.mk.inj h
        cases hvalue : parts.value with
        | error fault =>
            rw [hvalue] at hs
            cases hs
        | ok value => exact .number hparts hvalue
      · obtain ⟨rfl, rfl⟩ := Prod.mk.inj h
        cases hs

/-! ## The tokens of a whole text -/

/-- The text consists of these tokens and white space between them. -/
inductive Lexes : Text → List Token → Prop
  | nil : Lexes [] []
  | space {c : CodePoint} {t : Text} {tokens : List Token} (hc : isSpace c = true)
      (h : Lexes t tokens) : Lexes (c :: t) tokens
  | token {c : CodePoint} {t rest : Text} {token : Token} {tokens : List Token}
      (hc : isSpace c = false) (htoken : Lexeme (c :: t) token rest) (h : Lexes rest tokens) :
      Lexes (c :: t) (token :: tokens)

namespace State

/-- What the tokens come to, if they come to a value. -/
def run (s : State) : List Token → Option Json
  | [] => (s.finish 0).toOption
  | token :: tokens => (s.step 0 token).toOption.bind fun s => s.run tokens

theorem toOption_finish (s : State) (position : Nat) :
    (s.finish position).toOption = (s.finish 0).toOption := by
  unfold finish
  split <;> rfl

theorem toOption_beginValue (stack : List Frame) (position : Nat) (token : Token) :
    (beginValue stack position token).toOption = (beginValue stack 0 token).toOption := by
  cases token <;> rfl

theorem toOption_readName (done : Dictionary Json) (stack : List Frame) (position : Nat)
    (token : Token) :
    (readName done stack position token).toOption = (readName done stack 0 token).toOption := by
  cases token <;> rfl

theorem toOption_readBehind (value : Json) (stack : List Frame) (position : Nat) (token : Token) :
    (readBehind value stack position token).toOption
      = (readBehind value stack 0 token).toOption := by
  unfold readBehind
  split <;> rfl

/-- Where a token stands makes a difference to refusals only. -/
theorem toOption_step (s : State) (position : Nat) (token : Token) :
    (s.step position token).toOption = (s.step 0 token).toOption := by
  unfold step
  split
  · exact toOption_beginValue ..
  · rfl
  · exact toOption_beginValue ..
  · rfl
  · exact toOption_readName ..
  · exact toOption_readName ..
  · rfl
  · rfl
  · exact toOption_readBehind ..

theorem toOption_step_unsound (s : State) (position : Nat) {token : Token}
    (h : token.isSound = false) : (s.step position token).toOption = none := by
  obtain ⟨expecting, stack⟩ := s
  unfold Token.isSound at h
  split at h
  -- a faulty string, a faulty scalar, and what is no token
  iterate 3
    cases expecting with
    | behind value =>
        rcases stack with _ | ⟨frame, stack⟩
        · rfl
        · cases frame <;> rfl
    | _ => rfl
  · cases h

end State

/-! ## Reading by tokens -/

theorem scan_skip (s : State) {width : Nat} {t : Text} (h : width ≤ t.length) (position : Nat) :
    scan s position width t = scan s (position + width) 0 (t.drop width) := by
  induction width generalizing position t with
  | zero => rfl
  | succ width ih =>
      cases t with
      | nil => exact absurd h (Nat.not_succ_le_zero _)
      | cons c t =>
          rw [scan, ih (Nat.le_of_succ_le_succ h), List.drop_succ_cons]
          congr 1
          omega

theorem Lexes.of_scan {s : State} {position skip : Nat} {t : Text} {value : Json}
    (h : scan s position skip t = .ok value) :
    ∃ tokens, Lexes (t.drop skip) tokens ∧ s.run tokens = some value := by
  fun_induction scan s position skip t with
  | case1 s position skip =>
      rw [List.drop_nil]
      refine ⟨[], .nil, ?_⟩
      rw [State.run, ← s.toOption_finish position, h]
      rfl
  | case2 s position c t skip ih => exact ih h
  | case3 s position c t hc ih =>
      obtain ⟨tokens, hlexes, hrun⟩ := ih h
      exact ⟨tokens, .space hc hlexes, hrun⟩
  | case4 s position c t hc token width hread s' hstep ih =>
      obtain ⟨tokens, hlexes, hrun⟩ := ih h
      have hoption : (s.step 0 token).toOption = some s' := by
        rw [← s.toOption_step position, hstep]
        rfl
      have hsound : token.isSound = true := by
        by_contra hunsound
        rw [State.toOption_step_unsound _ _ (Bool.eq_false_iff.mpr hunsound)] at hoption
        cases hoption
      have htoken := Lexeme.of_read hread hsound
      obtain ⟨width', hread', hpositive, -, -⟩ := htoken.read_eq position
      obtain rfl : width = width' := (Prod.mk.inj (hread.symm.trans hread')).2
      obtain ⟨behind, rfl⟩ := Nat.exists_eq_succ_of_ne_zero (Nat.ne_of_gt hpositive)
      refine ⟨token :: tokens, .token (Bool.eq_false_iff.mpr hc) htoken hlexes, ?_⟩
      rw [State.run, hoption]
      exact hrun
  | case5 => cases h

theorem Lexes.scan_eq {t : Text} {tokens : List Token} (h : Lexes t tokens) {s : State}
    {value : Json} (hrun : s.run tokens = some value) (position : Nat) :
    scan s position 0 t = .ok value := by
  induction h generalizing s position with
  | nil =>
      rw [State.run, ← s.toOption_finish position] at hrun
      exact toOption_eq_some_iff.mp hrun
  | space hc h ih =>
      rw [scan, if_pos hc]
      exact ih hrun _
  | @token c t rest token tokens hc htoken h ih =>
      rw [State.run, Option.bind_eq_some_iff] at hrun
      obtain ⟨s', hstep, hrun⟩ := hrun
      rw [← s.toOption_step position] at hstep
      obtain ⟨width, hread, hpositive, hle, rfl⟩ := htoken.read_eq position
      obtain ⟨behind, rfl⟩ := Nat.exists_eq_succ_of_ne_zero (Nat.ne_of_gt hpositive)
      rw [scan, if_neg (Bool.eq_false_iff.mp hc), hread]
      simp only [toOption_eq_some_iff.mp hstep, Nat.succ_sub_one]
      rw [scan_skip _ (Nat.le_of_succ_le_succ hle)]
      exact ih hrun _

theorem scan_eq_ok_iff {s : State} {position : Nat} {t : Text} {value : Json} :
    scan s position 0 t = .ok value ↔ ∃ tokens, Lexes t tokens ∧ s.run tokens = some value :=
  ⟨Lexes.of_scan, fun ⟨_, h, hrun⟩ => h.scan_eq hrun position⟩

/-- A byte order mark starts no token, so its refusal needs no exception here. -/
theorem not_lexes_byteOrderMark {t : Text} {tokens : List Token} :
    ¬ Lexes (.scalar '\uFEFF' :: t) tokens := by
  intro h
  cases h with
  | space hc => cases hc
  | token _ htoken =>
      obtain ⟨width, hread, -⟩ := htoken.read_eq 0
      have hother := (Prod.mk.inj hread).1
      have hsound := htoken.isSound
      rw [← hother] at hsound
      cases hsound

/-- **Reading by tokens.** A text has a value just if it has tokens that come to it. -/
theorem read_eq_ok_iff {t : Text} {value : Json} :
    read t = .ok value ↔ ∃ tokens, Lexes t tokens ∧ State.start.run tokens = some value := by
  have hvalue : read t = .ok value ↔ readValue t = .ok value := by
    unfold read
    split <;> simp_all
  rw [hvalue]
  unfold readValue
  split
  · exact ⟨nofun, fun ⟨_, h, _⟩ => absurd h not_lexes_byteOrderMark⟩
  · exact scan_eq_ok_iff

end Json

end HostFacts
