import Mathlib.Data.List.TakeWhile
import HostFacts.Command.Console
import HostFacts.Proofs.Text.CodePoint

/-!
# Text without control sequences

What a control sequence is can be said without a way to find one (`IsSequence`), and
so can what is left of a text without those in it (`LeftOf`). A sequence is known by
its characters, of which the runs are disjoint, so that a text starts with one at
most. `plain` gives what is left and nothing else (`plain_eq_iff`).

A control sequence is ASCII, so that no surrogate is left out with one: a text has a
UTF-8 form just if it has one before anything is left out of it.
-/

namespace HostFacts.Command

/-! ## Sequences -/

/-- A control sequence from its introducer to its final character. -/
inductive IsSequence : Text → Prop
  | intro {parameters intermediates : Text} {c : CodePoint}
      (hparameters : ∀ d ∈ parameters, isParameter d = true)
      (hintermediates : ∀ d ∈ intermediates, isIntermediate d = true)
      (hfinal : isFinal c = true) :
      IsSequence (.scalar '\x1B' :: .scalar '[' :: (parameters ++ (intermediates ++ [c])))

theorem IsSequence.ne_nil {s : Text} (h : IsSequence s) : s ≠ [] := by
  cases h
  exact List.cons_ne_nil _ _

theorem inRanges_singleton {c : CodePoint} {first last : Nat} :
    c.inRanges [(first, last)] = true ↔ first ≤ c.code ∧ c.code ≤ last := by
  simp [CodePoint.inRanges]

/-- No character is of two kinds. -/
theorem not_inRanges_of_disjoint {c : CodePoint} {first last first' last' : Nat}
    (h : c.inRanges [(first, last)] = true) (hdisjoint : last < first' ∨ last' < first) :
    c.inRanges [(first', last')] = false := by
  rw [inRanges_singleton] at h
  rw [Bool.eq_false_iff, ne_eq, inRanges_singleton]
  omega

/-- A run of a kind in front of something of another kind ends there. -/
theorem span_append {p : CodePoint → Bool} {run rest : Text} (hrun : ∀ c ∈ run, p c = true)
    (hrest : ∀ c ∈ rest.head?, p c = false) :
    (run ++ rest).takeWhile p = run ∧ (run ++ rest).dropWhile p = rest := by
  rw [List.takeWhile_append_of_pos hrun, List.dropWhile_append_of_pos hrun]
  cases rest with
  | nil => exact ⟨List.append_nil run, rfl⟩
  | cons c rest =>
      have hc : ¬ p c = true := by
        rw [hrest c rfl]
        exact nofun
      rw [List.takeWhile_cons_of_neg hc, List.dropWhile_cons_of_neg hc]
      exact ⟨List.append_nil run, rfl⟩

theorem IsSequence.sequenceLength? {s : Text} (h : IsSequence s) (rest : Text) :
    sequenceLength? (s ++ rest) = some s.length := by
  cases h with
  | @intro parameters intermediates c hparameters hintermediates hfinal =>
      have hhead : ∀ d ∈ (intermediates ++ c :: rest).head?, isParameter d = false := by
        cases intermediates with
        | nil =>
            rintro d ⟨⟩
            exact not_inRanges_of_disjoint hfinal (by decide)
        | cons e intermediates =>
            rintro d ⟨⟩
            have he := hintermediates e (List.mem_cons_self ..)
            exact not_inRanges_of_disjoint he (by decide)
      have hfirst : ∀ d ∈ (c :: rest).head?, isIntermediate d = false := by
        rintro d ⟨⟩
        exact not_inRanges_of_disjoint hfinal (by decide)
      obtain ⟨htake, hdrop⟩ := span_append hparameters hhead
      obtain ⟨htake', hdrop'⟩ := span_append hintermediates hfirst
      simp only [List.cons_append, List.append_assoc, List.nil_append]
      rw [Command.sequenceLength?]
      simp only [htake, hdrop, htake', hdrop', hfinal, if_true, List.length_cons,
        List.length_append, List.length_nil]
      congr 1
      omega

/-- The length of a sequence is found if there is one at the start of the text. -/
theorem sequenceLength?_eq_some_iff {t : Text} {n : Nat} :
    sequenceLength? t = some n ↔ ∃ s rest, IsSequence s ∧ t = s ++ rest ∧ n = s.length := by
  constructor
  · intro h
    unfold sequenceLength? at h
    split at h
    · rename_i t
      dsimp only at h
      split at h
      · rename_i c rest hrest
        split at h
        · rename_i hfinal
          obtain rfl := Option.some.inj h
          have hparameters : ∀ d ∈ t.takeWhile isParameter, isParameter d = true :=
            fun d hd => List.mem_takeWhile_imp hd
          have hintermediates : ∀ d ∈ (t.dropWhile isParameter).takeWhile isIntermediate,
              isIntermediate d = true := fun d hd => List.mem_takeWhile_imp hd
          refine ⟨_, rest, .intro hparameters hintermediates hfinal, ?_, ?_⟩
          · rw [List.cons_append, List.cons_append, List.append_assoc, List.append_assoc,
              List.singleton_append, ← hrest, List.takeWhile_append_dropWhile,
              List.takeWhile_append_dropWhile]
          · simp only [List.length_cons, List.length_append, List.length_nil]
            omega
        · cases h
      · cases h
    · cases h
  · rintro ⟨s, rest, hs, rfl, rfl⟩
    exact hs.sequenceLength? rest

theorem sequenceLength?_eq_none {t : Text} (h : ∀ s, IsSequence s → ¬ s <+: t) :
    sequenceLength? t = none := by
  rw [Option.eq_none_iff_forall_ne_some]
  intro n hn
  obtain ⟨s, rest, hs, rfl, -⟩ := sequenceLength?_eq_some_iff.mp hn
  exact h s hs (List.prefix_append s rest)

/-! ## What is left -/

/-- What is left of a text without the sequences in it, the first of which is left out first. -/
inductive LeftOf : Text → Text → Prop
  | nil : LeftOf [] []
  | sequence {s t u : Text} (hs : IsSequence s) (h : LeftOf t u) : LeftOf (s ++ t) u
  | character {c : CodePoint} {t u : Text} (hnone : ∀ s, IsSequence s → ¬ s <+: c :: t)
      (h : LeftOf t u) : LeftOf (c :: t) (c :: u)

theorem leftOf_dropSequences (skip : Nat) (t : Text) :
    LeftOf (t.drop skip) (dropSequences skip t) := by
  fun_induction dropSequences skip t with
  | case1 skip =>
      rw [List.drop_nil]
      exact .nil
  | case2 skip c t ih => exact ih
  | case3 c t n hlength ih =>
      obtain ⟨s, rest, hs, heq, hn⟩ := sequenceLength?_eq_some_iff.mp hlength
      have hrest : t.drop n = rest := by
        rw [← List.drop_succ_cons (a := c), heq]
        exact List.drop_left' hn.symm
      rw [List.drop_zero, heq, ← hrest]
      exact .sequence hs ih
  | case4 c t hlength ih =>
      refine .character (fun s hs hprefix => ?_) ih
      obtain ⟨rest, heq⟩ := hprefix
      have hsome := hs.sequenceLength? rest
      rw [heq] at hsome
      obtain ⟨n, hn⟩ := Nat.exists_eq_succ_of_ne_zero
        (mt List.length_eq_zero_iff.mp hs.ne_nil)
      exact hlength n (hn ▸ hsome)

theorem dropSequences_length_append (s t : Text) : dropSequences s.length (s ++ t) = plain t := by
  induction s with
  | nil => rfl
  | cons c s ih => exact ih

/-- The text without its control sequences is what is left of it. -/
theorem plain_eq_iff {t u : Text} : plain t = u ↔ LeftOf t u := by
  constructor
  · rintro rfl
    exact leftOf_dropSequences 0 t
  · intro h
    induction h with
    | nil => rfl
    | @sequence s t u hs _ ih =>
        have hlength := hs.sequenceLength? t
        cases s with
        | nil => exact absurd rfl hs.ne_nil
        | cons c s =>
            rw [List.cons_append] at hlength ⊢
            rw [plain, dropSequences, hlength]
            exact (dropSequences_length_append s t).trans ih
    | @character c t u hnone _ ih =>
        rw [plain, dropSequences, sequenceLength?_eq_none hnone]
        exact congrArg (c :: ·) ih

/-- Without an escape character there is no control sequence. -/
theorem plain_of_noEscape {t : Text} (h : ∀ c ∈ t, c ≠ .scalar '\x1B') : plain t = t := by
  rw [plain_eq_iff]
  induction t with
  | nil => exact .nil
  | cons c t ih =>
      obtain ⟨hc, ht⟩ := List.forall_mem_cons.mp h
      refine .character (fun s hs hprefix => ?_) (ih ht)
      cases hs
      exact hc (List.cons_prefix_cons.mp hprefix).1.symm

/-! ## Surrogates -/

theorem isSurrogate_of_code_lt {c : CodePoint} (h : c.code < 0xD800) : c.isSurrogate = false := by
  cases c with
  | scalar c => rfl
  | surrogate offset =>
      simp only [CodePoint.code] at h
      omega

theorem isWellFormed_of_isSequence {s : Text} (h : IsSequence s) : s.isWellFormed = true := by
  refine Text.isWellFormed_iff.mpr ?_
  cases h with
  | intro hparameters hintermediates hfinal =>
      simp only [List.forall_mem_cons, List.forall_mem_append]
      refine ⟨rfl, rfl, fun d hd => ?_, fun d hd => ?_, ?_, nofun⟩
      · have hd' := (inRanges_singleton.mp (hparameters d hd)).2
        exact isSurrogate_of_code_lt (by omega)
      · have hd' := (inRanges_singleton.mp (hintermediates d hd)).2
        exact isSurrogate_of_code_lt (by omega)
      · have hc := (inRanges_singleton.mp hfinal).2
        exact isSurrogate_of_code_lt (by omega)

theorem LeftOf.isWellFormed_eq {t u : Text} (h : LeftOf t u) :
    u.isWellFormed = t.isWellFormed := by
  induction h with
  | nil => rfl
  | sequence hs _ ih =>
      have hwell := isWellFormed_of_isSequence hs
      rw [Text.isWellFormed] at hwell
      rw [ih, Text.isWellFormed, Text.isWellFormed, List.all_append, hwell, Bool.true_and]
  | @character c t u _ _ ih =>
      show (!c.isSurrogate && u.isWellFormed) = (!c.isSurrogate && t.isWellFormed)
      rw [ih]

/-- Nothing that a line cannot be written for is left out of it. -/
theorem isWellFormed_plain (t : Text) : (plain t).isWellFormed = t.isWellFormed :=
  (plain_eq_iff.mp rfl).isWellFormed_eq

end HostFacts.Command
