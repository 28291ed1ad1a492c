import Mathlib.Data.List.Chain
import HostFacts.Proofs.Json.Strings
import HostFacts.Text.Blank

/-!
# Joined texts

A text is joined if no two surrogates stand together in it that are a pair. That
is a property of neighbours, so it is passed on to every run cut out of a text,
and joining the units that are pairs (`joinPairsOnto`) leaves none behind, as long
as surrogates are among the units only: what is written for a pair is one
character and no surrogate itself. Decoded bytes have no surrogates at all.
-/

namespace HostFacts

namespace Text

theorem isJoined_iff_isChain (t : Text) :
    t.isJoined = true ↔ t.IsChain fun c d => isPair c d = false := by
  induction t with
  | nil => exact ⟨fun _ => .nil, fun _ => rfl⟩
  | cons c t ih =>
      cases t with
      | nil => exact ⟨fun _ => .singleton c, fun _ => rfl⟩
      | cons d t =>
          rw [isJoined, Bool.and_eq_true, Bool.not_eq_true', List.isChain_cons_cons, ih]

theorem isJoined_of_isInfix {t u : Text} (h : t <:+: u) (hu : u.isJoined = true) :
    t.isJoined = true := by
  have hchain := List.IsChain.infix ((isJoined_iff_isChain u).mp hu) h
  exact (isJoined_iff_isChain t).mpr hchain

theorem isJoined_concat {t : Text} {c : CodePoint} (ht : t.isJoined = true)
    (hlast : ∀ d ∈ t.getLast?, isPair d c = false) : (t ++ [c] : Text).isJoined = true := by
  rw [isJoined_iff_isChain, List.isChain_append]
  refine ⟨(isJoined_iff_isChain t).mp ht, .singleton c, fun d hd e he => ?_⟩
  obtain rfl : c = e := Option.some.inj he
  exact hlast d hd

theorem trim_isInfix (t : Text) : trim t <:+: t := by
  have hend : trim t <+: trimStart t := by
    have hsuffix := List.dropWhile_suffix (l := (trimStart t).reverse) CodePoint.isBlank
    rw [← List.reverse_prefix, List.reverse_reverse] at hsuffix
    exact hsuffix
  exact hend.isInfix.trans (List.dropWhile_suffix CodePoint.isBlank).isInfix

theorem cut_suffix {sep : CodePoint} {t after : Text} (h : (cut sep t).2 = some after) :
    after <:+ t := by
  induction t with
  | nil => cases h
  | cons c t ih =>
      rw [cut] at h
      split at h
      · cases h
        exact List.suffix_cons c after
      · exact (ih h).trans (List.suffix_cons c t)

/-! ## Pairs joined -/

theorem isPair_eq_true {c d : CodePoint} (h : isPair c d = true) :
    c.isSurrogate = true ∧ d.isSurrogate = true := by
  cases c with
  | scalar c => cases h
  | surrogate high =>
      cases d with
      | scalar d => cases h
      | surrogate low => exact ⟨rfl, rfl⟩

theorem isPair_of_not_surrogate_left {c : CodePoint} (h : c.isSurrogate = false)
    (d : CodePoint) : isPair c d = false := by
  rw [Bool.eq_false_iff]
  intro hpair
  rw [(isPair_eq_true hpair).1] at h
  cases h

theorem isPair_of_not_surrogate_right {d : CodePoint} (h : d.isSurrogate = false)
    (c : CodePoint) : isPair c d = false := by
  rw [Bool.eq_false_iff]
  intro hpair
  rw [(isPair_eq_true hpair).2] at h
  cases h

theorem isJoined_append {t u : Text} (ht : t.isWellFormed = true) (hu : u.isJoined = true) :
    (t ++ u : Text).isJoined = true := by
  rw [isJoined_iff_isChain, List.isChain_append]
  refine ⟨(isJoined_iff_isChain t).mp (isJoined_of_isWellFormed ht),
    (isJoined_iff_isChain u).mp hu, fun c hc d _ => ?_⟩
  exact isPair_of_not_surrogate_left (isWellFormed_iff.mp ht c (List.mem_of_mem_getLast? hc)) d

end Text

namespace Json

open Text

/-- A character that stands for a pair is no surrogate. -/
theorem isSurrogate_joinedPair {high low : Nat} : (joinedPair high low).isSurrogate = false := by
  unfold joinedPair CodePoint.ofCode
  rw [dif_neg (by omega)]
  rfl

/-- Joining leaves no pair behind, if there was none in what it had done. -/
theorem isJoined_joinPairsOnto (done : Text) (pieces : List Piece)
    (hplain : ∀ c, .plain c ∈ pieces → c.isSurrogate = false)
    (hdone : isJoined done.reverse = true)
    (hlast : ∀ c ∈ done.head?, ∀ piece ∈ pieces.head?, isPair c piece.codePoint = false) :
    isJoined (joinPairsOnto done pieces) = true := by
  have hlast? : done.reverse.getLast? = done.head? := List.getLast?_reverse
  fun_induction joinPairsOnto done pieces with
  | case1 done => exact hdone
  | case2 done high low pieces hpair ih =>
      refine ih (fun c hc => hplain c (List.mem_cons_of_mem _ (List.mem_cons_of_mem _ hc))) ?_
        (fun c hc piece _ => ?_) List.getLast?_reverse
      · rw [List.reverse_cons]
        exact isJoined_concat hdone fun d _ =>
          isPair_of_not_surrogate_right isSurrogate_joinedPair d
      · obtain rfl : joinedPair high low = c := Option.some.inj hc
        exact isPair_of_not_surrogate_left isSurrogate_joinedPair piece.codePoint
  | case3 done high low pieces hpair ih =>
      refine ih (fun c hc => hplain c (List.mem_cons_of_mem _ hc)) ?_ (fun c hc piece hpiece => ?_)
        List.getLast?_reverse
      · rw [List.reverse_cons]
        exact isJoined_concat hdone fun d hd => hlast d (hlast? ▸ hd) _ rfl
      · obtain rfl : CodePoint.surrogate high = c := Option.some.inj hc
        obtain rfl : .unit (.surrogate low) = piece := Option.some.inj hpiece
        simpa [isPair, Piece.codePoint] using hpair
  | case4 done piece pieces hother ih =>
      refine ih (fun c hc => hplain c (List.mem_cons_of_mem _ hc)) ?_ (fun c hc next hnext => ?_)
        List.getLast?_reverse
      · rw [List.reverse_cons]
        exact isJoined_concat hdone fun d hd => hlast d (hlast? ▸ hd) _ rfl
      · obtain rfl : piece.codePoint = c := Option.some.inj hc
        obtain ⟨rest, rfl⟩ := List.head?_eq_some_iff.mp hnext
        cases piece with
        | plain c => exact isPair_of_not_surrogate_left (hplain c (List.mem_cons_self ..)) _
        | unit c =>
            cases next with
            | plain d =>
                have hd := hplain d (List.mem_cons_of_mem _ (List.mem_cons_self ..))
                exact isPair_of_not_surrogate_right hd _
            | unit d =>
                cases c with
                | scalar c => rfl
                | surrogate high =>
                    cases d with
                    | scalar d => rfl
                    | surrogate low => exact absurd rfl (hother high low rest rfl)

end Json

end HostFacts
