/-!
# Code points and text

A text is a list of code points. A code point is a Unicode scalar value or
one half of a surrogate pair: the escapes of a JSON string can name a half
on its own, and settings keep such a half as it stands. Everything that is
read or printed is of this one type, and a string literal is a text too.

Most functions here cut texts apart. `split` and `join` undo each other
(`join_split`, `split_join`), which is what version numbers and paths rest on.
-/

namespace HostFacts

/-- A scalar value, or the surrogate `0xD800 + offset`. -/
inductive CodePoint
  | scalar (c : Char)
  | surrogate (offset : Fin 0x800)
deriving Repr, DecidableEq, Inhabited

abbrev Text := List CodePoint

/-! ## Code points -/

namespace CodePoint

/-- The number of a code point. -/
def code : CodePoint → Nat
  | scalar c => c.toNat
  | surrogate offset => 0xD800 + offset

/-- The code point of a number. Numbers above `0x10FFFF` have none and give U+0000. -/
def ofCode (n : Nat) : CodePoint :=
  if h : 0xD800 ≤ n ∧ n < 0xE000 then surrogate ⟨n - 0xD800, by omega⟩
  else scalar (Char.ofNat n)

theorem ofCode_code (c : CodePoint) : ofCode c.code = c := by
  cases c with
  | scalar c =>
    have hv := c.valid
    simp only [UInt32.isValidChar, Nat.isValidChar] at hv
    have h : ¬ (0xD800 ≤ c.toNat ∧ c.toNat < 0xE000) := by
      simp only [Char.toNat]
      omega
    simp [ofCode, code, h]
  | surrogate offset =>
    have h : 0xD800 ≤ 0xD800 + offset.val ∧ 0xD800 + offset.val < 0xE000 := by omega
    simp [ofCode, code, h]

def isSurrogate : CodePoint → Bool
  | scalar _ => false
  | surrogate _ => true

/-- A digit `0` to `9`. The digits of other scripts are not meant. -/
def isDigit : CodePoint → Bool
  | scalar c => c.isDigit
  | surrogate _ => false

/-- A letter `A` to `Z`. -/
def isCapital : CodePoint → Bool
  | scalar c => c.isUpper
  | surrogate _ => false

/-- A letter `a` to `z`. -/
def isSmall : CodePoint → Bool
  | scalar c => c.isLower
  | surrogate _ => false

/-- What a digit counts, and 0 for any other code point. -/
def digitValue : CodePoint → Nat
  | scalar c => if c.isDigit then c.toNat - '0'.toNat else 0
  | surrogate _ => 0

/-- Whether a code point falls into one of the ranges of a table, ends included. -/
def inRanges (ranges : List (Nat × Nat)) (c : CodePoint) : Bool :=
  ranges.any fun (first, last) => first ≤ c.code && c.code ≤ last

end CodePoint

/-! ## Text -/

namespace Text

def ofString (s : String) : Text := s.toList.map .scalar

instance : Coe String Text := ⟨ofString⟩

/-- The string of a text, in which U+FFFD stands for each surrogate. -/
def toString (t : Text) : String :=
  String.ofList (t.map fun
    | .scalar c => c
    | .surrogate _ => '\uFFFD')

/-- No surrogate occurs: the text has a UTF-8 form. -/
def isWellFormed (t : Text) : Bool := t.all fun c => !c.isSurrogate

/-- The pieces between the occurrences of `sep`; one piece if there is none. -/
def split (sep : CodePoint) : Text → List Text
  | [] => [[]]
  | c :: t =>
    if c = sep then [] :: split sep t
    else
      match split sep t with
      | [] => [[c]]
      | piece :: pieces => (c :: piece) :: pieces

/-- The pieces with `sep` between any two neighbours. -/
def join (sep : Text) (pieces : List Text) : Text := sep.intercalate pieces

theorem split_ne_nil (sep : CodePoint) (t : Text) : split sep t ≠ [] := by
  cases t with
  | nil => simp [split]
  | cons c t =>
    simp only [split]
    split
    · simp
    · cases split sep t <;> simp

theorem join_cons_cons (sep p q : Text) (ps : List Text) :
    join sep (p :: q :: ps) = p ++ sep ++ join sep (q :: ps) := by
  simp [join, List.intercalate]

theorem join_split (sep : CodePoint) (t : Text) : join [sep] (split sep t) = t := by
  induction t with
  | nil => rfl
  | cons c t ih =>
    simp only [split]
    split
    · rename_i hc
      cases hs : split sep t with
      | nil => exact absurd hs (split_ne_nil sep t)
      | cons p ps =>
        rw [join_cons_cons, ← hs, ih, hc]
        rfl
    · cases hs : split sep t with
      | nil => exact absurd hs (split_ne_nil sep t)
      | cons p ps =>
        rw [hs] at ih
        cases ps with
        | nil => simpa [join, List.intercalate] using ih
        | cons q ps =>
          rw [join_cons_cons] at ih ⊢
          simp [← ih]

theorem sep_notMem_of_mem_split {sep : CodePoint} {t piece : Text}
    (h : piece ∈ split sep t) : sep ∉ piece := by
  induction t generalizing piece with
  | nil =>
      obtain rfl := List.mem_singleton.mp h
      exact List.not_mem_nil
  | cons c t ih =>
      simp only [split] at h
      split at h
      · rcases List.mem_cons.mp h with rfl | hrest
        · exact List.not_mem_nil
        · exact ih hrest
      · rename_i hc
        cases hs : split sep t with
        | nil => exact absurd hs (split_ne_nil sep t)
        | cons p ps =>
            rw [hs] at h ih
            rcases List.mem_cons.mp h with rfl | hrest
            · rw [List.mem_cons, not_or]
              exact ⟨fun he => hc he.symm, ih (List.mem_cons_self ..)⟩
            · exact ih (List.mem_cons_of_mem _ hrest)

theorem split_append_sep (sep : CodePoint) (t u : Text) :
    split sep (t ++ sep :: u) = split sep t ++ split sep u := by
  induction t with
  | nil => simp [split]
  | cons c t ih =>
      simp only [List.cons_append, split, ih]
      split
      · rfl
      · cases hs : split sep t with
        | nil => exact absurd hs (split_ne_nil sep t)
        | cons p ps => rfl

theorem split_of_notMem {sep : CodePoint} {t : Text} (h : sep ∉ t) : split sep t = [t] := by
  induction t with
  | nil => rfl
  | cons c t ih =>
      rw [List.mem_cons, not_or] at h
      rw [split, if_neg (Ne.symm h.1), ih h.2]

theorem split_join {sep : CodePoint} {pieces : List Text} (hne : pieces ≠ [])
    (h : ∀ piece ∈ pieces, sep ∉ piece) : split sep (join [sep] pieces) = pieces := by
  induction pieces with
  | nil => exact absurd rfl hne
  | cons p ps ih =>
      have hp : split sep p = [p] := split_of_notMem (h p (List.mem_cons_self ..))
      cases ps with
      | nil => simpa [join, List.intercalate] using hp
      | cons q qs =>
          have hqs := ih (List.cons_ne_nil _ _) fun piece hm => h piece (List.mem_cons_of_mem _ hm)
          rw [join_cons_cons, List.append_assoc, List.singleton_append, split_append_sep, hp, hqs]
          rfl

/-- The part before the first `sep`, and the part after it if there is one. -/
def cut (sep : CodePoint) : Text → Text × Option Text
  | [] => ([], none)
  | c :: t => if c = sep then ([], some t) else (c :: (cut sep t).1, (cut sep t).2)

/-- Whether `part` occurs somewhere in the text, as a run without gaps. -/
def occursIn (part : Text) : Text → Bool
  | [] => part.isEmpty
  | c :: t => part.isPrefixOf (c :: t) || occursIn part t

/-- Whether the text starts with one of `starts`. -/
def startsWithAny (t : Text) (starts : List Text) : Bool :=
  starts.any fun start => start.isPrefixOf t

end Text

end HostFacts
