import Mathlib.Data.List.Basic
import HostFacts.Proofs.Text.Case
import HostFacts.Text.SnakeCase

/-!
# Underscores at the boundaries

The underscores of a name in snake case stand between the neighbours that are a
boundary, and nowhere else (`separateWords_eq_underscored`). The search for boundaries
goes on behind both characters of one that it has found, but none is missed by that: the
second character is a capital, and no boundary begins with one. Since there are no
capitals left in lower case, a name in snake case has no boundary at all and is its own
snake case (`snakeCase_snakeCase`), and words that were run together with capitals come
apart again where they were joined (`snakeCase_camelJoined`).
-/

namespace HostFacts

def underscore : CodePoint := .scalar '_'

/-- The capital of a small letter of ASCII; any other code point stays. -/
def CodePoint.capital (c : CodePoint) : CodePoint :=
  if c.isSmall then .ofCode (c.code - 0x20) else c

theorem CodePoint.isWordBoundary_iff {c d : CodePoint} :
    c.isWordBoundary d = true ↔ (c.isSmall = true ∨ c.isDigit = true) ∧ d.isCapital = true := by
  rw [isWordBoundary, Bool.and_eq_true, Bool.or_eq_true]

namespace Text

/-! ## Boundaries -/

/-- The text with an underscore between any two neighbours that are a boundary. -/
def underscored (t : Text) : Text :=
  (t.zip (t.tail.map some ++ [none])).flatMap fun (c, next?) =>
    if next?.any c.isWordBoundary then [c, underscore] else [c]

theorem underscored_cons_cons (c d : CodePoint) (t : Text) :
    underscored (c :: d :: t)
      = (if c.isWordBoundary d then [c, underscore] else [c]) ++ underscored (d :: t) := rfl

/-- No boundary begins with a character that is neither small nor a digit. -/
theorem underscored_cons_of_isCapital {c : CodePoint} (h : c.isCapital = true) (t : Text) :
    underscored (c :: t) = c :: underscored t := by
  cases t with
  | nil => rfl
  | cons d t =>
      have hno : c.isWordBoundary d = false := by
        refine Bool.eq_false_iff.mpr fun hboundary => ?_
        obtain ⟨hfirst, -⟩ := CodePoint.isWordBoundary_iff.mp hboundary
        rw [CodePoint.isCapital_iff] at h
        rw [CodePoint.isSmall_iff, CodePoint.isDigit_iff] at hfirst
        omega
      rw [underscored_cons_cons, hno]
      rfl

theorem separateWords_eq_underscored (t : Text) : t.separateWords = t.underscored := by
  induction t using separateWords.induct with
  | case1 => rfl
  | case2 c => rfl
  | case3 c d t hboundary ih =>
      obtain ⟨-, hcapital⟩ := CodePoint.isWordBoundary_iff.mp hboundary
      rw [separateWords, if_pos hboundary, underscored_cons_cons, if_pos hboundary,
        underscored_cons_of_isCapital hcapital, ih]
      rfl
  | case4 c d t hno ih =>
      rw [separateWords, if_neg hno, underscored_cons_cons, if_neg hno, ih]
      rfl

/-- Without capitals behind the first character there is no boundary. -/
theorem underscored_of_noCapital {t : Text} (h : ∀ c ∈ t.tail, c.isCapital = false) :
    t.underscored = t := by
  induction t with
  | nil => rfl
  | cons c t ih =>
      cases t with
      | nil => rfl
      | cons d t =>
          have hno : c.isWordBoundary d = false := by
            rw [CodePoint.isWordBoundary, h d (List.mem_cons_self ..), Bool.and_false]
          rw [underscored_cons_cons, hno, ih fun e he => h e (List.mem_cons_of_mem _ he)]
          rfl

theorem underscored_append {c d : CodePoint} (h : c.isWordBoundary d = true) (t u : Text) :
    underscored (t ++ [c] ++ d :: u)
      = underscored (t ++ [c]) ++ underscore :: underscored (d :: u) := by
  induction t with
  | nil =>
      rw [List.nil_append, List.singleton_append, underscored_cons_cons, if_pos h]
      rfl
  | cons e t ih =>
      cases t with
      | nil =>
          simp only [List.nil_append, List.cons_append] at ih ⊢
          rw [underscored_cons_cons, ih, underscored_cons_cons e c [], List.append_assoc]
      | cons f t =>
          simp only [List.cons_append] at ih ⊢
          rw [underscored_cons_cons, ih, underscored_cons_cons e f, List.append_assoc]

/-! ## Snake case is final -/

theorem snakeCase_eq (t : Text) : t.snakeCase = t.underscored.lower := by
  rw [snakeCase, separateWords_eq_underscored]

theorem not_isCapital_of_mem_snakeCase {t : Text} {c : CodePoint} (h : c ∈ t.snakeCase) :
    c.isCapital = false :=
  (isLowered_of_mem_lower h).not_isCapital

theorem snakeCase_snakeCase (t : Text) : t.snakeCase.snakeCase = t.snakeCase := by
  have hplain : t.snakeCase.underscored = t.snakeCase :=
    underscored_of_noCapital fun c hc => not_isCapital_of_mem_snakeCase (List.mem_of_mem_tail hc)
  rw [snakeCase_eq t.snakeCase, hplain]
  exact lower_lower _

/-! ## Words run together -/

/-- A small letter of ASCII or a digit: what a word is made of. -/
def IsPlain (c : CodePoint) : Prop := c.isSmall = true ∨ c.isDigit = true

/-- A small letter, and small letters and digits behind it. -/
inductive IsWord : Text → Prop
  | intro {c : CodePoint} {t : Text} (hc : c.isSmall = true) (ht : ∀ d ∈ t, IsPlain d) :
      IsWord (c :: t)

def capitalized : Text → Text
  | [] => []
  | c :: t => c.capital :: t

/-- The words in one, each but the first with a capital. -/
def camelJoined : List Text → Text
  | [] => []
  | word :: words => word ++ words.flatMap capitalized

theorem IsPlain.code_lt {c : CodePoint} (h : IsPlain c) : c.code < 0x80 := by
  rw [IsPlain, CodePoint.isSmall_iff, CodePoint.isDigit_iff] at h
  omega

theorem IsPlain.not_isCapital {c : CodePoint} (h : IsPlain c) : c.isCapital = false := by
  refine Bool.eq_false_iff.mpr fun hcapital => ?_
  rw [CodePoint.isCapital_iff] at hcapital
  rw [IsPlain, CodePoint.isSmall_iff, CodePoint.isDigit_iff] at h
  omega

theorem IsWord.plain {word : Text} (h : IsWord word) : ∀ c ∈ word, IsPlain c := by
  cases h with
  | intro hc ht =>
      intro c hmem
      rcases List.mem_cons.mp hmem with rfl | hmem
      · exact .inl hc
      · exact ht c hmem

theorem code_capital {c : CodePoint} (h : c.isSmall = true) : c.capital.code = c.code - 0x20 := by
  rw [CodePoint.capital, if_pos h]
  exact CodePoint.code_ofCode (Nat.lt_of_le_of_lt (Nat.sub_le ..) c.code_lt)

theorem isCapital_capital {c : CodePoint} (h : c.isSmall = true) : c.capital.isCapital = true := by
  have hcode := CodePoint.isSmall_iff.mp h
  rw [CodePoint.isCapital_iff, code_capital h]
  omega

/-! ### The boundaries between the words -/

/-- The last character of the text is one behind which a boundary can be. -/
def EndsOpen (t : Text) : Prop := ∃ front c, t = front ++ [c] ∧ IsPlain c

theorem endsOpen_of_plain (front : Text) {t : Text} (hne : t ≠ []) (h : ∀ c ∈ t, IsPlain c) :
    EndsOpen (front ++ t) := by
  obtain ⟨start, c, rfl⟩ := (List.eq_nil_or_concat' t).resolve_left hne
  exact ⟨front ++ start, c, (List.append_assoc ..).symm,
    h c (List.mem_append_right _ (List.mem_singleton.mpr rfl))⟩

theorem IsWord.endsOpen {word : Text} (h : IsWord word) : EndsOpen word := by
  have hne : word ≠ [] := by
    rintro rfl
    cases h
  exact endsOpen_of_plain [] hne h.plain

/-- A word of one letter has only its capital, and no boundary begins with a capital. -/
theorem IsWord.endsOpen_capitalized {word : Text} (h : IsWord word) (hlength : 2 ≤ word.length) :
    EndsOpen word.capitalized := by
  cases h with
  | @intro c t hc ht =>
      have hne : t ≠ [] := by
        rintro rfl
        exact absurd hlength (Nat.lt_irrefl _)
      exact endsOpen_of_plain [c.capital] hne ht

theorem underscored_capitalized {words : List Text} (hwords : ∀ word ∈ words, IsWord word)
    (hopen : ∀ word ∈ words.dropLast, EndsOpen word.capitalized) {first : Text}
    (hplain : ∀ c ∈ first.tail, c.isCapital = false) (hend : words ≠ [] → EndsOpen first) :
    underscored (first ++ words.flatMap capitalized)
      = first ++ words.flatMap fun word => underscore :: word.capitalized := by
  induction words generalizing first with
  | nil =>
      rw [List.flatMap_nil, List.flatMap_nil, List.append_nil]
      exact underscored_of_noCapital hplain
  | cons word words ih =>
      obtain ⟨front, c, rfl, hc⟩ := hend (List.cons_ne_nil _ _)
      have hdrop (hne : words ≠ []) : (word :: words).dropLast = word :: words.dropLast :=
        List.dropLast_cons_of_ne_nil hne
      have hopen' : ∀ word ∈ words.dropLast, EndsOpen word.capitalized := by
        intro other hother
        have hne : words ≠ [] := by
          rintro rfl
          cases hother
        exact hopen other (hdrop hne ▸ List.mem_cons_of_mem _ hother)
      cases hwords word (List.mem_cons_self ..) with
      | @intro d t hd ht =>
          have hboundary : c.isWordBoundary d.capital = true :=
            CodePoint.isWordBoundary_iff.mpr ⟨hc, isCapital_capital hd⟩
          have hrest : underscored ((d.capital :: t) ++ words.flatMap capitalized)
              = (d.capital :: t) ++ words.flatMap fun word => underscore :: word.capitalized :=
            ih (fun word hword => hwords word (List.mem_cons_of_mem _ hword)) hopen'
              (fun e he => (ht e he).not_isCapital)
              fun hne => hopen (d :: t) (hdrop hne ▸ List.mem_cons_self ..)
          rw [List.flatMap_cons, capitalized, List.cons_append, underscored_append hboundary,
            ← List.cons_append, hrest, underscored_of_noCapital hplain]
          rfl

/-! ### The words in lower case -/

theorem lower_capital {c : CodePoint} (h : c.isSmall = true) : c.capital.lower = [c] := by
  have hcapital := isCapital_capital h
  have hne : c.capital ≠ .scalar 'İ' := fun heq => by
    rw [heq] at hcapital
    cases hcapital
  have hcode := CodePoint.isSmall_iff.mp h
  have hlower : Case.lowerCode c.capital.code = c.code := by
    rw [Case.lowerCode_capital (CodePoint.isCapital_iff.mp hcapital), code_capital h]
    omega
  rw [CodePoint.lower, if_neg hne, hlower, CodePoint.ofCode_code]

theorem flatMap_lower_of_plain {t : Text} (h : ∀ c ∈ t, IsPlain c) :
    t.flatMap CodePoint.lower = t := by
  have hlowered : ∀ c ∈ t, c.lower = [c] := fun c hc =>
    CodePoint.isLowered_of_ascii (h c hc).code_lt (h c hc).not_isCapital
  rw [List.flatMap_congr hlowered, List.flatMap_singleton']

theorem IsWord.flatMap_lower_capitalized {word : Text} (h : IsWord word) :
    (underscore :: word.capitalized).flatMap CodePoint.lower = underscore :: word := by
  have hunderscore : underscore.lower = [underscore] :=
    CodePoint.isLowered_of_ascii (by decide) (by decide)
  cases h with
  | intro hc ht =>
      rw [capitalized, List.flatMap_cons, List.flatMap_cons, hunderscore, lower_capital hc,
        flatMap_lower_of_plain ht]
      rfl

theorem IsWord.sigma_notMem {word : Text} (h : IsWord word) :
    capitalSigma ∉ underscore :: word.capitalized := by
  have hcode : ∀ c ∈ underscore :: word.capitalized, c.code < 0x80 := by
    cases h with
    | @intro d t hd ht =>
        intro c hc
        rcases List.mem_cons.mp hc with rfl | hc
        · decide
        · rcases List.mem_cons.mp hc with rfl | hc
          · have hcapital := CodePoint.isCapital_iff.mp (isCapital_capital hd)
            omega
          · exact (ht c hc).code_lt
  exact fun hmem => absurd (hcode _ hmem) (by decide)

theorem join_eq_flatMap (sep : CodePoint) (word : Text) (words : List Text) :
    join [sep] (word :: words) = word ++ words.flatMap (sep :: ·) := by
  induction words generalizing word with
  | nil => simp [join, List.intercalate]
  | cons next words ih =>
      rw [join_cons_cons, ih, List.flatMap_cons, List.append_assoc]
      rfl

/-- Words that were run together come apart again where they were joined. -/
theorem snakeCase_camelJoined {words : List Text} (hwords : ∀ word ∈ words, IsWord word)
    (hmiddle : ∀ word ∈ words.tail.dropLast, 2 ≤ word.length) :
    (camelJoined words).snakeCase = join [underscore] words := by
  cases words with
  | nil => rfl
  | cons first words =>
      have hfirst := hwords first (List.mem_cons_self ..)
      have hrest : ∀ word ∈ words, IsWord word :=
        fun word hword => hwords word (List.mem_cons_of_mem _ hword)
      have hopen : ∀ word ∈ words.dropLast, EndsOpen word.capitalized := fun word hword =>
        (hrest word (List.dropLast_subset _ hword)).endsOpen_capitalized (hmiddle word hword)
      have hcut : (camelJoined (first :: words)).underscored
          = first ++ words.flatMap fun word => underscore :: word.capitalized :=
        underscored_capitalized hrest hopen
          (fun c hc => (hfirst.plain c (List.mem_of_mem_tail hc)).not_isCapital)
          fun _ => hfirst.endsOpen
      have hsigma :
          capitalSigma ∉ first ++ words.flatMap fun word => underscore :: word.capitalized := by
        intro hmem
        rcases List.mem_append.mp hmem with hmem | hmem
        · exact absurd (hfirst.plain _ hmem).code_lt (by decide)
        · obtain ⟨word, hword, hmem⟩ := List.mem_flatMap.mp hmem
          exact (hrest word hword).sigma_notMem hmem
      rw [snakeCase_eq, hcut, lower_eq_flatMap hsigma, List.flatMap_append,
        flatMap_lower_of_plain hfirst.plain, List.flatMap_assoc,
        List.flatMap_congr fun word hword => (hrest word hword).flatMap_lower_capitalized,
        join_eq_flatMap]

/-! ## The headline theorem -/

/-- **Snake case has an underscore at exactly the boundaries**, in lower case. A boundary is
between a small letter or a digit of ASCII and a capital of ASCII; the search that takes
both of them at once misses none. The result has no capital of ASCII and is its own snake
case. Words that were run together in camel case come back with underscores between them,
unless one in the middle is a single letter. -/
theorem snakeCase_atBoundaries :
    (∀ c d : CodePoint, c.isWordBoundary d = true
      ↔ (0x61 ≤ c.code ∧ c.code ≤ 0x7A ∨ 0x30 ≤ c.code ∧ c.code ≤ 0x39)
        ∧ 0x41 ≤ d.code ∧ d.code ≤ 0x5A)
    ∧ (∀ t : Text, t.separateWords = t.underscored ∧ t.snakeCase = t.underscored.lower)
    ∧ (∀ t : Text, ∀ c ∈ t.snakeCase, c.isCapital = false)
    ∧ (∀ t : Text, t.snakeCase.snakeCase = t.snakeCase)
    ∧ ∀ words, (∀ word ∈ words, IsWord word) →
        (∀ word ∈ words.tail.dropLast, 2 ≤ word.length) →
          (camelJoined words).snakeCase = join [underscore] words := by
  refine ⟨fun c d => ?_, fun t => ⟨separateWords_eq_underscored t, snakeCase_eq t⟩,
    fun t c => not_isCapital_of_mem_snakeCase, snakeCase_snakeCase,
    fun words hwords hmiddle => snakeCase_camelJoined hwords hmiddle⟩
  rw [CodePoint.isWordBoundary_iff, CodePoint.isSmall_iff, CodePoint.isDigit_iff,
    CodePoint.isCapital_iff]

/-- Digits are no capitals; a single letter in the middle leaves no boundary behind it, and one
at the end does. -/
example :
    camelJoined ["os", "release2", "path"] = "osRelease2Path"
      ∧ snakeCase "osRelease2Path" = "os_release2_path"
      ∧ snakeCase (camelJoined ["os", "x", "arch"]) = "os_xarch"
      ∧ snakeCase (camelJoined ["os", "x"]) = "os_x" := by
  decide +kernel

end Text

end HostFacts
