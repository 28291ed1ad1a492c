import HostFacts.OsRelease
import HostFacts.Proofs.Dictionary

/-!
# Release files written and read

Which mappings a release file can make, and that every way to write one down
reads back as it. A name must have something in it, no line boundary and no
equals sign; a value must have something in it and no line boundary
(`IsMapping`). A value may be written between quotes, whatever it holds, and
without quotes unless trimming or unquoting would change it (`WritesValue`).

What a text is cut into decides everything: its lines (`lines_cons_line`,
`oneLine_of_mem_lines`), and each line at the first equals sign
(`cut_append`, `cut_eq_some`).
-/

namespace HostFacts

namespace Text

/-! ## Lines -/

/-- The text has no line boundary in it. -/
def IsOneLine (t : Text) : Prop := ∀ c ∈ t, c.endsLine = false

instance (t : Text) : Decidable t.IsOneLine :=
  inferInstanceAs (Decidable (∀ c ∈ t, c.endsLine = false))

/-- What may stand at the end of a line. -/
inductive LineEnd : (ending : Text) → Prop
  | boundary {c : CodePoint} (h : c.endsLine = true) : LineEnd [c]
  | pair : LineEnd [.scalar '\r', .scalar '\n']

theorem ne_return_of_not_endsLine {c : CodePoint} (h : c.endsLine = false) :
    c ≠ .scalar '\r' := by
  rintro rfl
  exact absurd h (by decide)

theorem oneLine_of_mem_lines {t line : Text} (h : line ∈ lines t) : line.IsOneLine := by
  fun_induction lines t generalizing line with
  | case1 => cases h
  | case2 t ih =>
      rcases List.mem_cons.mp h with rfl | hrest
      · exact fun c hc => absurd hc List.not_mem_nil
      · exact ih hrest
  | case3 c t hpair hends ih =>
      rcases List.mem_cons.mp h with rfl | hrest
      · exact fun c hc => absurd hc List.not_mem_nil
      · exact ih hrest
  | case4 c t hpair hends hlines ih =>
      obtain rfl := List.mem_singleton.mp h
      intro d hd
      obtain rfl := List.mem_singleton.mp hd
      exact Bool.eq_false_iff.mpr hends
  | case5 c t hpair hends first rest hlines ih =>
      rw [hlines] at ih
      rcases List.mem_cons.mp h with rfl | hrest
      · intro d hd
        rcases List.mem_cons.mp hd with rfl | hd
        · exact Bool.eq_false_iff.mpr hends
        · exact ih (List.mem_cons_self ..) d hd
      · exact ih (List.mem_cons_of_mem _ hrest)

/-- A boundary ends an empty line. A carriage return with a line feed behind it
is half an ending, which is why the text must not start with one. -/
theorem lines_ending {ending t : Text} (he : LineEnd ending)
    (ht : ending = [.scalar '\r'] → ∀ u, t ≠ .scalar '\n' :: u) :
    lines (ending ++ t) = [] :: lines t := by
  cases he with
  | pair => rfl
  | @boundary c hc =>
      rw [List.singleton_append, lines, if_pos hc]
      exact fun u hreturn hu => ht (congrArg (fun d => [d]) hreturn) u hu

theorem lines_cons_line {line ending t : Text} (hl : line.IsOneLine) (he : LineEnd ending)
    (ht : ending = [.scalar '\r'] → ∀ u, t ≠ .scalar '\n' :: u) :
    lines (line ++ (ending ++ t)) = line :: lines t := by
  induction line with
  | nil => exact lines_ending he ht
  | cons c line ih =>
      have hc : c.endsLine = false := hl c (List.mem_cons_self ..)
      rw [List.cons_append, lines_cons (ne_return_of_not_endsLine hc), if_neg (by simp [hc]),
        ih fun d hd => hl d (List.mem_cons_of_mem _ hd)]

theorem lines_oneLine {line : Text} (hl : line.IsOneLine) (hne : line ≠ []) :
    lines line = [line] := by
  induction line with
  | nil => exact absurd rfl hne
  | cons c line ih =>
      have hc : c.endsLine = false := hl c (List.mem_cons_self ..)
      rw [lines_cons (ne_return_of_not_endsLine hc), if_neg (by simp [hc])]
      cases line with
      | nil => rfl
      | cons d line => rw [ih (fun e he => hl e (List.mem_cons_of_mem _ he)) nofun]

/-! ## Cutting at the first separator -/

theorem cut_append {sep : CodePoint} {before : Text} (h : sep ∉ before) (after : Text) :
    cut sep (before ++ sep :: after) = (before, some after) := by
  induction before with
  | nil => rw [List.nil_append, cut, if_pos rfl]
  | cons c before ih =>
      rw [List.mem_cons, not_or] at h
      rw [List.cons_append, cut, if_neg (Ne.symm h.1), ih h.2]

theorem cut_eq_none {sep : CodePoint} {t : Text} (h : (cut sep t).2 = none) :
    (cut sep t).1 = t := by
  induction t with
  | nil => rfl
  | cons c t ih =>
      rw [cut] at h ⊢
      split at h
      · cases h
      · rename_i hc
        rw [if_neg hc, ih h]

theorem cut_eq_some {sep : CodePoint} {t before after : Text}
    (h : cut sep t = (before, some after)) : t = before ++ sep :: after ∧ sep ∉ before := by
  induction t generalizing before with
  | nil => cases h
  | cons c t ih =>
      rw [cut] at h
      split at h
      · rename_i hc
        cases h
        exact ⟨by rw [hc]; rfl, List.not_mem_nil⟩
      · rename_i hc
        obtain ⟨rfl, hafter⟩ := Prod.mk.inj h
        obtain ⟨ht, hnot⟩ := ih (Prod.ext rfl hafter)
        refine ⟨congrArg (c :: ·) ht, ?_⟩
        rw [List.mem_cons, not_or]
        exact ⟨fun he => hc he.symm, hnot⟩

theorem cut_of_notMem {sep : CodePoint} {t : Text} (h : sep ∉ t) : cut sep t = (t, none) := by
  cases hcut : (cut sep t).2 with
  | none => exact Prod.ext (cut_eq_none hcut) hcut
  | some after =>
      obtain ⟨ht, -⟩ := cut_eq_some (Prod.ext rfl hcut)
      refine absurd ?_ h
      rw [ht]
      exact List.mem_append_right _ (List.mem_cons_self ..)

/-! ## Trimming -/

theorem mem_of_mem_trim {t : Text} {c : CodePoint} (h : c ∈ t.trim) : c ∈ t := by
  rw [trim, trimEnd, List.mem_reverse] at h
  have hstart := List.mem_reverse.mp ((List.dropWhile_suffix _).subset h)
  exact (List.dropWhile_suffix _).subset hstart

/-- A text with no blank at either end is trimmed already. -/
theorem trim_eq_self {t : Text} (hfirst : ∀ c ∈ t.head?, c.isBlank = false)
    (hlast : ∀ c ∈ t.getLast?, c.isBlank = false) : t.trim = t := by
  have hstart : t.trimStart = t := by
    cases t with
    | nil => rfl
    | cons c u => rw [trimStart, List.dropWhile_cons_of_neg (by simp [hfirst c rfl])]
  rw [trim, hstart, trimEnd]
  rw [← List.head?_reverse] at hlast
  cases hr : t.reverse with
  | nil => rw [List.reverse_eq_nil_iff.mp hr]; rfl
  | cons c u =>
      rw [hr] at hlast
      rw [List.dropWhile_cons_of_neg (by simp [hlast c rfl]), ← hr, List.reverse_reverse]

end Text

namespace OsRelease

/-! ## What can be assigned -/

structure IsName (name : Text) : Prop where
  not_blank : name.isBlank = false
  oneLine : name.IsOneLine
  no_equals : equals ∉ name

structure IsValue (value : Text) : Prop where
  not_blank : value.isBlank = false
  oneLine : value.IsOneLine

instance (name : Text) : Decidable (IsName name) :=
  decidable_of_iff (name.isBlank = false ∧ name.IsOneLine ∧ equals ∉ name)
    ⟨fun ⟨hb, hl, he⟩ => ⟨hb, hl, he⟩, fun ⟨hb, hl, he⟩ => ⟨hb, hl, he⟩⟩

instance (value : Text) : Decidable (IsValue value) :=
  decidable_of_iff (value.isBlank = false ∧ value.IsOneLine)
    ⟨fun ⟨hb, hl⟩ => ⟨hb, hl⟩, fun ⟨hb, hl⟩ => ⟨hb, hl⟩⟩

/-- The text stands between two quotes of one kind. -/
def IsQuoted (t : Text) : Prop :=
  ∃ quote inner, isQuote quote = true ∧ t = quote :: (inner ++ [quote])

/-- The ways to write a value behind the equals sign. -/
inductive WritesValue : (value written : Text) → Prop
  | quoted {value : Text} {quote : CodePoint} (h : isQuote quote = true) :
      WritesValue value (quote :: (value ++ [quote]))
  | bare {value : Text} (hfirst : ∀ c ∈ value.head?, c.isBlank = false)
      (hlast : ∀ c ∈ value.getLast?, c.isBlank = false) (hquoted : ¬ IsQuoted value) :
      WritesValue value value

theorem not_blank_of_isQuote {c : CodePoint} (h : isQuote c = true) : c.isBlank = false := by
  rw [isQuote, Bool.or_eq_true, decide_eq_true_eq, decide_eq_true_eq] at h
  rcases h with rfl | rfl <;> decide

theorem not_endsLine_of_isQuote {c : CodePoint} (h : isQuote c = true) : c.endsLine = false := by
  rw [isQuote, Bool.or_eq_true, decide_eq_true_eq, decide_eq_true_eq] at h
  rcases h with rfl | rfl <;> decide

theorem unquote_quoted {quote : CodePoint} (h : isQuote quote = true) (inner : Text) :
    unquote (quote :: (inner ++ [quote])) = inner := by
  rw [unquote, if_pos ⟨h, List.getLast?_concat⟩, List.dropLast_concat]

theorem unquote_bare {t : Text} (h : ¬ IsQuoted t) : unquote t = t := by
  cases t with
  | nil => rfl
  | cons first rest =>
      rw [unquote, if_neg]
      rintro ⟨hquote, hlast⟩
      obtain ⟨inner, rfl⟩ := List.getLast?_eq_some_iff.mp hlast
      exact h ⟨first, inner, hquote, rfl⟩

theorem mem_of_mem_unquote {t : Text} {c : CodePoint} (h : c ∈ unquote t) : c ∈ t := by
  cases t with
  | nil => exact h
  | cons first rest =>
      rw [unquote] at h
      split at h
      · exact List.mem_cons_of_mem _ ((List.dropLast_sublist rest).subset h)
      · exact h

theorem WritesValue.unquote_trim {value written : Text} (h : WritesValue value written) :
    unquote written.trim = value := by
  cases h with
  | @quoted quote hquote =>
      have hblank := not_blank_of_isQuote hquote
      rw [Text.trim_eq_self, unquote_quoted hquote]
      · intro c hc
        cases hc
        exact hblank
      · intro c hc
        rw [← List.cons_append, List.getLast?_concat] at hc
        cases hc
        exact hblank
  | bare hfirst hlast hquoted => rw [Text.trim_eq_self hfirst hlast, unquote_bare hquoted]

theorem WritesValue.oneLine {value written : Text} (h : WritesValue value written)
    (hvalue : value.IsOneLine) : written.IsOneLine := by
  cases h with
  | @quoted quote hquote =>
      intro c hc
      rw [List.mem_cons, List.mem_append, List.mem_singleton] at hc
      rcases hc with rfl | hc | rfl
      · exact not_endsLine_of_isQuote hquote
      · exact hvalue c hc
      · exact not_endsLine_of_isQuote hquote
  | bare => exact hvalue

/-! ## One line -/

theorem assignment?_written {name value written : Text} (hn : IsName name) (hv : IsValue value)
    (hw : WritesValue value written) :
    assignment? (name ++ equals :: written) = some (name, value) := by
  rw [assignment?, Text.cut_append hn.no_equals]
  simp [hw.unquote_trim, hn.not_blank, hv.not_blank]

/-- What a line assigns is fit for a mapping, whatever else stands on it. -/
theorem isName_isValue_of_assignment? {line name value : Text} (hl : line.IsOneLine)
    (h : assignment? line = some (name, value)) : IsName name ∧ IsValue value := by
  unfold assignment? at h
  split at h
  · cases h
  · rename_i before rest hcut
    obtain ⟨rfl, hequals⟩ := Text.cut_eq_some hcut
    dsimp only at h
    split at h
    · cases h
    · rename_i hblank
      cases h
      rw [Bool.or_eq_true, not_or, Bool.not_eq_true, Bool.not_eq_true] at hblank
      have hrest : ∀ c ∈ rest, c.endsLine = false := fun c hc =>
        hl c (List.mem_append_right _ (List.mem_cons_of_mem _ hc))
      exact ⟨⟨hblank.1, fun c hc => hl c (List.mem_append_left _ hc), hequals⟩,
        ⟨hblank.2, fun c hc => hrest c (Text.mem_of_mem_trim (mem_of_mem_unquote hc))⟩⟩

/-! ## Whole files -/

/-- A mapping of the kind that release files make. -/
structure IsMapping (m : Dictionary Text) : Prop where
  nodup : (m.map Prod.fst).Nodup
  name : ∀ pair ∈ m, IsName pair.1
  value : ∀ pair ∈ m, IsValue pair.2

instance (m : Dictionary Text) : Decidable (IsMapping m) :=
  decidable_of_iff ((m.map Prod.fst).Nodup ∧ ∀ pair ∈ m, IsName pair.1 ∧ IsValue pair.2)
    ⟨fun ⟨hd, h⟩ => ⟨hd, fun pair hp => (h pair hp).1, fun pair hp => (h pair hp).2⟩,
      fun ⟨hd, hn, hv⟩ => ⟨hd, fun pair hp => ⟨hn pair hp, hv pair hp⟩⟩⟩

/-- The text has a line for each pair, in this order. The last line may lack its ending. -/
inductive Writes : (pairs : Dictionary Text) → (t : Text) → Prop
  | nil : Writes [] []
  | last {name value written : Text} (h : WritesValue value written) :
      Writes [(name, value)] (name ++ equals :: written)
  | cons {name value written ending t : Text} {pairs : Dictionary Text}
      (h : WritesValue value written) (he : Text.LineEnd ending) (ht : Writes pairs t) :
      Writes ((name, value) :: pairs) ((name ++ equals :: written) ++ (ending ++ t))

theorem IsName.head_ne {name : Text} (h : IsName name) (rest u : Text) :
    name ++ rest ≠ .scalar '\n' :: u := by
  intro heq
  cases name with
  | nil => exact absurd h.not_blank (by decide)
  | cons c name =>
      obtain ⟨rfl, -⟩ := List.cons.inj heq
      exact absurd (h.oneLine _ (List.mem_cons_self ..)) (by decide)

theorem Writes.head_ne {pairs : Dictionary Text} {t : Text} (h : Writes pairs t)
    (hn : ∀ pair ∈ pairs, IsName pair.1) (u : Text) : t ≠ .scalar '\n' :: u := by
  cases h with
  | nil => exact nofun
  | last => exact (hn _ (List.mem_cons_self ..)).head_ne _ u
  | cons =>
      rw [List.append_assoc]
      exact (hn _ (List.mem_cons_self ..)).head_ne _ u

theorem oneLine_assignment {name value written : Text} (hn : IsName name) (hv : IsValue value)
    (hw : WritesValue value written) : (name ++ equals :: written).IsOneLine := by
  intro c hc
  rw [List.mem_append, List.mem_cons] at hc
  rcases hc with hc | rfl | hc
  · exact hn.oneLine c hc
  · decide
  · exact hw.oneLine hv.oneLine c hc

theorem Writes.assignments {pairs : Dictionary Text} {t : Text} (h : Writes pairs t)
    (hn : ∀ pair ∈ pairs, IsName pair.1) (hv : ∀ pair ∈ pairs, IsValue pair.2) :
    t.lines.filterMap assignment? = pairs := by
  induction h with
  | nil => rfl
  | last hw =>
      have hname := hn _ (List.mem_cons_self ..)
      have hvalue := hv _ (List.mem_cons_self ..)
      rw [Text.lines_oneLine (oneLine_assignment hname hvalue hw) (by simp),
        List.filterMap_cons_some (assignment?_written hname hvalue hw)]
      rfl
  | cons hw he ht ih =>
      have hname := hn _ (List.mem_cons_self ..)
      have hvalue := hv _ (List.mem_cons_self ..)
      have hn' := fun pair hpair => hn pair (List.mem_cons_of_mem _ hpair)
      rw [Text.lines_cons_line (oneLine_assignment hname hvalue hw) he fun _ => ht.head_ne hn',
        List.filterMap_cons_some (assignment?_written hname hvalue hw),
        ih hn' fun pair hpair => hv pair (List.mem_cons_of_mem _ hpair)]

theorem Writes.read_eq {pairs : Dictionary Text} {t : Text} (h : Writes pairs t)
    (hm : IsMapping pairs) : read t = pairs := by
  rw [read, h.assignments hm.name hm.value, Dictionary.ofPairs_eq_self hm.nodup]

theorem isMapping_read (t : Text) : IsMapping (read t) := by
  have hpair : ∀ pair ∈ read t, IsName pair.1 ∧ IsValue pair.2 := by
    intro pair hpair
    obtain ⟨line, hline, ha⟩ := List.mem_filterMap.mp (Dictionary.mem_of_mem_ofPairs hpair)
    exact isName_isValue_of_assignment? (Text.oneLine_of_mem_lines hline) ha
  exact ⟨Dictionary.nodup_ofPairs _, fun pair h => (hpair pair h).1, fun pair h => (hpair pair h).2⟩

theorem exists_writes (pairs : Dictionary Text) : ∃ t, Writes pairs t := by
  induction pairs with
  | nil => exact ⟨[], .nil⟩
  | cons pair pairs ih =>
      obtain ⟨t, ht⟩ := ih
      have hquote : isQuote (.scalar '"') = true := by decide
      have hfeed : (CodePoint.scalar '\n').endsLine = true := by decide
      exact ⟨_, .cons (.quoted hquote) (.boundary hfeed) ht⟩

theorem IsMapping.perm {m pairs : Dictionary Text} (h : IsMapping m) (hp : pairs.Perm m) :
    IsMapping pairs :=
  ⟨(hp.map Prod.fst).nodup_iff.mpr h.nodup, fun pair hpair => h.name pair (hp.mem_iff.mp hpair),
    fun pair hpair => h.value pair (hp.mem_iff.mp hpair)⟩

/-! ## The headline theorem -/

/-- **Mappings round trip.** The mappings that release files make are those
whose names and values fit on a line each, and every text that writes such a
mapping down, its pairs in any order, makes that mapping again. -/
theorem mappings_roundTrip (m : Dictionary Text) :
    ((∃ t, read t = m) ↔ IsMapping m)
      ∧ ∀ pairs t, IsMapping m → pairs.Perm m → Writes pairs t →
        read t = pairs ∧ ∀ name, (read t).get? name = m.get? name := by
  refine ⟨⟨?_, fun hm => ?_⟩, fun pairs t hm hp hw => ?_⟩
  · rintro ⟨t, rfl⟩
    exact isMapping_read t
  · obtain ⟨t, ht⟩ := exists_writes m
    exact ⟨t, ht.read_eq hm⟩
  · have hread := hw.read_eq (hm.perm hp)
    exact ⟨hread, fun name => by rw [hread, Dictionary.get?_perm hm.nodup hp]⟩

/-- A value with a quote and a blank at its ends, and one that holds an equals
sign; the second line comes first and ends with a line separator. -/
theorem mappings_roundTrip_twoLines :
    IsMapping [("NAME", "it's "), (" V", "a=b")]
      ∧ Writes [(" V", "a=b"), ("NAME", "it's ")] " V=a=b\u2028NAME='it's '"
      ∧ read " V=a=b\u2028NAME='it's '" = [((" V" : Text), ("a=b" : Text)), ("NAME", "it's ")] := by
  have hm : IsMapping [("NAME", "it's "), (" V", "a=b")] := by decide
  have hbare : WritesValue "a=b" "a=b" := by
    refine .bare (by decide) (by decide) ?_
    rintro ⟨quote, inner, hquote, h⟩
    obtain rfl : CodePoint.scalar 'a' = quote := Option.some.inj (congrArg List.head? h)
    exact absurd hquote (by decide)
  have hquote : isQuote (.scalar '\'') = true := by decide
  have hquoted : WritesValue "it's " "'it's '" := .quoted hquote
  have hw : Writes [(" V", "a=b"), ("NAME", "it's ")] " V=a=b\u2028NAME='it's '" :=
    .cons hbare (.boundary (c := .scalar '\u2028') (by decide)) (.last hquoted)
  exact ⟨hm, hw, ((mappings_roundTrip _).2 _ _ hm (.swap ..) hw).1⟩

end OsRelease

end HostFacts
