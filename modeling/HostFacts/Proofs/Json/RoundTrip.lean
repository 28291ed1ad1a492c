import HostFacts.Proofs.Dictionary
import HostFacts.Proofs.Json.Strings

/-!
# Written values read back

A value without numbers is read back as it was written, in any layout whose
gaps are white space (`read_write_append`). The proof goes by way of the tokens
of the value, which no layout shows in: the written text consists of them
(`lexes_write`), and from any state in which a value is expected they come to
the value (`run_tokens`). The reader bounds how many containers are open at
once, and it keeps one member of each name, so a value must not be nested too
deep and the names in an object must be different. What is written is printable
ASCII and white space (`isWritten_write`).
-/

namespace HostFacts

namespace Json

/-- A value that reads back as it was written: no numbers, containers nested at most so deep,
no surrogates in texts that would be joined, and different names in every object. -/
inductive Plain : Nat → Json → Prop
  | null {room : Nat} : Plain room .null
  | bool {room : Nat} (b : Bool) : Plain room (.bool b)
  | str {room : Nat} {t : Text} (ht : t.isJoined = true) : Plain room (.str t)
  | arr {room : Nat} {items : List Json} (h : ∀ item ∈ items, Plain room item) :
      Plain (room + 1) (.arr items)
  | obj {room : Nat} {members : List (Text × Json)} (hnames : (members.map Prod.fst).Nodup)
      (hjoined : ∀ member ∈ members, member.1.isJoined = true)
      (h : ∀ member ∈ members, Plain room member.2) : Plain (room + 1) (.obj members)

/-! ## The tokens of a value -/

mutual

def tokens : Json → List Token
  | .str t => [.string (.ok t)]
  | .arr items => .beginArray :: (itemTokens items ++ [.endArray])
  | .obj members => .beginObject :: (memberTokens members ++ [.endObject])
  | j => [.scalar (.ok j)]

def itemTokens : List Json → List Token
  | [] => []
  | [item] => tokens item
  | item :: items => tokens item ++ .comma :: itemTokens items

def memberTokens : List (Text × Json) → List Token
  | [] => []
  | [(name, value)] => .string (.ok name) :: .colon :: tokens value
  | (name, value) :: members =>
    .string (.ok name) :: .colon :: (tokens value ++ .comma :: memberTokens members)

end

/-! ## From tokens to the value -/

namespace State

theorem run_cons {s s' : State} {token : Token} (h : s.step 0 token = .ok s')
    (rest : List Token) : s.run (token :: rest) = s'.run rest := by
  rw [run, h]
  rfl

/-- A value is expected, to be put on this stack. -/
def Awaits (s : State) (stack : List Frame) : Prop :=
  ∀ token, token ≠ .endArray → s.step 0 token = beginValue stack 0 token

theorem awaits_value (stack : List Frame) : Awaits ⟨.value, stack⟩ stack := fun _ _ => rfl

theorem awaits_itemOrEnd (stack : List Frame) :
    Awaits ⟨.itemOrEnd, stack⟩ (.items [] :: stack) := by
  intro token htoken
  cases token with
  | endArray => exact absurd rfl htoken
  | _ => rfl

theorem Awaits.scalar {s : State} {stack : List Frame} (h : s.Awaits stack) (value : Json) :
    s.step 0 (.scalar (.ok value)) = .ok ⟨.behind value, stack⟩ :=
  h _ nofun

theorem Awaits.string {s : State} {stack : List Frame} (h : s.Awaits stack) (t : Text) :
    s.step 0 (.string (.ok t)) = .ok ⟨.behind (.str t), stack⟩ :=
  h _ nofun

theorem Awaits.beginArray {s : State} {stack : List Frame} (h : s.Awaits stack)
    (hroom : stack.length < maxNesting) : s.step 0 .beginArray = .ok ⟨.itemOrEnd, stack⟩ :=
  (h .beginArray nofun).trans (if_pos hroom)

theorem Awaits.beginObject {s : State} {stack : List Frame} (h : s.Awaits stack)
    (hroom : stack.length < maxNesting) : s.step 0 .beginObject = .ok ⟨.nameOrEnd, stack⟩ :=
  (h .beginObject nofun).trans (if_pos hroom)

/-- A name is expected, after the members `done` of an object. -/
def AwaitsName (s : State) (done : Dictionary Json) (stack : List Frame) : Prop :=
  ∀ name, s.step 0 (.string (.ok name)) = .ok ⟨.colon done name, stack⟩

theorem awaitsName_nameOrEnd (stack : List Frame) : AwaitsName ⟨.nameOrEnd, stack⟩ [] stack :=
  fun _ => rfl

theorem awaitsName_name (done : Dictionary Json) (stack : List Frame) :
    AwaitsName ⟨.name done, stack⟩ done stack :=
  fun _ => rfl

end State

open State

/-- Where a value is expected the tokens of this one complete it, if as many containers more
may be opened. -/
def Completes (room : Nat) (j : Json) : Prop :=
  ∀ {s : State} {stack : List Frame}, s.Awaits stack → stack.length + room ≤ maxNesting →
    ∀ rest, s.run (j.tokens ++ rest) = State.run ⟨.behind j, stack⟩ rest

theorem run_itemTokens {room : Nat} {items : List Json} (hne : items ≠ [])
    (h : ∀ item ∈ items, Completes room item) {s : State} {done : List Json} {stack : List Frame}
    (hs : s.Awaits (.items done :: stack)) (hroom : stack.length + 1 + room ≤ maxNesting)
    (rest : List Token) :
    s.run (itemTokens items ++ .endArray :: rest)
      = State.run ⟨.behind (.arr (done.reverse ++ items)), stack⟩ rest := by
  -- the first item is read from behind the bracket, the others from behind a comma
  induction items generalizing s done with
  | nil => exact absurd rfl hne
  | cons item items ih =>
      have hitem := h item (List.mem_cons_self ..) hs hroom
      cases items with
      | nil =>
          rw [itemTokens, hitem, run_cons rfl, List.reverse_cons]
      | cons next items =>
          have hrest := ih (List.cons_ne_nil _ _) (fun j hj => h j (List.mem_cons_of_mem _ hj))
            (awaits_value (.items (item :: done) :: stack))
          rw [itemTokens, List.append_assoc, hitem, List.cons_append, run_cons rfl, hrest,
            List.reverse_cons, List.append_assoc, List.singleton_append]
          exact List.cons_ne_nil _ _

theorem run_memberTokens {room : Nat} {members : List (Text × Json)} (hne : members ≠ [])
    (h : ∀ member ∈ members, Completes room member.2) {s : State} {done : Dictionary Json}
    {stack : List Frame} (hnames : ((done ++ members).map Prod.fst).Nodup)
    (hs : s.AwaitsName done stack) (hroom : stack.length + 1 + room ≤ maxNesting)
    (rest : List Token) :
    s.run (memberTokens members ++ .endObject :: rest)
      = State.run ⟨.behind (.obj (done ++ members)), stack⟩ rest := by
  induction members generalizing s done with
  | nil => exact absurd rfl hne
  | cons member members ih =>
      obtain ⟨name, value⟩ := member
      have hvalue := h _ (List.mem_cons_self ..) (awaits_value (.members done name :: stack)) hroom
      have hput : done.put name value = done ++ [(name, value)] := by
        refine Dictionary.put_of_notMem (fun hmem => ?_) value
        rw [List.map_append, List.map_cons] at hnames
        exact (List.nodup_append.mp hnames).2.2 _ hmem _ (List.mem_cons_self ..) rfl
      cases members with
      | nil =>
          rw [memberTokens, List.cons_append, run_cons (hs name), List.cons_append, run_cons rfl,
            hvalue, run_cons rfl, hput]
      | cons next members =>
          have hnames' : ((done.put name value ++ next :: members).map Prod.fst).Nodup := by
            rw [hput, List.append_assoc, List.singleton_append]
            exact hnames
          have hrest := ih (List.cons_ne_nil _ _) (fun j hj => h j (List.mem_cons_of_mem _ hj))
            hnames' (awaitsName_name _ stack)
          rw [memberTokens, List.cons_append, run_cons (hs name), List.cons_append, run_cons rfl,
            List.append_assoc, hvalue, List.cons_append, run_cons rfl, hrest, hput,
            List.append_assoc, List.singleton_append]
          exact List.cons_ne_nil _ _

theorem run_tokens {room : Nat} {j : Json} (h : Plain room j) : Completes room j := by
  induction h with
  | null =>
      intro s stack hs hroom rest
      exact run_cons (hs.scalar .null) rest
  | bool b =>
      intro s stack hs hroom rest
      exact run_cons (hs.scalar (.bool b)) rest
  | @str room t ht =>
      intro s stack hs hroom rest
      exact run_cons (hs.string t) rest
  | @arr room items h ih =>
      intro s stack hs hroom rest
      have hbegin := hs.beginArray (by omega)
      rw [tokens, List.cons_append, run_cons hbegin, List.append_assoc, List.singleton_append]
      by_cases hne : items = []
      · subst hne
        exact run_cons rfl rest
      · exact run_itemTokens hne ih (awaits_itemOrEnd stack) (by omega) rest
  | @obj room members hnames hjoined h ih =>
      intro s stack hs hroom rest
      have hbegin := hs.beginObject (by omega)
      rw [tokens, List.cons_append, run_cons hbegin, List.append_assoc, List.singleton_append]
      by_cases hne : members = []
      · subst hne
        exact run_cons rfl rest
      · exact run_memberTokens hne ih (by exact hnames) (awaitsName_nameOrEnd stack) (by omega) rest

/-! ## From the written text to tokens -/

/-- The gaps of a layout are white space, but for one comma between two items. -/
structure Layout.IsBlank (layout : Layout) : Prop where
  opening : ∀ depth, ∀ c ∈ layout.opening depth, isSpace c = true
  separator : ∃ before after, layout.separator = before ++ .scalar ',' :: after
    ∧ (∀ c ∈ before, isSpace c = true) ∧ ∀ c ∈ after, isSpace c = true
  closing : ∀ depth, ∀ c ∈ layout.closing depth, isSpace c = true

theorem Layout.isBlank_compact : Layout.compact.IsBlank where
  opening := fun _ => nofun
  separator := ⟨[], " ", rfl, nofun, by decide⟩
  closing := fun _ => nofun

theorem Layout.isBlank_indented : Layout.indented.IsBlank := by
  have hnewline : ∀ depth, ∀ c ∈ (.scalar '\n' :: List.replicate (2 * depth) (.scalar ' ') : Text),
      isSpace c = true := by
    intro depth c hc
    rcases List.mem_cons.mp hc with rfl | hc
    · rfl
    · rw [List.eq_of_mem_replicate hc]
      rfl
  exact ⟨hnewline, ⟨[], [], rfl, nofun, nofun⟩, hnewline⟩

namespace Lexes

theorem gap {g t : Text} {tokens : List Token} (hg : ∀ c ∈ g, isSpace c = true)
    (h : Lexes t tokens) : Lexes (g ++ t) tokens := by
  induction g with
  | nil => exact h
  | cons c g ih =>
      exact .space (hg c (List.mem_cons_self ..)) (ih fun d hd => hg d (List.mem_cons_of_mem _ hd))

theorem mark {c : CodePoint} {token : Token} (hmark : (c, token) ∈ marks)
    {t : Text} {tokens : List Token} (h : Lexes t tokens) : Lexes (c :: t) (token :: tokens) :=
  .token (mark_spec hmark).1 (.mark hmark t) h

theorem writeString {name : Text} (hname : name.isJoined = true) {t : Text}
    {tokens : List Token} (h : Lexes t tokens) :
    Lexes (writeString name ++ t) (.string (.ok name) :: tokens) :=
  .token rfl (Lexeme.of_writeString hname t) h

theorem separator {layout : Layout} (hl : layout.IsBlank) {t : Text} {tokens : List Token}
    (h : Lexes t tokens) : Lexes (layout.separator ++ t) (.comma :: tokens) := by
  obtain ⟨before, after, hseparator, hbefore, hafter⟩ := hl.separator
  rw [hseparator, List.append_assoc]
  exact gap hbefore (mark (by simp [marks]) (gap hafter h))

end Lexes

/-- The written form of the value consists of its tokens, whatever follows it. -/
def WritesTokens (layout : Layout) (j : Json) : Prop :=
  ∀ depth {t : Text} {rest : List Token}, Lexes t rest →
    Lexes (j.write layout depth ++ t) (j.tokens ++ rest)

theorem lexes_writeItems {layout : Layout} (hl : layout.IsBlank) {items : List Json}
    (h : ∀ item ∈ items, WritesTokens layout item) (depth : Nat) {t : Text} {rest : List Token}
    (ht : Lexes t rest) :
    Lexes (writeItems layout depth items ++ t) (itemTokens items ++ rest) := by
  induction items with
  | nil => exact ht
  | cons item items ih =>
      have hitem := h item (List.mem_cons_self ..)
      cases items with
      | nil =>
          rw [writeItems, itemTokens, List.append_assoc]
          exact .gap (hl.opening depth) (hitem depth ht)
      | cons next items =>
          have hrest := ih fun j hj => h j (List.mem_cons_of_mem _ hj)
          rw [writeItems, itemTokens]
          · simp only [List.append_assoc, List.cons_append]
            exact .gap (hl.opening depth) (hitem depth (.separator hl hrest))
          · exact List.cons_ne_nil _ _
          · exact List.cons_ne_nil _ _

theorem lexes_writeMembers {layout : Layout} (hl : layout.IsBlank) {members : List (Text × Json)}
    (hjoined : ∀ member ∈ members, member.1.isJoined = true)
    (h : ∀ member ∈ members, WritesTokens layout member.2) (depth : Nat) {t : Text}
    {rest : List Token} (ht : Lexes t rest) :
    Lexes (writeMembers layout depth members ++ t) (memberTokens members ++ rest) := by
  induction members with
  | nil => exact ht
  | cons member members ih =>
      obtain ⟨name, value⟩ := member
      have hname := hjoined _ (List.mem_cons_self ..)
      have hvalue := h _ (List.mem_cons_self ..)
      have hmark : (CodePoint.scalar ':', Token.colon) ∈ marks := by simp [marks]
      have hcolon : ∀ {t : Text} {rest : List Token}, Lexes t rest →
          Lexes ((": " : Text) ++ t) (.colon :: rest) := fun ht => .mark hmark (.space rfl ht)
      cases members with
      | nil =>
          rw [writeMembers, memberTokens]
          simp only [List.append_assoc, List.cons_append]
          exact .gap (hl.opening depth) (.writeString hname (hcolon (hvalue depth ht)))
      | cons next members =>
          have hrest := ih (fun m hm => hjoined m (List.mem_cons_of_mem _ hm))
            fun m hm => h m (List.mem_cons_of_mem _ hm)
          rw [writeMembers, memberTokens]
          · simp only [List.append_assoc, List.cons_append]
            exact .gap (hl.opening depth)
              (.writeString hname (hcolon (hvalue depth (.separator hl hrest))))
          · exact List.cons_ne_nil _ _
          · exact List.cons_ne_nil _ _

theorem lexes_write {layout : Layout} (hl : layout.IsBlank) {room : Nat} {j : Json}
    (h : Plain room j) : WritesTokens layout j := by
  induction h with
  | null =>
      intro depth t rest ht
      have hword : (("null" : Text), Json.null) ∈ words := by simp [words]
      exact .token rfl (.word hword t) ht
  | bool b =>
      intro depth t rest ht
      cases b with
      | false =>
          have hword : (("false" : Text), Json.bool false) ∈ words := by simp [words]
          exact .token rfl (.word hword t) ht
      | true =>
          have hword : (("true" : Text), Json.bool true) ∈ words := by simp [words]
          exact .token rfl (.word hword t) ht
  | str hjoined =>
      intro depth t rest ht
      exact .writeString hjoined ht
  | @arr room items h ih =>
      intro depth t rest ht
      have hbegin : (CodePoint.scalar '[', Token.beginArray) ∈ marks := by simp [marks]
      have hend : (CodePoint.scalar ']', Token.endArray) ∈ marks := by simp [marks]
      rw [tokens, List.cons_append, List.append_assoc, List.singleton_append]
      by_cases hne : items = []
      · subst hne
        exact .mark hbegin (.mark hend ht)
      · rw [write]
        · simp only [List.append_assoc]
          exact .mark hbegin (lexes_writeItems hl ih _ (.gap (hl.closing depth) (.mark hend ht)))
        · exact hne
  | @obj room members hnames hjoined h ih =>
      intro depth t rest ht
      have hbegin : (CodePoint.scalar '\x7b', Token.beginObject) ∈ marks := by simp [marks]
      have hend : (CodePoint.scalar '\x7d', Token.endObject) ∈ marks := by simp [marks]
      rw [tokens, List.cons_append, List.append_assoc, List.singleton_append]
      by_cases hne : members = []
      · subst hne
        exact .mark hbegin (.mark hend ht)
      · rw [write]
        · simp only [List.append_assoc]
          exact .mark hbegin
            (lexes_writeMembers hl hjoined ih _ (.gap (hl.closing depth) (.mark hend ht)))
        · exact hne

/-- **Round trip.** A plain value reads back from its written form in any layout, whatever white
space follows it. -/
theorem read_write_append {layout : Layout} (hl : layout.IsBlank) {j : Json}
    (h : Plain maxNesting j) (depth : Nat) {gap : Text} (hgap : ∀ c ∈ gap, isSpace c = true) :
    read (j.write layout depth ++ gap) = .ok j := by
  refine read_eq_ok_iff.mpr ⟨j.tokens, ?_, ?_⟩
  · have hlexes := lexes_write hl h depth (Lexes.gap hgap Lexes.nil)
    rw [List.append_nil, List.append_nil] at hlexes
    exact hlexes
  · have hrun := run_tokens h (awaits_value []) (by simp) []
    rw [List.append_nil] at hrun
    exact hrun

theorem read_write {layout : Layout} (hl : layout.IsBlank) {j : Json}
    (h : Plain maxNesting j) (depth : Nat) : read (j.write layout depth) = .ok j := by
  have hread : read (j.write layout depth ++ []) = .ok j := read_write_append hl h depth nofun
  rw [List.append_nil] at hread
  exact hread

theorem read_compact {j : Json} (h : Plain maxNesting j) : read j.compact = .ok j :=
  read_write Layout.isBlank_compact h 0

theorem read_pretty {j : Json} (h : Plain maxNesting j) : read j.pretty = .ok j :=
  read_write Layout.isBlank_indented h 0

/-! ## Characters written -/

theorem isWritten_gap {g : Text} (h : ∀ c ∈ g, isSpace c = true) :
    ∀ c ∈ g, isWritten c = true := by
  intro c hc
  rw [isWritten, h c hc, Bool.or_true]

theorem isWritten_separator {layout : Layout} (hl : layout.IsBlank) :
    ∀ c ∈ layout.separator, isWritten c = true := by
  obtain ⟨before, after, hseparator, hbefore, hafter⟩ := hl.separator
  rw [hseparator, List.forall_mem_append, List.forall_mem_cons]
  exact ⟨isWritten_gap hbefore, by decide, isWritten_gap hafter⟩

theorem isWritten_writeItems {layout : Layout} (hl : layout.IsBlank) {depth : Nat}
    {items : List Json}
    (h : ∀ item ∈ items, ∀ c ∈ item.write layout depth, isWritten c = true) :
    ∀ c ∈ writeItems layout depth items, isWritten c = true := by
  have hopening := isWritten_gap (hl.opening depth)
  induction items with
  | nil => exact nofun
  | cons item items ih =>
      have hitem := h item (List.mem_cons_self ..)
      have hrest := ih fun j hj => h j (List.mem_cons_of_mem _ hj)
      cases items with
      | nil =>
          rw [writeItems]
          simp only [List.forall_mem_append]
          exact ⟨hopening, hitem⟩
      | cons next items =>
          rw [writeItems]
          · simp only [List.forall_mem_append]
            exact ⟨⟨⟨hopening, hitem⟩, isWritten_separator hl⟩, hrest⟩
          · exact List.cons_ne_nil _ _

theorem isWritten_writeMembers {layout : Layout} (hl : layout.IsBlank) {depth : Nat}
    {members : List (Text × Json)}
    (h : ∀ member ∈ members, ∀ c ∈ member.2.write layout depth, isWritten c = true) :
    ∀ c ∈ writeMembers layout depth members, isWritten c = true := by
  have hopening := isWritten_gap (hl.opening depth)
  have hcolon : ∀ c ∈ (": " : Text), isWritten c = true := by decide
  induction members with
  | nil => exact nofun
  | cons member members ih =>
      obtain ⟨name, value⟩ := member
      have hvalue := h _ (List.mem_cons_self ..)
      have hrest := ih fun m hm => h m (List.mem_cons_of_mem _ hm)
      cases members with
      | nil =>
          rw [writeMembers]
          simp only [List.forall_mem_append]
          exact ⟨⟨⟨hopening, isWritten_writeString name⟩, hcolon⟩, hvalue⟩
      | cons next members =>
          rw [writeMembers]
          · simp only [List.forall_mem_append]
            exact ⟨⟨⟨⟨⟨hopening, isWritten_writeString name⟩, hcolon⟩, hvalue⟩,
              isWritten_separator hl⟩, hrest⟩
          · exact List.cons_ne_nil _ _

theorem isWritten_write {layout : Layout} (hl : layout.IsBlank) {room : Nat} {j : Json}
    (h : Plain room j) (depth : Nat) : ∀ c ∈ j.write layout depth, isWritten c = true := by
  induction h generalizing depth with
  | null =>
      rw [write]
      decide
  | bool b => cases b <;> rw [write] <;> decide
  | str ht => exact isWritten_writeString _
  | @arr room items h ih =>
      by_cases hne : items = []
      · subst hne
        rw [write]
        decide
      · rw [write]
        · simp only [List.forall_mem_append]
          exact ⟨⟨⟨by decide, isWritten_writeItems hl fun item hitem => ih item hitem _⟩,
            isWritten_gap (hl.closing depth)⟩, by decide⟩
        · exact hne
  | @obj room members hnames hjoined h ih =>
      by_cases hne : members = []
      · subst hne
        rw [write]
        decide
      · rw [write]
        · simp only [List.forall_mem_append]
          exact ⟨⟨⟨by decide, isWritten_writeMembers hl fun member hmember => ih member hmember _⟩,
            isWritten_gap (hl.closing depth)⟩, by decide⟩
        · exact hne

theorem code_lt_of_isWritten {c : CodePoint} (h : isWritten c = true) : c.code < 0x80 := by
  simp only [isWritten, isSpace, Bool.or_eq_true, Bool.and_eq_true, decide_eq_true_eq] at h
  rcases h with h | ((rfl | rfl) | rfl) | rfl
  · omega
  all_goals decide

theorem ascii_write {layout : Layout} (hl : layout.IsBlank) {room : Nat} {j : Json}
    (h : Plain room j) (depth : Nat) : ∀ c ∈ j.write layout depth, c.code < 0x80 :=
  fun c hc => code_lt_of_isWritten (isWritten_write hl h depth c hc)

end Json

end HostFacts
