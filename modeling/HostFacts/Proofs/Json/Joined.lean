import HostFacts.Proofs.Json.Names
import HostFacts.Proofs.Json.RoundTrip
import HostFacts.Proofs.Text.Joined

/-!
# Texts that were read are joined

No text of a value that was read from well-formed JSON has a pair of surrogates
in it that are two characters. All surrogates of a string come from escapes then,
and a string is joined when it is read, whatever escapes it was written with. No
other token holds a text, and the states of the reader only put together what the
tokens hold. So the members that a name finds are joined, too.
-/

namespace HostFacts

namespace Json

open Text (isWellFormed_iff isWellFormed_of_subset)

/-- All texts in a value are joined, the names of members included. -/
inductive IsJoined : Json → Prop
  | null : IsJoined .null
  | bool (b : Bool) : IsJoined (.bool b)
  | int (i : Int) : IsJoined (.int i)
  | float (x : Float) : IsJoined (.float x)
  | str {t : Text} (h : t.isJoined = true) : IsJoined (.str t)
  | arr {items : List Json} (h : ∀ item ∈ items, IsJoined item) : IsJoined (.arr items)
  | obj {members : List (Text × Json)} (hnames : ∀ member ∈ members, member.1.isJoined = true)
      (h : ∀ member ∈ members, IsJoined member.2) : IsJoined (.obj members)

/-! ## Tokens -/

inductive Token.IsJoined : Token → Prop
  | beginArray : IsJoined .beginArray
  | endArray : IsJoined .endArray
  | beginObject : IsJoined .beginObject
  | endObject : IsJoined .endObject
  | comma : IsJoined .comma
  | colon : IsJoined .colon
  | string {t : Text} (h : t.isJoined = true) : IsJoined (.string (.ok t))
  | scalar {value : Json} (h : value.IsJoined) : IsJoined (.scalar (.ok value))

theorem NumberParts.isJoined_value {parts : NumberParts} {value : Json}
    (h : parts.value = .ok value) : value.IsJoined := by
  unfold NumberParts.value at h
  split at h
  · split at h
    · cases h
    · cases h
      exact .int _
  · cases h
    exact .float _

theorem isSurrogate_of_unescape? {c plain : CodePoint} (h : unescape? c = some plain) :
    plain.isSurrogate = false := by
  unfold unescape? at h
  split at h <;> cases h <;> rfl

/-- In well-formed text surrogates are units only. -/
theorem StringBody.isSurrogate_of_plain {t rest : Text} {pieces : List Piece}
    (h : StringBody t pieces rest) (ht : t.isWellFormed = true) :
    ∀ c, .plain c ∈ pieces → c.isSurrogate = false := by
  induction h with
  | close rest => exact nofun
  | unit hn h ih =>
      intro c hc
      refine ih (isWellFormed_of_subset ?_ ht) c ((List.mem_cons.mp hc).resolve_left nofun)
      exact List.subset_append_right [CodePoint.scalar '\\', .scalar 'u', _, _, _, _] _
  | escape hescape h ih =>
      intro c hc
      rcases List.mem_cons.mp hc with heq | hc
      · cases heq
        exact isSurrogate_of_unescape? hescape
      · refine ih (isWellFormed_of_subset ?_ ht) c hc
        exact List.subset_append_right [CodePoint.scalar '\\', _] _
  | plain hq hb hcode h ih =>
      intro c hc
      rcases List.mem_cons.mp hc with heq | hc
      · cases heq
        exact isWellFormed_iff.mp ht _ (List.mem_cons_self ..)
      · exact ih (isWellFormed_of_subset (List.subset_cons_self _ _) ht) c hc

theorem Lexeme.isJoined {t rest : Text} {token : Token} (h : Lexeme t token rest)
    (ht : t.isWellFormed = true) : token.IsJoined := by
  cases h with
  | mark h rest =>
      simp only [marks, List.mem_cons, Prod.mk.injEq, List.not_mem_nil, or_false] at h
      rcases h with ⟨-, rfl⟩ | ⟨-, rfl⟩ | ⟨-, rfl⟩ | ⟨-, rfl⟩ | ⟨-, rfl⟩ | ⟨-, rfl⟩
      · exact .beginArray
      · exact .endArray
      · exact .beginObject
      · exact .endObject
      · exact .comma
      · exact .colon
  | string h =>
      have hplain := h.isSurrogate_of_plain (isWellFormed_of_subset (List.subset_cons_self _ _) ht)
      refine .string (isJoined_joinPairsOnto [] _ hplain rfl fun c hc => ?_)
      cases hc
  | word h rest =>
      simp only [words, List.mem_cons, Prod.mk.injEq, List.not_mem_nil, or_false] at h
      rcases h with ⟨-, rfl⟩ | ⟨-, rfl⟩ | ⟨-, rfl⟩ | ⟨-, rfl⟩ | ⟨-, rfl⟩ | ⟨-, rfl⟩
      · exact .scalar .null
      · exact .scalar (.bool true)
      · exact .scalar (.bool false)
      · exact .scalar (.float _)
      · exact .scalar (.float _)
      · exact .scalar (.float _)
  | number h hv => exact .scalar (NumberParts.isJoined_value hv)

theorem Lexes.isJoined {t : Text} {tokens : List Token} (h : Lexes t tokens)
    (ht : t.isWellFormed = true) : ∀ token ∈ tokens, token.IsJoined := by
  induction h with
  | nil => exact nofun
  | space _ _ ih => exact ih (isWellFormed_of_subset (List.subset_cons_self _ _) ht)
  | token _ htoken _ ih =>
      intro token hmem
      rcases List.mem_cons.mp hmem with rfl | hmem
      · exact htoken.isJoined ht
      · exact ih (isWellFormed_of_subset htoken.suffix.subset ht) token hmem

/-! ## States of the reader -/

/-- The members of an object that are read so far. -/
structure MembersJoined (members : Dictionary Json) : Prop where
  names : ∀ member ∈ members, member.1.isJoined = true
  values : ∀ member ∈ members, member.2.IsJoined

theorem MembersJoined.nil : MembersJoined [] := ⟨nofun, nofun⟩

theorem MembersJoined.put {members : Dictionary Json} (h : MembersJoined members) {name : Text}
    {value : Json} (hname : name.isJoined = true) (hvalue : value.IsJoined) :
    MembersJoined (members.put name value) := by
  refine ⟨fun member hmem => ?_, fun member hmem => ?_⟩
  · rcases Dictionary.mem_put hmem with rfl | hmem
    · exact hname
    · exact h.names member hmem
  · rcases Dictionary.mem_put hmem with rfl | hmem
    · exact hvalue
    · exact h.values member hmem

inductive Frame.IsJoined : Frame → Prop
  | items {done : List Json} (h : ∀ item ∈ done, item.IsJoined) : IsJoined (.items done)
  | members {done : Dictionary Json} {name : Text} (h : MembersJoined done)
      (hname : name.isJoined = true) : IsJoined (.members done name)

inductive Expecting.IsJoined : Expecting → Prop
  | value : IsJoined .value
  | itemOrEnd : IsJoined .itemOrEnd
  | nameOrEnd : IsJoined .nameOrEnd
  | name {done : Dictionary Json} (h : MembersJoined done) : IsJoined (.name done)
  | colon {done : Dictionary Json} {name : Text} (h : MembersJoined done)
      (hname : name.isJoined = true) : IsJoined (.colon done name)
  | behind {value : Json} (h : value.IsJoined) : IsJoined (.behind value)

structure State.IsJoined (s : State) : Prop where
  expecting : s.expecting.IsJoined
  stack : ∀ frame ∈ s.stack, frame.IsJoined

namespace State

theorem isJoined_cons {frame : Frame} {stack : List Frame} (hframe : frame.IsJoined)
    (hstack : ∀ f ∈ stack, f.IsJoined) : ∀ f ∈ frame :: stack, f.IsJoined :=
  List.forall_mem_cons.mpr ⟨hframe, hstack⟩

theorem isJoined_beginValue {stack : List Frame} (hstack : ∀ frame ∈ stack, frame.IsJoined)
    {token : Token} (htoken : token.IsJoined) {s : State}
    (h : beginValue stack 0 token = .ok s) : s.IsJoined := by
  cases htoken with
  | string ht =>
      cases h
      exact ⟨.behind (.str ht), hstack⟩
  | scalar hvalue =>
      cases h
      exact ⟨.behind hvalue, hstack⟩
  | beginArray =>
      rw [beginValue] at h
      split at h
      · cases h
        exact ⟨.itemOrEnd, hstack⟩
      · cases h
  | beginObject =>
      rw [beginValue] at h
      split at h
      · cases h
        exact ⟨.nameOrEnd, hstack⟩
      · cases h
  | endArray | endObject | comma | colon => cases h

theorem isJoined_readName {done : Dictionary Json} (hdone : MembersJoined done)
    {stack : List Frame} (hstack : ∀ frame ∈ stack, frame.IsJoined) {token : Token}
    (htoken : token.IsJoined) {s : State} (h : readName done stack 0 token = .ok s) :
    s.IsJoined := by
  cases htoken with
  | string ht =>
      cases h
      exact ⟨.colon hdone ht, hstack⟩
  | scalar | beginArray | beginObject | endArray | endObject | comma | colon => cases h

theorem isJoined_readBehind {value : Json} (hvalue : value.IsJoined) {stack : List Frame}
    (hstack : ∀ frame ∈ stack, frame.IsJoined) {token : Token} {s : State}
    (h : readBehind value stack 0 token = .ok s) : s.IsJoined := by
  unfold readBehind at h
  split at h
  · cases h
  · obtain ⟨hframe, houter⟩ := List.forall_mem_cons.mp hstack
    cases h
    cases hframe with
    | items hdone =>
        exact ⟨.value, isJoined_cons (.items (List.forall_mem_cons.mpr ⟨hvalue, hdone⟩)) houter⟩
  · obtain ⟨hframe, houter⟩ := List.forall_mem_cons.mp hstack
    cases h
    cases hframe with
    | items hdone =>
        refine ⟨.behind (.arr fun item hitem => ?_), houter⟩
        rcases List.mem_cons.mp (List.mem_reverse.mp hitem) with rfl | hitem
        · exact hvalue
        · exact hdone item hitem
  · obtain ⟨hframe, houter⟩ := List.forall_mem_cons.mp hstack
    cases h
    cases hframe with
    | members hdone hname => exact ⟨.name (hdone.put hname hvalue), houter⟩
  · obtain ⟨hframe, houter⟩ := List.forall_mem_cons.mp hstack
    cases h
    cases hframe with
    | members hdone hname =>
        have hput := hdone.put hname hvalue
        exact ⟨.behind (.obj hput.names hput.values), houter⟩
  · cases h

/-- One token leads from joined states to joined states. -/
theorem IsJoined.step {s s' : State} (hs : s.IsJoined) {token : Token} (htoken : token.IsJoined)
    (h : s.step 0 token = .ok s') : s'.IsJoined := by
  obtain ⟨expecting, stack⟩ := s
  obtain ⟨hexpecting, hstack⟩ := hs
  cases hexpecting with
  | value => exact isJoined_beginValue hstack htoken h
  | itemOrEnd =>
      by_cases hend : token = .endArray
      · subst hend
        cases h
        exact ⟨.behind (.arr nofun), hstack⟩
      · rw [awaits_itemOrEnd stack token hend] at h
        have hframe : Frame.IsJoined (.items []) :=
          .items fun _ hmem => absurd hmem List.not_mem_nil
        exact isJoined_beginValue (isJoined_cons hframe hstack) htoken h
  | nameOrEnd =>
      by_cases hend : token = .endObject
      · subst hend
        cases h
        exact ⟨.behind (.obj nofun nofun), hstack⟩
      · have hname : State.step ⟨.nameOrEnd, stack⟩ 0 token = readName [] stack 0 token := by
          cases token with
          | endObject => exact absurd rfl hend
          | _ => rfl
        exact isJoined_readName .nil hstack htoken (hname ▸ h)
  | name hdone => exact isJoined_readName hdone hstack htoken h
  | colon hdone hname =>
      cases htoken with
      | colon =>
          cases h
          exact ⟨.value, isJoined_cons (.members hdone hname) hstack⟩
      | _ => cases h
  | behind hvalue => exact isJoined_readBehind hvalue hstack h

theorem IsJoined.run {s : State} (hs : s.IsJoined) {tokens : List Token}
    (htokens : ∀ token ∈ tokens, token.IsJoined) {value : Json}
    (h : s.run tokens = some value) : value.IsJoined := by
  induction tokens generalizing s with
  | nil =>
      obtain ⟨expecting, stack⟩ := s
      have hfinish : State.finish ⟨expecting, stack⟩ 0 = .ok value := toOption_eq_some_iff.mp h
      cases hs.expecting with
      | behind hvalue =>
          cases stack with
          | nil =>
              cases hfinish
              exact hvalue
          | cons frame stack => cases hfinish
      | _ => cases hfinish
  | cons token tokens ih =>
      obtain ⟨htoken, htokens⟩ := List.forall_mem_cons.mp htokens
      obtain ⟨s', hstep, hrun⟩ := Option.bind_eq_some_iff.mp h
      exact ih (hs.step htoken (toOption_eq_some_iff.mp hstep)) htokens hrun

end State

/-- **What was read is joined**, if it was read from well-formed text. -/
theorem isJoined_of_read {t : Text} (ht : t.isWellFormed = true) {value : Json}
    (h : read t = .ok value) : value.IsJoined := by
  obtain ⟨tokens, hlexes, hrun⟩ := read_eq_ok_iff.mp h
  have hstart : State.start.IsJoined := ⟨.value, fun frame hframe => absurd hframe List.not_mem_nil⟩
  exact hstart.run (hlexes.isJoined ht) hrun

/-! ## Members by name -/

theorem IsJoined.named {members : List (Text × Json)} (h : IsJoined (.obj members)) {name : Text}
    {j : Json} (hj : named members name = some j) : j.IsJoined := by
  cases h with
  | obj _ hvalues =>
      obtain ⟨member, hfind, rfl⟩ := Option.map_eq_some_iff.mp hj
      exact hvalues member (List.mem_reverse.mp (List.mem_of_find?_eq_some hfind))

end Json

end HostFacts
