import HostFacts.World

/-!
# Taking something out of a file tree

What a path leads to depends on the locations that are looked at while it is
followed, its way, and on no other. So it is enough to know the way in the whole
tree to know where the path leads once a location is taken out, with all that is
inside: if the way keeps clear of it the path leads where it did
(`entry_without_of_clear`), and if it does not the path leads nowhere
(`entry_without_of_hit`). Both are one induction along the way, which has a
branch for each kind of name and goes on at a link with one link less.
-/

namespace HostFacts

namespace FileTree

/-! ## The way of a path -/

/-- The locations that are looked at when names are followed, where a path ends included. -/
def namesWay (tree : FileTree) (onward : Location → List Text → List Location)
    (here : Location) : List Text → List Location
  | [] => [here]
  | name :: names =>
    here ::
      match tree.entryAt? here with
      | none | some (.file _ _ _) | some (.link _) => []
      | some (.directory searchable _) =>
        if name = [] then namesWay tree onward here names
        else if searchable = false then []
        else if name = dot then namesWay tree onward here names
        else if name = dotDot then namesWay tree onward here.dropLast names
        else if maxNameBytes < (bytesOf name).length then []
        else
          match tree.entryAt? (here ++ [name]) with
          | none => [here ++ [name]]
          | some (.link target) =>
            (here ++ [name]) :: onward (linkStart here target) (linkNames target ++ names)
          | some _ => namesWay tree onward (here ++ [name]) names

def linksWay (tree : FileTree) : (links : Nat) → Location → List Text → List Location
  | 0 => tree.namesWay fun _ _ => []
  | links + 1 => tree.namesWay (tree.linksWay links)

/-- The locations on the way of a path: none if it is too long to be followed at all. -/
def way (tree : FileTree) (p : Path) : List Location :=
  if maxPathBytes < (bytesOf p.text).length then []
  else tree.linksWay maxLinks (tree.startOf p) p.parts

/-! ## Following names in what is left -/

section Following

variable {tree : FileTree} {l : Location} {onward onward' : Location → List Text →
  Except FileFault Location} {onwardWay : Location → List Text → List Location}

theorem mem_namesWay
    (honward : ∀ start names y, onward start names = .ok y → y ∈ onwardWay start names)
    {names : List Text} {here y : Location} (h : tree.followNames onward here names = .ok y) :
    y ∈ tree.namesWay onwardWay here names := by
  induction names generalizing here with
  | nil =>
      cases h
      exact List.mem_singleton_self _
  | cons name names ih =>
      refine List.mem_cons_of_mem _ ?_
      rw [followNames] at h
      cases hhere : tree.entryAt? here with
      | none => rw [hhere] at h; cases h
      | some entry =>
          rw [hhere] at h
          cases entry with
          | file _ _ _ => cases h
          | link _ => cases h
          | directory searchable readable =>
              dsimp only at h ⊢
              by_cases hempty : name = []
              · rw [if_pos hempty] at h ⊢
                exact ih h
              rw [if_neg hempty] at h ⊢
              by_cases hclosed : searchable = false
              · rw [if_pos hclosed] at h
                cases h
              rw [if_neg hclosed] at h ⊢
              by_cases hdot : name = dot
              · rw [if_pos hdot] at h ⊢
                exact ih h
              rw [if_neg hdot] at h ⊢
              by_cases hup : name = dotDot
              · rw [if_pos hup] at h ⊢
                exact ih h
              rw [if_neg hup] at h ⊢
              by_cases hlong : maxNameBytes < (bytesOf name).length
              · rw [if_pos hlong] at h
                cases h
              rw [if_neg hlong] at h ⊢
              cases hthere : tree.entryAt? (here ++ [name]) with
              | none => rw [hthere] at h; cases h
              | some entry =>
                  rw [hthere] at h
                  cases entry with
                  | link target => exact List.mem_cons_of_mem _ (honward _ _ _ h)
                  | file _ _ _ => exact ih h
                  | directory _ _ => exact ih h

theorem mem_linksWay {links : Nat} {here y : Location} {names : List Text}
    (h : tree.follow links here names = .ok y) : y ∈ tree.linksWay links here names := by
  induction links generalizing here names y with
  | zero =>
      refine mem_namesWay (fun _ _ _ hnone => ?_) h
      cases hnone
  | succ links ih => exact mem_namesWay (fun _ _ _ h => ih h) h

theorem lookup_filter_prefix (entries : List (Location × Entry)) (l x : Location) :
    (entries.filter fun row => !l.isPrefixOf row.1).lookup x
      = if l <+: x then none else entries.lookup x := by
  induction entries with
  | nil => simp
  | cons row entries ih =>
      obtain ⟨y, entry⟩ := row
      by_cases hy : l <+: y
      · rw [List.filter_cons_of_neg (by simpa using hy), ih, List.lookup_cons]
        by_cases hx : l <+: x
        · rw [if_pos hx, if_pos hx]
        · have hne : (x == y) = false := beq_false_of_ne fun he => hx (he ▸ hy)
          rw [if_neg hx, if_neg hx, hne]
      · rw [List.filter_cons_of_pos (by simpa [← List.isPrefixOf_iff_prefix] using hy),
          List.lookup_cons, List.lookup_cons, ih]
        by_cases he : x = y
        · subst he
          rw [beq_self_eq_true]
          exact (if_neg hy).symm
        · rw [beq_false_of_ne he]

theorem entryAt?_without (hl : l ≠ []) (x : Location) :
    (tree.without l).entryAt? x = if l <+: x then none else tree.entryAt? x := by
  unfold entryAt?
  cases x with
  | nil =>
      have hx : ¬ l <+: [] := fun h => hl (List.prefix_nil.mp h)
      rw [if_neg hx]
      rfl
  | cons name x => exact lookup_filter_prefix tree.entries l (name :: x)

/-- How following comes out in what is left of the tree, by its way in the whole tree. -/
structure LeftWith (l : Location) (way : List Location)
    (whole left : Except FileFault Location) : Prop where
  clear : (∀ x ∈ way, ¬ l <+: x) → left = whole
  hit : (∃ x ∈ way, l <+: x) → left = .error .notFound ∨ ∃ y, left = .ok y ∧ l <+: y

namespace LeftWith

variable {way : List Location} {whole left : Except FileFault Location} {x : Location}

theorem stop (whole : Except FileFault Location) : LeftWith l [] whole whole :=
  ⟨fun _ => rfl, fun ⟨_, hx, _⟩ => absurd hx List.not_mem_nil⟩

theorem arrive (x : Location) : LeftWith l [x] (.ok x) (.ok x) where
  clear _ := rfl
  hit := fun ⟨_, hmem, hx⟩ => .inr ⟨x, rfl, List.mem_singleton.mp hmem ▸ hx⟩

theorem lost (hx : l <+: x) : LeftWith l (x :: way) whole (.error .notFound) where
  clear h := absurd hx (h x (List.mem_cons_self ..))
  hit _ := .inl rfl

theorem cons (hx : ¬ l <+: x) (h : LeftWith l way whole left) :
    LeftWith l (x :: way) whole left where
  clear hclear := h.clear fun y hy => hclear y (List.mem_cons_of_mem _ hy)
  hit := fun ⟨y, hy, hly⟩ => by
    rcases List.mem_cons.mp hy with rfl | hy
    · exact absurd hly hx
    · exact h.hit ⟨y, hy, hly⟩

end LeftWith

theorem exists_namesWay_eq (tree : FileTree) (onwardWay : Location → List Text → List Location)
    (here : Location) (names : List Text) :
    ∃ rest, tree.namesWay onwardWay here names = here :: rest := by
  cases names with
  | nil => exact ⟨[], rfl⟩
  | cons name names => exact ⟨_, rfl⟩

theorem followNames_without (hl : l ≠ [])
    (honward : ∀ start names,
      LeftWith l (onwardWay start names) (onward start names) (onward' start names))
    (names : List Text) (here : Location) :
    LeftWith l (tree.namesWay onwardWay here names) (tree.followNames onward here names)
      ((tree.without l).followNames onward' here names) := by
  induction names generalizing here with
  | nil => exact .arrive here
  | cons name names ih =>
      rw [followNames, followNames, namesWay, entryAt?_without hl here]
      by_cases hhere : l <+: here
      · rw [if_pos hhere]
        exact .lost hhere
      rw [if_neg hhere]
      refine .cons hhere ?_
      cases tree.entryAt? here with
      | none => exact .stop _
      | some entry =>
          cases entry with
          | file _ _ _ => exact .stop _
          | link _ => exact .stop _
          | directory searchable readable =>
              dsimp only
              by_cases hempty : name = []
              · rw [if_pos hempty, if_pos hempty, if_pos hempty]
                exact ih here
              rw [if_neg hempty, if_neg hempty, if_neg hempty]
              by_cases hclosed : searchable = false
              · rw [if_pos hclosed, if_pos hclosed, if_pos hclosed]
                exact .stop _
              rw [if_neg hclosed, if_neg hclosed, if_neg hclosed]
              by_cases hdot : name = dot
              · rw [if_pos hdot, if_pos hdot, if_pos hdot]
                exact ih here
              rw [if_neg hdot, if_neg hdot, if_neg hdot]
              by_cases hup : name = dotDot
              · rw [if_pos hup, if_pos hup, if_pos hup]
                exact ih here.dropLast
              rw [if_neg hup, if_neg hup, if_neg hup]
              by_cases hlong : maxNameBytes < (bytesOf name).length
              · rw [if_pos hlong, if_pos hlong, if_pos hlong]
                exact .stop _
              rw [if_neg hlong, if_neg hlong, if_neg hlong]
              rw [entryAt?_without hl (here ++ [name])]
              by_cases hthere : l <+: here ++ [name]
              · rw [if_pos hthere]
                cases tree.entryAt? (here ++ [name]) with
                | none => exact .lost hthere
                | some entry =>
                    obtain ⟨rest, hrest⟩ :=
                      exists_namesWay_eq tree onwardWay (here ++ [name]) names
                    cases entry with
                    | link target => exact .lost hthere
                    | file _ _ _ => exact hrest ▸ .lost hthere
                    | directory _ _ => exact hrest ▸ .lost hthere
              · rw [if_neg hthere]
                cases tree.entryAt? (here ++ [name]) with
                | none => exact .cons hthere (.stop _)
                | some entry =>
                    cases entry with
                    | link target => exact .cons hthere (honward _ _)
                    | file _ _ _ => exact ih (here ++ [name])
                    | directory _ _ => exact ih (here ++ [name])

theorem follow_without (tree : FileTree) (hl : l ≠ []) (links : Nat) (here : Location)
    (names : List Text) :
    LeftWith l (tree.linksWay links here names) (tree.follow links here names)
      ((tree.without l).follow links here names) := by
  induction links generalizing here names with
  | zero => exact followNames_without hl (fun _ _ => .stop _) names here
  | succ links ih => exact followNames_without hl ih names here

end Following

/-! ## Paths in what is left -/

section Paths

variable {tree : FileTree} {l : Location} {p : Path}

theorem locate_without (hl : l ≠ []) (p : Path) :
    LeftWith l (tree.way p) (tree.locate p) ((tree.without l).locate p) := by
  unfold way locate
  by_cases hlong : maxPathBytes < (bytesOf p.text).length
  · rw [if_pos hlong, if_pos hlong, if_pos hlong]
    exact .stop _
  · rw [if_neg hlong, if_neg hlong, if_neg hlong]
    exact follow_without tree hl ..

theorem mem_way {y : Location} (h : tree.locate p = .ok y) : y ∈ tree.way p := by
  unfold locate at h
  unfold way
  by_cases hlong : maxPathBytes < (bytesOf p.text).length
  · rw [if_pos hlong] at h
    cases h
  · rw [if_neg hlong] at h ⊢
    exact mem_linksWay h

theorem startOf_mem_way (h : ¬ maxPathBytes < (bytesOf p.text).length) :
    tree.startOf p ∈ tree.way p := by
  obtain ⟨rest, hrest⟩ :=
    exists_namesWay_eq tree (tree.linksWay (maxLinks - 1)) (tree.startOf p) p.parts
  rw [way, if_neg h]
  show _ ∈ tree.namesWay (tree.linksWay (maxLinks - 1)) (tree.startOf p) p.parts
  rw [hrest]
  exact List.mem_cons_self ..

theorem entry_of_locate_error {fault : FileFault} (h : tree.locate p = .error fault) :
    tree.entry p = .error fault := by
  rw [entry, h]
  rfl

theorem entry_of_locate {y : Location} (h : tree.locate p = .ok y) :
    tree.entry p = (tree.entryAt? y).elim (.error .notFound) .ok := by
  rw [entry, h]
  simp only [bind, Except.bind]
  cases tree.entryAt? y <;> rfl

/-- A path whose way keeps clear of what is taken out leads where it did. -/
theorem entry_without_of_clear (hl : l ≠ []) (h : ∀ x ∈ tree.way p, ¬ l <+: x) :
    (tree.without l).entry p = tree.entry p := by
  have hsame := (locate_without hl p).clear h
  cases hlocate : tree.locate p with
  | error fault =>
      rw [entry_of_locate_error (hsame.trans hlocate), entry_of_locate_error hlocate]
  | ok y =>
      rw [entry_of_locate (hsame.trans hlocate), entry_of_locate hlocate, entryAt?_without hl,
        if_neg (h y (mem_way hlocate))]

/-- A path whose way goes through what is taken out leads nowhere. -/
theorem entry_without_of_hit (hl : l ≠ []) (h : ∃ x ∈ tree.way p, l <+: x) :
    (tree.without l).entry p = .error .notFound := by
  rcases (locate_without hl p).hit h with hlost | ⟨y, hlocate, hy⟩
  · exact entry_of_locate_error hlost
  · rw [entry_of_locate hlocate, entryAt?_without hl, if_pos hy]
    rfl

theorem contains_without_of_hit (hl : l ≠ []) (h : ∃ x ∈ tree.way p, l <+: x) :
    (tree.without l).contains p = .ok false := by
  unfold contains entry?
  rw [entry_without_of_hit hl h]
  split <;> rfl

theorem leadsToUnreadable_iff {t : Text} :
    tree.leadsToUnreadable t = true ↔ (t ≠ [] ∧ ¬ maxPathBytes < (bytesOf t).length)
      ∧ ∃ there entry,
        tree.follow maxLinks (linkStart tree.workingDirectory t) (linkNames t) = .ok there
          ∧ tree.entryAt? there = some entry ∧ entry.isReadable = false := by
  unfold leadsToUnreadable
  by_cases hempty : t = []
  · simp [hempty]
  by_cases hlong : maxPathBytes < (bytesOf t).length
  · simp [hlong]
  rw [if_neg (by simp [hempty, hlong])]
  cases tree.follow maxLinks (linkStart tree.workingDirectory t) (linkNames t) with
  | error fault => simp
  | ok there => simp [hempty, hlong, Option.any_eq_true]

/-- What is left holds nothing that may not be read, unless it was there. -/
theorem leadsToUnreadable_of_without (hl : l ≠ []) {t : Text}
    (h : (tree.without l).leadsToUnreadable t) : tree.leadsToUnreadable t := by
  obtain ⟨hshort, there, entry, hfollow, hentry, hread⟩ := leadsToUnreadable_iff.mp h
  have hleft := follow_without tree hl maxLinks
    (linkStart tree.workingDirectory t) (linkNames t)
  rw [entryAt?_without hl] at hentry
  by_cases hhit : ∃ x ∈ tree.linksWay maxLinks (linkStart tree.workingDirectory t)
      (linkNames t), l <+: x
  · rcases hleft.hit hhit with hlost | ⟨y, hfollow', hy⟩
    · cases hlost.symm.trans hfollow
    · obtain rfl : y = there := Except.ok.inj (hfollow'.symm.trans hfollow)
      rw [if_pos hy] at hentry
      cases hentry
  · have hclear := fun x hx hprefix => hhit ⟨x, hx, hprefix⟩
    have hfollow' := (hleft.clear hclear).symm.trans hfollow
    rw [if_neg (hclear there (mem_linksWay hfollow'))] at hentry
    exact leadsToUnreadable_iff.mpr ⟨hshort, there, entry, hfollow', hentry, hread⟩

end Paths

end FileTree

end HostFacts
