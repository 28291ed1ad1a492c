import Mathlib.Data.List.Nodup
import Mathlib.Data.List.Induction
import HostFacts.Dictionary

/-!
# Dictionaries made of pairs

The names of a dictionary that was put together are all different
(`nodup_ofPairs`), each with the value that came last (`get?_ofPairs`), and
pairs of different names are a dictionary as they stand
(`ofPairs_eq_self`). Where names are different the order does not matter to a
lookup (`get?_perm`). Pairs behind other pairs overwrite them
(`ofPairs_append`).
-/

namespace HostFacts

namespace Dictionary

variable {α : Type}

/-! ## One pair more -/

theorem put_of_notMem {d : Dictionary α} {name : Text} (h : name ∉ d.map Prod.fst) (value : α) :
    put name value d = d ++ [(name, value)] := by
  induction d with
  | nil => rfl
  | cons pair d ih =>
      obtain ⟨key, v⟩ := pair
      rw [List.map_cons, List.mem_cons, not_or] at h
      rw [put, if_neg (Ne.symm h.1), ih h.2]
      rfl

theorem names_put_of_mem {d : Dictionary α} {name : Text} (h : name ∈ d.map Prod.fst)
    (value : α) : (put name value d).map Prod.fst = d.map Prod.fst := by
  induction d with
  | nil => cases h
  | cons pair d ih =>
      obtain ⟨key, v⟩ := pair
      by_cases hk : key = name
      · rw [put, if_pos hk, List.map_cons, List.map_cons, hk]
      · have hmem : name ∈ d.map Prod.fst := by
          rcases List.mem_cons.mp h with rfl | hmem
          · exact absurd rfl hk
          · exact hmem
        rw [put, if_neg hk, List.map_cons, List.map_cons, ih hmem]

theorem mem_names_put (d : Dictionary α) (name : Text) (value : α) :
    name ∈ (put name value d).map Prod.fst := by
  by_cases h : name ∈ d.map Prod.fst
  · rwa [names_put_of_mem h]
  · rw [put_of_notMem h, List.map_append]
    exact List.mem_append_right _ (List.mem_singleton.mpr rfl)

theorem nodup_put {d : Dictionary α} (h : (d.map Prod.fst).Nodup) (name : Text) (value : α) :
    ((put name value d).map Prod.fst).Nodup := by
  by_cases hmem : name ∈ d.map Prod.fst
  · rw [names_put_of_mem hmem]
    exact h
  · rw [put_of_notMem hmem, List.map_append, List.map_singleton]
    exact List.nodup_append_comm.mp (List.nodup_cons.mpr ⟨hmem, h⟩)

/-- Of two values put under a name the second counts. -/
theorem put_put (d : Dictionary α) (name : Text) (value value' : α) :
    put name value (put name value' d) = put name value d := by
  induction d with
  | nil => simp [put]
  | cons pair d ih =>
      obtain ⟨key, v⟩ := pair
      by_cases hk : key = name
      · simp [put, hk]
      · simp [put, hk, ih]

theorem mem_put {d : Dictionary α} {name : Text} {value : α} {pair : Text × α}
    (h : pair ∈ put name value d) : pair = (name, value) ∨ pair ∈ d := by
  induction d with
  | nil => exact .inl (List.mem_singleton.mp h)
  | cons head d ih =>
      obtain ⟨key, v⟩ := head
      rw [put] at h
      split at h
      · rcases List.mem_cons.mp h with rfl | hd
        · exact .inl rfl
        · exact .inr (List.mem_cons_of_mem _ hd)
      · rcases List.mem_cons.mp h with rfl | hd
        · exact .inr (List.mem_cons_self ..)
        · exact (ih hd).imp id (List.mem_cons_of_mem _)

theorem mem_of_get?_eq_some {d : Dictionary α} {name : Text} {value : α}
    (h : get? d name = some value) : (name, value) ∈ d := by
  induction d with
  | nil => cases h
  | cons pair d ih =>
      obtain ⟨key, v⟩ := pair
      rw [get?_cons] at h
      split at h
      · rename_i hk
        cases h
        rw [hk]
        exact List.mem_cons_self ..
      · exact List.mem_cons_of_mem _ (ih h)

/-- A value that is there already changes nothing. -/
theorem put_of_get? {d : Dictionary α} {name : Text} {value : α} (h : get? d name = some value) :
    put name value d = d := by
  induction d with
  | nil => cases h
  | cons pair d ih =>
      obtain ⟨key, v⟩ := pair
      rw [get?_cons] at h
      by_cases hk : key = name
      · subst hk
        rw [if_pos rfl] at h
        rw [put, if_pos rfl, Option.some.inj h]
      · rw [if_neg (Ne.symm hk)] at h
        rw [put, if_neg hk, ih h]

/-! ## All pairs -/

theorem ofPairs_concat (pairs : List (Text × α)) (name : Text) (value : α) :
    ofPairs (pairs ++ [(name, value)]) = put name value (ofPairs pairs) := by
  simp [ofPairs, List.foldl_append]

theorem nodup_ofPairs (pairs : List (Text × α)) : ((ofPairs pairs).map Prod.fst).Nodup := by
  induction pairs using List.reverseRecOn with
  | nil => exact List.nodup_nil
  | append_singleton pairs pair ih =>
      rw [ofPairs_concat]
      exact nodup_put ih _ _

theorem mem_of_mem_ofPairs {pairs : List (Text × α)} {pair : Text × α}
    (h : pair ∈ ofPairs pairs) : pair ∈ pairs := by
  induction pairs using List.reverseRecOn with
  | nil => exact h
  | append_singleton pairs last ih =>
      rw [ofPairs_concat] at h
      rcases mem_put h with rfl | hmem
      · exact List.mem_append_right _ (List.mem_singleton.mpr rfl)
      · exact List.mem_append_left _ (ih hmem)

theorem ofPairs_eq_self {pairs : List (Text × α)} (h : (pairs.map Prod.fst).Nodup) :
    ofPairs pairs = pairs := by
  induction pairs using List.reverseRecOn with
  | nil => rfl
  | append_singleton pairs pair ih =>
      rw [List.map_append, List.map_singleton] at h
      obtain ⟨hnot, hnodup⟩ := List.nodup_cons.mp (List.nodup_append_comm.mp h)
      rw [ofPairs_concat, ih hnodup, put_of_notMem hnot]

/-- The last pair of a name counts. -/
theorem get?_ofPairs (pairs : List (Text × α)) (name : Text) :
    get? (ofPairs pairs) name = get? pairs.reverse name := by
  induction pairs using List.reverseRecOn with
  | nil => rfl
  | append_singleton pairs pair ih =>
      rw [ofPairs_concat, get?_put, List.reverse_append, List.reverse_singleton,
        List.singleton_append, get?_cons, ih]

/-! ## Different names -/

theorem get?_eq_some_iff {d : Dictionary α} (h : (d.map Prod.fst).Nodup) {name : Text}
    {value : α} : get? d name = some value ↔ (name, value) ∈ d := by
  induction d with
  | nil => simp
  | cons pair d ih =>
      obtain ⟨key, v⟩ := pair
      obtain ⟨hnot, hnodup⟩ := List.nodup_cons.mp h
      rw [get?_cons, List.mem_cons]
      by_cases hk : name = key
      · subst hk
        have hno : (name, value) ∉ d := fun hmem =>
          hnot (List.mem_map.mpr ⟨(name, value), hmem, rfl⟩)
        simp [hno, eq_comm]
      · simp [hk, ih hnodup]

theorem get?_perm {d e : Dictionary α} (h : (d.map Prod.fst).Nodup) (hp : e.Perm d)
    (name : Text) : get? e name = get? d name := by
  have he : (e.map Prod.fst).Nodup := (hp.map Prod.fst).nodup_iff.mpr h
  refine Option.ext fun value => ?_
  rw [get?_eq_some_iff he, get?_eq_some_iff h, hp.mem_iff]

/-! ## Lookups -/

theorem get?_append (d e : Dictionary α) (name : Text) :
    get? (d ++ e) name = (get? d name <|> get? e name) := by
  induction d with
  | nil => rfl
  | cons pair d ih =>
      obtain ⟨key, v⟩ := pair
      rw [List.cons_append, get?_cons, get?_cons, ih]
      split <;> rfl

theorem get?_map {β : Type} (f : α → β) (d : Dictionary α) (name : Text) :
    get? (d.map fun pair => (pair.1, f pair.2)) name = (get? d name).map f := by
  induction d with
  | nil => rfl
  | cons pair d ih =>
      obtain ⟨key, v⟩ := pair
      rw [List.map_cons, get?_cons, get?_cons, ih]
      split <;> rfl

theorem isSome_get?_iff (d : Dictionary α) (name : Text) :
    (get? d name).isSome ↔ name ∈ d.map Prod.fst := by
  induction d with
  | nil => simp
  | cons pair d ih =>
      obtain ⟨key, v⟩ := pair
      rw [get?_cons, List.map_cons, List.mem_cons, ← ih]
      by_cases h : name = key <;> simp [h]

/-! ## Overwriting -/

/-- The values of `e` put into `d`, one after another. -/
def overwrite (d e : Dictionary α) : Dictionary α :=
  e.foldl (fun d (name, value) => put name value d) d

theorem overwrite_cons (d : Dictionary α) (name : Text) (value : α) (e : Dictionary α) :
    d.overwrite ((name, value) :: e) = (put name value d).overwrite e := rfl

/-- A name that has a place already may be given its value before another or after it. -/
theorem put_comm {d : Dictionary α} {name other : Text} (hd : name ∈ d.map Prod.fst)
    (hne : name ≠ other) (value value' : α) :
    put name value (put other value' d) = put other value' (put name value d) := by
  induction d with
  | nil => cases hd
  | cons pair d ih =>
      obtain ⟨key, v⟩ := pair
      by_cases hk : key = name
      · simp [put, hk, hne]
      · have hmem : name ∈ d.map Prod.fst := (List.mem_cons.mp hd).resolve_left (Ne.symm hk)
        by_cases hk' : key = other
        · simp [put, hk', Ne.symm hne]
        · simp [put, hk, hk', ih hmem]

theorem put_overwrite {d e : Dictionary α} {name : Text} (hd : name ∈ d.map Prod.fst)
    (he : name ∉ e.map Prod.fst) (value : α) :
    put name value (d.overwrite e) = (put name value d).overwrite e := by
  induction e generalizing d with
  | nil => rfl
  | cons pair e ih =>
      obtain ⟨key, v⟩ := pair
      rw [List.map_cons, List.mem_cons, not_or] at he
      have hput : name ∈ (put key v d).map Prod.fst := by
        by_cases hk : key ∈ d.map Prod.fst
        · rwa [names_put_of_mem hk]
        · rw [put_of_notMem hk, List.map_append]
          exact List.mem_append_left _ hd
      rw [overwrite_cons, overwrite_cons, ih hput he.2, put_comm hd he.1]

theorem overwrite_put {e : Dictionary α} (he : (e.map Prod.fst).Nodup) (d : Dictionary α)
    (name : Text) (value : α) :
    d.overwrite (put name value e) = put name value (d.overwrite e) := by
  induction e generalizing d with
  | nil => rfl
  | cons pair e ih =>
      obtain ⟨key, v⟩ := pair
      obtain ⟨hnot, hnodup⟩ := List.nodup_cons.mp he
      by_cases hk : key = name
      · subst hk
        rw [put, if_pos rfl, overwrite_cons, overwrite_cons,
          put_overwrite (mem_names_put d key v) hnot, put_put]
      · rw [put, if_neg hk, overwrite_cons, overwrite_cons, ih hnodup]

theorem ofPairs_append (pairs others : List (Text × α)) :
    ofPairs (pairs ++ others) = (ofPairs pairs).overwrite (ofPairs others) := by
  induction others using List.reverseRecOn with
  | nil => rw [List.append_nil]; rfl
  | append_singleton others pair ih =>
      obtain ⟨name, value⟩ := pair
      rw [← List.append_assoc, ofPairs_concat, ofPairs_concat, ih,
        overwrite_put (nodup_ofPairs others)]

theorem get?_overwrite {e : Dictionary α} (he : (e.map Prod.fst).Nodup) (d : Dictionary α)
    (name : Text) : get? (d.overwrite e) name = (get? e name).or (get? d name) := by
  induction e generalizing d with
  | nil => rfl
  | cons pair e ih =>
      obtain ⟨key, v⟩ := pair
      obtain ⟨hnot, hnodup⟩ := List.nodup_cons.mp he
      rw [overwrite_cons, ih hnodup, get?_put, get?_cons]
      by_cases hk : name = key
      · subst hk
        have hnone : get? e name = none := Option.eq_none_iff_forall_ne_some.mpr fun value hsome =>
          hnot (List.mem_map.mpr ⟨_, mem_of_get?_eq_some hsome, rfl⟩)
        simp [hnone]
      · simp [hk]

/-- New names come behind the others. -/
theorem overwrite_of_disjoint {d e : Dictionary α} (he : (e.map Prod.fst).Nodup)
    (h : (d.map Prod.fst).Disjoint (e.map Prod.fst)) : d.overwrite e = d ++ e := by
  induction e generalizing d with
  | nil => exact (List.append_nil d).symm
  | cons pair e ih =>
      obtain ⟨key, v⟩ := pair
      obtain ⟨hnot, hnodup⟩ := List.nodup_cons.mp he
      obtain ⟨hkey, hrest⟩ := List.disjoint_cons_right.mp h
      have hnext : ((d ++ [(key, v)]).map Prod.fst).Disjoint (e.map Prod.fst) := by
        rw [List.map_append, List.disjoint_append_left]
        exact ⟨hrest, List.disjoint_cons_left.mpr ⟨hnot, List.disjoint_nil_left _⟩⟩
      rw [overwrite_cons, put_of_notMem hkey, ih hnodup hnext, List.append_assoc,
        List.singleton_append]

/-! ## Pairs of items -/

/-- Items with names of their own are put in once, where they come first. -/
theorem ofPairs_map {β : Type} [BEq β] [LawfulBEq β] {name : β → Text}
    (hname : Function.Injective name) (value : β → α) (items : List β) :
    ofPairs (items.map fun item => (name item, value item))
      = items.eraseDups.map fun item => (name item, value item) := by
  induction items using List.reverseRecOn with
  | nil => rfl
  | append_singleton items item ih =>
      rw [List.map_append, List.map_singleton, ofPairs_concat, ih, List.eraseDups_append]
      by_cases hmem : item ∈ items
      · have hnone : [item].removeAll items = [] := by simp [List.removeAll, hmem]
        rw [hnone, List.eraseDups_nil, List.append_nil]
        refine put_of_get? ((get?_eq_some_iff ?_).mpr ?_)
        · rw [← ih]
          exact nodup_ofPairs _
        · exact List.mem_map.mpr ⟨item, List.mem_eraseDups.mpr hmem, rfl⟩
      · have hone : [item].removeAll items = [item] := by simp [List.removeAll, hmem]
        rw [hone, List.eraseDups_cons, List.filter_nil, List.eraseDups_nil,
          List.map_append, List.map_singleton]
        refine put_of_notMem (fun hin => hmem ?_) _
        rw [List.map_map] at hin
        obtain ⟨other, hother, heq⟩ := List.mem_map.mp hin
        exact List.mem_eraseDups.mp (hname heq ▸ hother)

theorem get?_filterMap {β : Type} (f : β → Option (Text × α)) (items : List β) (name : Text) :
    get? (items.filterMap f) name = items.findSome? fun item =>
      (f item).bind fun pair => if pair.1 = name then some pair.2 else none := by
  induction items with
  | nil => rfl
  | cons item items ih =>
      rw [List.findSome?_cons, List.filterMap_cons]
      cases hf : f item with
      | none => exact ih
      | some pair =>
          obtain ⟨key, v⟩ := pair
          by_cases hk : key = name
          · simp [get?_cons, hk]
          · simp [get?_cons, hk, Ne.symm hk, ih]

/-- A name has the value that the last item with a value for it has. -/
theorem get?_ofPairs_filterMap_eq_some_iff {β : Type} {f : β → Option (Text × α)}
    {items : List β} {name : Text} {value : α} :
    get? (ofPairs (items.filterMap f)) name = some value
      ↔ ∃ before item after, items = before ++ item :: after ∧ f item = some (name, value)
        ∧ ∀ later ∈ after, ∀ other, f later ≠ some (name, other) := by
  have hvalue : ∀ item v, ((f item).bind fun pair => if pair.1 = name then some pair.2 else none)
      = some v ↔ f item = some (name, v) := by
    intro item v
    simp only [Option.bind_eq_some_iff, ite_eq_iff, reduceCtorEq, and_false, or_false,
      Option.some.injEq]
    constructor
    · rintro ⟨pair, hf, rfl, rfl⟩
      exact hf
    · intro hf
      exact ⟨_, hf, rfl, rfl⟩
  rw [get?_ofPairs, ← List.filterMap_reverse, get?_filterMap, List.findSome?_eq_some_iff]
  simp only [hvalue, Option.eq_none_iff_forall_ne_some, ne_eq]
  constructor
  · rintro ⟨after, item, before, hitems, hitem, hafter⟩
    refine ⟨before.reverse, item, after.reverse, ?_, hitem, fun later hlater =>
      hafter later (List.mem_reverse.mp hlater)⟩
    rw [List.reverse_eq_iff.mp hitems, List.reverse_append, List.reverse_cons, List.append_assoc,
      List.singleton_append]
  · rintro ⟨before, item, after, rfl, hitem, hafter⟩
    refine ⟨after.reverse, item, before.reverse, ?_, hitem, fun later hlater =>
      hafter later (List.mem_reverse.mp hlater)⟩
    rw [List.reverse_append, List.reverse_cons, List.append_assoc, List.singleton_append]

end Dictionary

end HostFacts
