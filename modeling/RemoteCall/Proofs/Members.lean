import RemoteCall.Members

namespace RemoteCall

variable {α β : Type}

theorem Members.lt_of_not_lt {a b : String} (below : ¬a < b) (differ : a ≠ b) : b < a :=
  Decidable.byContradiction fun above => differ (String.le_antisymm above below)

theorem Members.find?_insert (name other : String) (a : α) (members : List (String × α)) :
    Members.find? other (Members.insert name a members) =
      if name = other then some a else Members.find? other members := by
  induction members with
  | nil => rfl
  | cons entry rest ih =>
    obtain ⟨first, b⟩ := entry
    simp only [Members.insert]
    split
    · rfl
    · split
      · rename_i same
        by_cases here : name = other
        · simp only [Members.find?, here, if_true]
        · simp only [Members.find?, here, if_false, show ¬first = other from fun e => here (same.trans e)]
      · rename_i differ
        simp only [Members.find?, ih]
        by_cases here : first = other
        · simp only [here, if_true, show ¬name = other from fun e => differ (e.trans here.symm), if_false]
        · simp only [here, if_false]

theorem Members.find?_eq_none {name : String} {members : List (String × α)}
    (absent : ∀ entry ∈ members, entry.1 ≠ name) : Members.find? name members = none := by
  induction members with
  | nil => rfl
  | cons entry rest ih =>
    rw [Members.find?, if_neg (absent entry (List.mem_cons_self ..))]
    exact ih fun other member => absent other (List.mem_cons_of_mem _ member)

theorem Members.find?_eq_none_of_lt {name : String} {members : List (String × α)}
    (above : ∀ entry ∈ members, name < entry.1) : Members.find? name members = none :=
  Members.find?_eq_none fun entry member same => String.ne_of_lt (above entry member) same.symm

theorem Members.mem_of_find? {name : String} {a : α} {members : List (String × α)}
    (found : Members.find? name members = some a) : (name, a) ∈ members := by
  induction members with
  | nil => cases found
  | cons entry rest ih =>
    simp only [Members.find?] at found
    split at found
    · rename_i same
      cases found
      exact same ▸ List.mem_cons_self ..
    · exact List.mem_cons_of_mem _ (ih found)

theorem Members.mem_names_iff {name : String} {members : List (String × α)} :
    name ∈ Members.names members ↔ ∃ a, Members.find? name members = some a := by
  constructor
  · intro listed
    cases found : Members.find? name members with
    | some a => exact ⟨a, rfl⟩
    | none =>
      induction members with
      | nil => cases listed
      | cons entry rest ih =>
        rw [Members.find?] at found
        split at found
        · cases found
        · rename_i differ
          exact ih ((List.mem_cons.mp listed).resolve_left fun same => differ same.symm) found
  · rintro ⟨a, found⟩
    exact List.mem_map_of_mem (Members.mem_of_find? found)

theorem Members.mem_insert {name : String} {a : α} {members : List (String × α)} {entry : String × α}
    (member : entry ∈ Members.insert name a members) : entry = (name, a) ∨ entry ∈ members := by
  induction members with
  | nil => exact Or.inl (List.mem_singleton.mp member)
  | cons first rest ih =>
    simp only [Members.insert] at member
    split at member
    · exact List.mem_cons.mp member
    · split at member
      · exact (List.mem_cons.mp member).imp_right (List.mem_cons_of_mem _)
      · rcases List.mem_cons.mp member with rfl | later
        · exact Or.inr (List.mem_cons_self ..)
        · exact (ih later).imp_right (List.mem_cons_of_mem _)

theorem Members.mem_add {name : String} {a : α} {members : List (String × α)} {entry : String × α}
    (member : entry ∈ Members.add name a members) : entry = (name, a) ∨ entry ∈ members := by
  induction members with
  | nil => exact Or.inl (List.mem_singleton.mp member)
  | cons first rest ih =>
    simp only [Members.add] at member
    split at member
    · exact List.mem_cons.mp member
    · split at member
      · exact Or.inr member
      · rcases List.mem_cons.mp member with rfl | later
        · exact Or.inr (List.mem_cons_self ..)
        · exact (ih later).imp_right (List.mem_cons_of_mem _)

theorem Members.mem_ofList {members : List (String × α)} {entry : String × α}
    (member : entry ∈ Members.ofList members) : entry ∈ members := by
  induction members with
  | nil => exact member
  | cons first rest ih =>
    rcases Members.mem_add member with rfl | later
    · exact List.mem_cons_self ..
    · exact List.mem_cons_of_mem _ (ih later)

theorem Members.Ordered.insert {members : List (String × α)} (ordered : Members.Ordered members)
    (name : String) (a : α) : Members.Ordered (Members.insert name a members) := by
  induction members with
  | nil => exact List.pairwise_singleton _ _
  | cons entry rest ih =>
    obtain ⟨first, b⟩ := entry
    obtain ⟨above, inner⟩ := List.pairwise_cons.mp ordered
    simp only [Members.insert]
    split
    · rename_i below
      refine List.pairwise_cons.mpr ⟨fun other member => ?_, ordered⟩
      rcases List.mem_cons.mp member with rfl | later
      · exact below
      · exact String.lt_trans below (above other later)
    · rename_i notBelow
      split
      · rename_i same
        exact List.pairwise_cons.mpr ⟨fun other later => same ▸ above other later, inner⟩
      · rename_i differ
        refine List.pairwise_cons.mpr ⟨fun other member => ?_, ih inner⟩
        rcases Members.mem_insert member with rfl | later
        · exact Members.lt_of_not_lt notBelow differ
        · exact above other later

theorem Members.Ordered.add {members : List (String × α)} (ordered : Members.Ordered members)
    (name : String) (a : α) : Members.Ordered (Members.add name a members) := by
  induction members with
  | nil => exact List.pairwise_singleton _ _
  | cons entry rest ih =>
    obtain ⟨first, b⟩ := entry
    obtain ⟨above, inner⟩ := List.pairwise_cons.mp ordered
    simp only [Members.add]
    split
    · rename_i below
      refine List.pairwise_cons.mpr ⟨fun other member => ?_, ordered⟩
      rcases List.mem_cons.mp member with rfl | later
      · exact below
      · exact String.lt_trans below (above other later)
    · rename_i notBelow
      split
      · exact ordered
      · rename_i differ
        refine List.pairwise_cons.mpr ⟨fun other member => ?_, ih inner⟩
        rcases Members.mem_add member with rfl | later
        · exact Members.lt_of_not_lt notBelow differ
        · exact above other later

theorem Members.ordered_ofList (members : List (String × α)) : Members.Ordered (Members.ofList members) := by
  induction members with
  | nil => exact List.Pairwise.nil
  | cons entry rest ih => exact ih.add entry.1 entry.2

theorem Members.add_of_below {name : String} {a : α} {members : List (String × α)}
    (above : ∀ entry ∈ members, name < entry.1) : Members.add name a members = (name, a) :: members := by
  cases members with
  | nil => rfl
  | cons entry rest => rw [Members.add, if_pos (above entry (List.mem_cons_self ..))]

theorem Members.ofList_of_ordered {members : List (String × α)} (ordered : Members.Ordered members) :
    Members.ofList members = members := by
  induction members with
  | nil => rfl
  | cons entry rest ih =>
    obtain ⟨above, inner⟩ := List.pairwise_cons.mp ordered
    have step : Members.ofList (entry :: rest) = Members.add entry.1 entry.2 (Members.ofList rest) := rfl
    rw [step, ih inner, Members.add_of_below above]

theorem Members.ordered_map {f : α → β} {members : List (String × α)} :
    Members.Ordered (members.map fun entry => (entry.1, f entry.2)) ↔ Members.Ordered members :=
  List.pairwise_map

/-- In an ordered list, an entry that was there under the name keeps its place before the new one. -/
theorem Members.find?_add {name other : String} {a : α} {members : List (String × α)}
    (ordered : Members.Ordered members) :
    Members.find? other (Members.add name a members) =
      if name = other then some ((Members.find? name members).getD a) else Members.find? other members := by
  induction members with
  | nil => rfl
  | cons entry rest ih =>
    obtain ⟨first, b⟩ := entry
    obtain ⟨above, inner⟩ := List.pairwise_cons.mp ordered
    simp only [Members.add]
    split
    · rename_i below
      have absent : Members.find? name ((first, b) :: rest) = none := by
        refine Members.find?_eq_none_of_lt fun entry member => ?_
        rcases List.mem_cons.mp member with rfl | later
        · exact below
        · exact String.lt_trans below (above entry later)
      rw [absent, Option.getD_none]
      rfl
    · split
      · rename_i same
        by_cases here : name = other
        · simp only [Members.find?, ← same, here, if_true, Option.getD_some]
        · simp only [here, if_false]
      · rename_i differ
        by_cases here : name = other
        · subst here
          have elsewhere : ¬first = name := fun e => differ e.symm
          simp only [Members.find?, elsewhere, if_false, ih inner, if_true]
        · simp only [Members.find?, ih inner, here, if_false]

/-- An ordered list is known by what it holds under each name. -/
theorem Members.Ordered.ext {xs ys : List (String × α)} (left : Members.Ordered xs) (right : Members.Ordered ys)
    (same : ∀ name, Members.find? name xs = Members.find? name ys) : xs = ys := by
  induction xs generalizing ys with
  | nil =>
    cases ys with
    | nil => rfl
    | cons entry rest => simpa [Members.find?] using same entry.1
  | cons x xs ih =>
    obtain ⟨name, a⟩ := x
    obtain ⟨aboveX, innerX⟩ := List.pairwise_cons.mp left
    cases ys with
    | nil => simpa [Members.find?] using same name
    | cons y ys =>
      obtain ⟨other, b⟩ := y
      obtain ⟨aboveY, innerY⟩ := List.pairwise_cons.mp right
      -- the least name of each list is a name of the other list
      have names : name = other := by
        have atName := same name
        have atOther := same other
        simp only [Members.find?, if_true] at atName atOther
        by_cases equal : name = other
        · exact equal
        · rw [if_neg fun e => equal e.symm] at atName
          rw [if_neg equal] at atOther
          have below := aboveY _ (Members.mem_of_find? atName.symm)
          have above := aboveX _ (Members.mem_of_find? atOther)
          exact absurd below (String.lt_asymm above)
      subst names
      have values : a = b := by simpa [Members.find?] using same name
      have rest : xs = ys := by
        refine ih innerX innerY fun third => ?_
        have at_third := same third
        simp only [Members.find?] at at_third
        by_cases here : name = third
        · subst here
          rw [Members.find?_eq_none_of_lt aboveX, Members.find?_eq_none_of_lt aboveY]
        · simpa only [here, if_false] using at_third
      rw [values, rest]

/-- Where no name occurs twice, each entry is found under its name. -/
theorem Members.find?_ofList_eq_some_iff {members : List (String × α)} (distinct : (Members.names members).Nodup)
    {name : String} {a : α} : Members.find? name (Members.ofList members) = some a ↔ (name, a) ∈ members := by
  induction members with
  | nil => exact iff_of_false nofun nofun
  | cons entry rest ih =>
    obtain ⟨first, b⟩ := entry
    obtain ⟨fresh, others⟩ := List.nodup_cons.mp distinct
    have elsewhere (c : α) : (first, c) ∉ rest := fun member => fresh (List.mem_map.mpr ⟨_, member, rfl⟩)
    have step : Members.ofList ((first, b) :: rest) = Members.add first b (Members.ofList rest) := rfl
    rw [step, Members.find?_add (Members.ordered_ofList rest)]
    by_cases here : first = name
    · subst here
      have absent : Members.find? first (Members.ofList rest) = none :=
        Members.find?_eq_none fun other member same => elsewhere other.2 (same ▸ Members.mem_ofList member)
      rw [if_pos rfl, absent, Option.getD_none, Option.some.injEq, List.mem_cons, Prod.mk.injEq]
      exact ⟨fun same => Or.inl ⟨rfl, same.symm⟩, fun member => (member.resolve_right (elsewhere a)).2.symm⟩
    · rw [if_neg here, ih others, List.mem_cons, Prod.mk.injEq]
      exact ⟨Or.inr, fun member => member.resolve_left fun same => here same.1.symm⟩

/-- The order of entries does not matter where no name occurs twice. -/
theorem Members.ofList_perm {xs ys : List (String × α)} (perm : xs.Perm ys) (distinct : (Members.names xs).Nodup) :
    Members.ofList xs = Members.ofList ys := by
  have distinct' : (Members.names ys).Nodup := (perm.map Prod.fst).nodup_iff.mp distinct
  refine (Members.ordered_ofList xs).ext (Members.ordered_ofList ys) fun name => Option.ext fun a => ?_
  rw [Members.find?_ofList_eq_some_iff distinct, Members.find?_ofList_eq_some_iff distinct', perm.mem_iff]

theorem Members.Ordered.distinct {members : List (String × α)} (ordered : Members.Ordered members) :
    (Members.names members).Nodup :=
  List.pairwise_map.mpr (ordered.imp String.ne_of_lt)

theorem Members.Ordered.find?_eq_some_iff {members : List (String × α)} (ordered : Members.Ordered members)
    {name : String} {a : α} : Members.find? name members = some a ↔ (name, a) ∈ members := by
  rw [← Members.find?_ofList_eq_some_iff ordered.distinct, Members.ofList_of_ordered ordered]

/-- One more entry at the end replaces what was there under its name. -/
theorem Members.ofList_append_singleton (members : List (String × α)) (name : String) (a : α) :
    Members.ofList (members ++ [(name, a)]) = Members.insert name a (Members.ofList members) := by
  refine (Members.ordered_ofList _).ext ((Members.ordered_ofList members).insert name a) fun other => ?_
  rw [Members.find?_insert]
  induction members generalizing other with
  | nil => rfl
  | cons entry rest ih =>
    have longer : Members.ofList (entry :: rest ++ [(name, a)]) =
      Members.add entry.1 entry.2 (Members.ofList (rest ++ [(name, a)])) := rfl
    have shorter : Members.ofList (entry :: rest) = Members.add entry.1 entry.2 (Members.ofList rest) := rfl
    rw [longer, shorter, Members.find?_add (Members.ordered_ofList _), Members.find?_add (Members.ordered_ofList _),
      ih, ih]
    by_cases here : entry.1 = other
    · subst here
      by_cases last : name = entry.1
      · simp only [last, if_true, Option.getD_some]
      · simp only [last, if_true, if_false]
    · simp only [here, if_false]

theorem Members.mem_erase {name : String} {members : List (String × α)} {entry : String × α}
    (member : entry ∈ Members.erase name members) : entry ∈ members := by
  induction members with
  | nil => exact member
  | cons first rest ih =>
    simp only [Members.erase] at member
    split at member
    · exact List.mem_cons_of_mem _ member
    · rcases List.mem_cons.mp member with rfl | later
      · exact List.mem_cons_self ..
      · exact List.mem_cons_of_mem _ (ih later)

theorem Members.Ordered.erase {members : List (String × α)} (ordered : Members.Ordered members) (name : String) :
    Members.Ordered (Members.erase name members) := by
  induction members with
  | nil => exact ordered
  | cons first rest ih =>
    obtain ⟨above, inner⟩ := List.pairwise_cons.mp ordered
    simp only [Members.erase]
    split
    · exact inner
    · exact List.pairwise_cons.mpr ⟨fun entry member => above entry (Members.mem_erase member), ih inner⟩

theorem Members.find?_erase {members : List (String × α)} (ordered : Members.Ordered members) (name other : String) :
    Members.find? other (Members.erase name members) =
      if name = other then none else Members.find? other members := by
  induction members with
  | nil =>
    split <;> rfl
  | cons entry rest ih =>
    obtain ⟨first, a⟩ := entry
    obtain ⟨above, inner⟩ := List.pairwise_cons.mp ordered
    simp only [Members.erase, Members.find?]
    by_cases here : first = name
    · subst here
      rw [if_pos rfl]
      by_cases same : first = other
      · subst same
        rw [if_pos rfl, Members.find?_eq_none_of_lt above]
      · rw [if_neg same, if_neg same]
    · rw [if_neg here, Members.find?, ih inner]
      by_cases same : first = other
      · subst same
        rw [if_pos rfl, if_neg (fun e => here e.symm), if_pos rfl]
      · rw [if_neg same, if_neg same]

/-- There is nothing to erase under a name that is not there. -/
theorem Members.erase_of_missing {name : String} {members : List (String × α)}
    (missing : Members.find? name members = none) : Members.erase name members = members := by
  induction members with
  | nil => rfl
  | cons entry rest ih =>
    rw [Members.find?] at missing
    split at missing
    · cases missing
    · rename_i differ
      rw [Members.erase, if_neg differ, ih missing]

theorem Members.find?_map (name : String) (f : α → β) (members : List (String × α)) :
    Members.find? name (members.map fun entry => (entry.1, f entry.2)) = (Members.find? name members).map f := by
  induction members with
  | nil => rfl
  | cons entry rest ih =>
    rw [List.map_cons, Members.find?, Members.find?]
    by_cases here : entry.1 = name
    · rw [if_pos here, if_pos here, Option.map_some]
    · rw [if_neg here, if_neg here, ih]

/-- Each name is there once, so an entry that is left out leaves no other one under its name. -/
theorem Members.find?_filter {members : List (String × α)} (ordered : Members.Ordered members) (name : String)
    (p : α → Bool) :
    Members.find? name (members.filter fun entry => p entry.2) = (Members.find? name members).filter p := by
  induction members with
  | nil => rfl
  | cons entry rest ih =>
    obtain ⟨above, inner⟩ := List.pairwise_cons.mp ordered
    rw [Members.find?, List.filter_cons]
    by_cases here : entry.1 = name
    · have once : Members.find? name rest = none := Members.find?_eq_none_of_lt (here ▸ above)
      rw [if_pos here, Option.filter_some]
      split
      · rw [Members.find?, if_pos here]
      · rw [ih inner, once, Option.filter_none]
    · rw [if_neg here]
      split
      · rw [Members.find?, if_neg here, ih inner]
      · exact ih inner

end RemoteCall
