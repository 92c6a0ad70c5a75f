import RemoteCall.Proofs.Json.Coding

namespace RemoteCall

section

variable {item : List Char → Option (Json × List Char)} {P : Json → Prop}

/-- What holds of each item that is read holds of all items of an array. -/
theorem Json.itemsFrom_forall (each : ∀ cs j rest, item cs = some (j, rest) → P j) {count : Nat}
    {done items : List Json} {cs rest : List Char} (before : ∀ j ∈ done, P j)
    (read : Json.itemsFrom item count done cs = some (items, rest)) : ∀ j ∈ items, P j := by
  induction count generalizing done cs with
  | zero =>
    rw [Json.itemsFrom] at read
    cases read
  | succ count ih =>
    rw [Json.itemsFrom] at read
    split at read
    · cases read
    · rename_i j more first
      have longer : ∀ k ∈ j :: done, P k :=
        List.forall_mem_cons.mpr ⟨each _ _ _ first, before⟩
      split at read
      · exact ih longer read
      · cases read
        exact fun k member => longer k (List.mem_reverse.mp member)
      · cases read

theorem Json.member?_eq_some {cs rest : List Char} {entry : String × Json}
    (read : Json.member? item cs = some (entry, rest)) : ∃ more, item more = some (entry.2, rest) := by
  unfold Json.member? at read
  split at read
  · cases read
  · split at read
    · obtain ⟨_, value, same⟩ := Option.map_eq_some_iff.mp read
      cases same
      exact ⟨_, value⟩
    · cases read

/-- What holds of each value that is read holds of all members of an object. -/
theorem Json.membersFrom_forall (each : ∀ cs j rest, item cs = some (j, rest) → P j) {count : Nat}
    {done members : List (String × Json)} {cs rest : List Char} (before : ∀ entry ∈ done, P entry.2)
    (read : Json.membersFrom item count done cs = some (members, rest)) : ∀ entry ∈ members, P entry.2 := by
  induction count generalizing done cs with
  | zero =>
    rw [Json.membersFrom] at read
    cases read
  | succ count ih =>
    rw [Json.membersFrom] at read
    split at read
    · cases read
    · rename_i entry more first
      obtain ⟨inside, value⟩ := Json.member?_eq_some first
      have longer : ∀ other ∈ entry :: done, P other.2 :=
        List.forall_mem_cons.mpr ⟨each _ _ _ value, before⟩
      split at read
      · exact ih longer read
      · cases read
        exact fun other member => longer other (List.mem_reverse.mp member)
      · cases read

end

/-- What is read at a depth has the members of its objects in order, and its containers nest no deeper. -/
def Json.Within (depth : Nat) (j : Json) : Prop :=
  j.toValue.Ordered ∧ j.toValue.depth ≤ depth

theorem Json.within_atom {depth : Nat} {j : Json} {a : Atom} (same : j.toValue = .atom a) : j.Within depth := by
  rw [Json.Within, same]
  exact ⟨trivial, Nat.zero_le _⟩

theorem Json.within_array {depth : Nat} {items : List Json} (parts : ∀ j ∈ items, j.Within depth) :
    (Json.array items).Within (depth + 1) := by
  rw [Json.Within, Json.toValue, Json.toValues_eq_map, Value.ordered_array_iff, Value.depth]
  constructor
  · intro v member
    obtain ⟨j, inside, rfl⟩ := List.mem_map.mp member
    exact (parts j inside).1
  · refine Nat.succ_le_succ (Value.depthOfItems_le.mpr fun v member => ?_)
    obtain ⟨j, inside, rfl⟩ := List.mem_map.mp member
    exact (parts j inside).2

theorem Json.within_object {depth : Nat} {members : List (String × Json)}
    (parts : ∀ entry ∈ members, entry.2.Within depth) :
    (Json.object (Members.ofList members)).Within (depth + 1) := by
  have kept : ∀ entry ∈ Members.ofList members, entry.2.Within depth := fun entry member =>
    parts entry (Members.mem_ofList member)
  rw [Json.Within, Json.toValue, Json.toMembers_eq_map, Value.ordered_struct_iff, Value.depth]
  refine ⟨⟨Members.ordered_map.mpr (Members.ordered_ofList members), fun entry member => ?_⟩,
    Nat.succ_le_succ (Value.depthOfMembers_le.mpr fun entry member => ?_)⟩
  · obtain ⟨source, inside, rfl⟩ := List.mem_map.mp member
    exact (kept source inside).1
  · obtain ⟨source, inside, rfl⟩ := List.mem_map.mp member
    exact (kept source inside).2

theorem Json.word?_eq_some {word cs rest : List Char} {j k : Json} (read : Json.word? word j cs = some (k, rest)) :
    k = j := by
  unfold Json.word? at read
  split at read
  · cases read
    rfl
  · cases read

/-- The reader of one value reads the parts of containers one level down. -/
theorem Json.within_of_valueFrom {width depth : Nat} {cs rest : List Char} {j : Json}
    (read : Json.valueFrom width depth cs = some (j, rest)) : j.Within depth := by
  induction depth using Nat.strongRecOn generalizing cs rest j with
  | ind depth ih =>
    unfold Json.valueFrom at read
    split at read
    · cases read
    · obtain ⟨_, _, same⟩ := Option.map_eq_some_iff.mp read
      cases same
      exact Json.within_atom rfl
    · split at read
      · cases read
      · rename_i depth
        have each : ∀ cs j rest, Json.valueFrom width depth cs = some (j, rest) → j.Within depth :=
          fun cs j rest inner => ih depth (Nat.lt_succ_self _) inner
        split at read
        · cases read
          exact Json.within_array (List.forall_mem_nil _)
        · obtain ⟨_, items, same⟩ := Option.map_eq_some_iff.mp read
          cases same
          exact Json.within_array (Json.itemsFrom_forall each (List.forall_mem_nil _) items)
    · split at read
      · cases read
      · rename_i depth
        have each : ∀ cs j rest, Json.valueFrom width depth cs = some (j, rest) → j.Within depth :=
          fun cs j rest inner => ih depth (Nat.lt_succ_self _) inner
        split at read
        · cases read
          have empty : ∀ entry ∈ ([] : List (String × Json)), entry.2.Within depth := List.forall_mem_nil _
          exact Json.within_object empty
        · obtain ⟨_, members, same⟩ := Option.map_eq_some_iff.mp read
          cases same
          exact Json.within_object (Json.membersFrom_forall each (List.forall_mem_nil _) members)
    · rw [Json.word?_eq_some read]
      exact Json.within_atom rfl
    · rw [Json.word?_eq_some read]
      exact Json.within_atom rfl
    · rw [Json.word?_eq_some read]
      exact Json.within_atom rfl
    · split at read
      · cases read
      · obtain ⟨_, _, same⟩ := Option.map_eq_some_iff.mp read
        cases same
        exact Json.within_atom rfl

/-- A document that is read is within the limit, with the members of its objects in order. -/
theorem Json.within_of_parse? {cs : List Char} {j : Json} (read : Json.parse? cs = some j) :
    j.Within Json.maxDepth := by
  unfold Json.parse? at read
  split at read
  · cases read
  · rename_i whole
    split at read
    · cases read
      exact Json.within_of_valueFrom whole
    · cases read

theorem Digits.toInt_of_fit64? {n : Int} {word : Int64} (fits : fit64? n = some word) : word.toInt = n := by
  unfold fit64? at fits
  split at fits
  · rename_i bounds
    cases fits
    exact Int64.toInt_ofInt_of_le bounds.1 (by omega)
  · cases fits

/-- The atoms that a document in JSON can hold: no bytes, 64-bit numbers only where 32 bits are too few, date/times that
show all of themselves, and no string that is the text of a date/time. -/
def Atom.JsonNative : Atom → Prop
  | .base64 _ => False
  | .int64 n => ¬(-2147483648 ≤ n.toInt ∧ n.toInt ≤ 2147483647)
  | .dateTime t => t.shown = t
  | .string s => ¬(trim s = s ∧ (DateTime.ofText? s.toList).isSome = true)
  | _ => True

theorem Json.Number.native_toAtom (n : Json.Number) : n.toAtom.JsonNative := by
  cases n with
  | double x => trivial
  | whole n =>
    rw [Json.Number.toAtom]
    cases narrow : Digits.fit32? n with
    | some word => trivial
    | none =>
      cases fits : Digits.fit64? n with
      | some word =>
        have wide := Digits.fit32?_eq_none_iff.mp narrow
        rwa [← Digits.toInt_of_fit64? fits] at wide
      | none => trivial

theorem Atom.native_ofText (s : String) : (Atom.ofText s).JsonNative := by
  by_cases kept : Atom.ofText s = .string s
  · rw [kept]
    exact Atom.ofText_eq_string_iff.mp kept
  · obtain ⟨bare, shown⟩ := Decidable.not_not.mp fun plain => kept (Atom.ofText_eq_string_iff.mpr plain)
    obtain ⟨t, read⟩ := Option.isSome_iff_exists.mp shown
    have taken : Atom.ofText s = .dateTime t := by simp only [Atom.ofText, read, bare, if_true]
    rw [taken]
    exact DateTime.shown_of_ofText? read

theorem Json.native_toValue (j : Json) : ∀ a ∈ j.toValue.atoms, a.JsonNative := by
  induction j using Json.induct with
  | null | boolean b =>
    intro a inside
    rw [List.mem_singleton.mp inside]
    trivial
  | number n =>
    intro a inside
    rw [List.mem_singleton.mp inside]
    exact n.native_toAtom
  | string s =>
    intro a inside
    rw [List.mem_singleton.mp inside]
    exact Atom.native_ofText s
  | array items ih =>
    intro a inside
    rw [Json.toValue, Json.toValues_eq_map] at inside
    obtain ⟨v, member, deep⟩ := Value.mem_atoms_array.mp inside
    obtain ⟨j, source, rfl⟩ := List.mem_map.mp member
    exact ih j source a deep
  | object members ih =>
    intro a inside
    rw [Json.toValue, Json.toMembers_eq_map] at inside
    obtain ⟨entry, member, deep⟩ := Value.mem_atoms_struct.mp inside
    obtain ⟨j, source, rfl⟩ := List.mem_map.mp member
    exact ih j source a deep

theorem Atom.JsonNative.shown {a : Atom} (native : a.JsonNative) : a.Shown := by
  cases a with
  | dateTime t => exact native
  | _ => trivial

/-- What a document in JSON holds is lost only where it is a date/time that has no year of four digits or a number
that is not finite. -/
theorem Atom.JsonNative.lossy_iff {a : Atom} (native : a.JsonNative) (finite : ∀ x, a = .double x → x.isFinite = true) :
    ¬a.Lossy ↔ ∀ t, a = .dateTime t → 0 ≤ t.year ∧ t.year ≤ 9999 := by
  cases a with
  | base64 bytes => exact native.elim
  | dateTime t =>
    have shown := DateTime.shown_eq_self_iff.mp native
    simp [Atom.Lossy, shown]
  | double x => simp [Atom.Lossy, finite x rfl]
  | int64 n => exact iff_of_true native fun t same => by cases same
  | string s => exact iff_of_true native fun t same => by cases same
  | boolean | int32 | nil => exact iff_of_true id fun t same => by cases same

end RemoteCall
