import RemoteCall.Proofs.Xml.Reading

namespace RemoteCall

theorem Xml.Element.depthOfAll_le {n : Nat} {es : List Xml.Element} :
    Xml.Element.depthOfAll es ≤ n ↔ ∀ e ∈ es, e.depth ≤ n := by
  induction es with
  | nil => simp [Xml.Element.depthOfAll]
  | cons e rest ih => simp only [Xml.Element.depthOfAll, Nat.max_le, ih, List.mem_cons, forall_eq_or_imp]

theorem Xml.Element.depthOfAll_reverse_le {n : Nat} {es : List Xml.Element} :
    Xml.Element.depthOfAll es.reverse ≤ n ↔ Xml.Element.depthOfAll es ≤ n := by
  simp only [Xml.Element.depthOfAll_le, List.mem_reverse]

theorem Xml.Element.depth_eq (e : Xml.Element) : e.depth = Xml.Element.depthOfAll e.children + 1 := by
  cases e
  rw [Xml.Element.depth]

theorem Xml.Element.depth_lt {e child : Xml.Element} (member : child ∈ e.children) : child.depth < e.depth := by
  rw [e.depth_eq]
  exact Nat.lt_succ_of_le (Xml.Element.depthOfAll_le.mp (Nat.le_refl _) child member)

/-- Every open element has room for the children that it has so far. -/
def Xml.Partial.Fits : List Xml.Element → Prop
  | [] => True
  | e :: outer => outer.length + 1 + Xml.Element.depthOfAll e.children ≤ Xml.maxDepth ∧ Xml.Partial.Fits outer

/-- Nothing that has been read stands deeper than the reader allows. -/
structure Xml.Partial.Bounded (p : Xml.Partial) : Prop where
  stack : Xml.Partial.Fits p.stack
  root : ∀ e, p.root = some e → e.depth ≤ Xml.maxDepth

theorem Xml.Partial.bounded_start : Xml.Partial.Bounded {} :=
  ⟨trivial, nofun⟩

theorem Xml.Partial.Bounded.close {p q : Xml.Partial} (bounded : p.Bounded) (closed : p.close = .ok q) : q.Bounded := by
  obtain ⟨stack, root⟩ := bounded
  unfold Xml.Partial.close at closed
  split at closed
  · cases closed
  · rename_i e outer open'
    rw [open'] at stack
    have inside := stack.1
    split at closed
    · cases closed
      refine ⟨trivial, fun whole same => ?_⟩
      cases same
      rw [Xml.Element.depth_eq]
      have := Xml.Element.depthOfAll_reverse_le.mpr (Nat.le_refl (Xml.Element.depthOfAll e.children))
      simp only [List.length_nil] at inside ⊢
      omega
    · rename_i parent rest
      cases closed
      refine ⟨⟨?_, stack.2.2⟩, root⟩
      have above := stack.2.1
      have := Xml.Element.depthOfAll_reverse_le.mpr (Nat.le_refl (Xml.Element.depthOfAll e.children))
      simp only [List.length_cons] at inside
      simp only [Xml.Element.depthOfAll, Xml.Element.depth_eq]
      omega

theorem Xml.Partial.Bounded.addText {p q : Xml.Partial} {content : List Char} {blank : Bool} (bounded : p.Bounded)
    (added : p.addText content blank = .ok q) : q.Bounded := by
  unfold Xml.Partial.addText at added
  split at added
  · split at added
    · cases added
      exact bounded
    · cases added
  · rename_i e outer open'
    cases added
    have stack := bounded.stack
    rw [open'] at stack
    exact ⟨⟨stack.1, stack.2⟩, bounded.root⟩

/-- Step: no piece of a document leads deeper than the reader allows. -/
theorem Xml.Partial.Bounded.step {p q : Xml.Partial} {event : Xml.Event} (bounded : p.Bounded)
    (step : p.step event = .ok q) : q.Bounded := by
  cases event with
  | start name empty =>
    simp only [Xml.Partial.step] at step
    split at step
    · cases step
    · split at step
      · cases step
      · rename_i room
        have opened : Xml.Partial.Bounded { p with stack := ⟨name, "", []⟩ :: p.stack } := by
          refine ⟨⟨?_, bounded.stack⟩, bounded.root⟩
          simp only [Xml.Element.depthOfAll]
          omega
        split at step
        · exact opened.close step
        · cases step
          exact opened
  | finish name =>
    simp only [Xml.Partial.step] at step
    split at step
    · cases step
    · split at step
      · exact bounded.close step
      · cases step
  | text content => exact bounded.addText step
  | characters content => exact bounded.addText step
  | ignored =>
    cases step
    exact bounded

/-- Run: the outermost element of a text that can be read is within the limit. -/
theorem Xml.Partial.Bounded.run {p : Xml.Partial} {cs : List Char} {e : Xml.Element} (bounded : p.Bounded)
    (read : p.run cs = .ok e) : e.depth ≤ Xml.maxDepth := by
  fun_induction Xml.Partial.run p cs with
  | case1 p =>
    unfold Xml.Partial.finish at read
    split at read
    · rename_i root whole
      cases read
      exact bounded.root _ whole
    · cases read
  | case2 => cases read
  | case3 => cases read
  | case4 p c cs event rest found next step ih => exact ih (bounded.step step) read

theorem Xml.Element.depth_of_ofDocument {cs : List Char} {e : Xml.Element}
    (read : Xml.Element.ofDocument cs = .ok e) : e.depth ≤ Xml.maxDepth := by
  unfold Xml.Element.ofDocument at read
  split at read
  · exact Xml.Partial.bounded_start.run read
  · exact Xml.Partial.bounded_start.run read

/-- The ways in which an element is read as a value. -/
inductive Xml.Element.Holds (e : Xml.Element) : Value → Prop
  | text : e.children = [] → Holds e (.string e.text)
  | atom {typed : Xml.Element} {a : Atom} : typed ∈ e.children → typed.atom = .ok a → Holds e (.atom a)
  | array {typed data : Xml.Element} {items : List Value} : typed ∈ e.children → data ∈ typed.children →
      Xml.Element.values data.children = .ok items → Holds e (.array items)
  | struct {typed : Xml.Element} {members : List (String × Value)} : typed ∈ e.children →
      Xml.Element.members typed.children = .ok members → Holds e (Value.ofMembers members)

theorem Xml.Element.holds_of_value {e : Xml.Element} {v : Value} (read : e.value = .ok v) : e.Holds v := by
  rw [Xml.Element.value] at read
  split at read
  · cases read
  · split at read
    · rename_i bare
      cases read
      exact .text bare
    · rename_i typed rest inside
      have member : typed ∈ e.children := inside ▸ List.mem_cons_self ..
      split at read
      · split at read
        · rename_i data found
          obtain ⟨items, inner, rfl⟩ := Except.exists_of_map read
          exact .array member (List.mem_of_find?_eq_some found) inner
        · cases read
      · split at read
        · obtain ⟨members, inner, rfl⟩ := Except.exists_of_map read
          exact .struct member inner
        · obtain ⟨a, single, rfl⟩ := Except.exists_of_map read
          exact .atom member single

theorem Xml.Element.mem_values {es : List Xml.Element} {items : List Value} {v : Value}
    (read : Xml.Element.values es = .ok items) (member : v ∈ items) : ∃ e ∈ es, e.value = .ok v :=
  Except.mem_of_mapM (Xml.Element.values_eq_mapM es ▸ read) member

theorem Xml.Element.mem_members {es : List Xml.Element} {members : List (String × Value)} {entry : String × Value}
    (read : Xml.Element.members es = .ok members) (member : entry ∈ members) :
    ∃ e ∈ es, ∃ inside ∈ e.children, inside.value = .ok entry.2 := by
  induction es generalizing members with
  | nil =>
    rw [Xml.Element.members] at read
    cases read
    cases member
  | cons e rest ih =>
    have later {more : List (String × Value)} (others : Xml.Element.members rest = .ok more) (old : entry ∈ more) :
        ∃ e' ∈ e :: rest, ∃ inside ∈ e'.children, inside.value = .ok entry.2 := by
      obtain ⟨source, listed, inside⟩ := ih others old
      exact ⟨source, List.mem_cons_of_mem _ listed, inside⟩
    rw [Xml.Element.members] at read
    split at read
    · exact later read member
    · split at read
      · cases read
      · split at read
        · cases read
        · rename_i inside found
          have child : inside ∈ e.children := List.mem_reverse.mp (List.mem_of_find?_eq_some found)
          obtain ⟨v, value, tail⟩ := Except.exists_of_bind read
          obtain ⟨more, others, same⟩ := Except.exists_of_bind tail
          cases same
          rcases List.mem_cons.mp member with rfl | old
          · exact ⟨e, List.mem_cons_self .., inside, child, value⟩
          · exact later others old

/-- Structs are put in order as they are read. -/
theorem Xml.Element.ordered_of_value {e : Xml.Element} {v : Value} (read : e.value = .ok v) : v.Ordered := by
  induction v using Value.induct generalizing e with
  | atom a => trivial
  | array items ih =>
    cases Xml.Element.holds_of_value read with
    | array typed data inner =>
      refine Value.ordered_array_iff.mpr fun v member => ?_
      obtain ⟨source, _, value⟩ := Xml.Element.mem_values inner member
      exact ih v member value
  | struct members ih =>
    cases Xml.Element.holds_of_value read with
    | struct typed inner =>
      refine Value.ordered_struct_iff.mpr ⟨Members.ordered_ofList _, fun entry member => ?_⟩
      obtain ⟨source, _, inside, _, value⟩ := Xml.Element.mem_members inner (Members.mem_ofList member)
      exact ih entry member value

theorem Xml.Problem.map_unless_eq_ok {α β : Type} {problem : Xml.Problem} {wrap : α → β} {x : Option α} {b : β}
    (read : wrap <$> problem.unless x = .ok b) : ∃ a, x = some a ∧ wrap a = b := by
  cases x with
  | none => cases read
  | some a => exact ⟨a, rfl, Except.ok.inj read⟩

theorem Xml.Element.shown_of_atom {e : Xml.Element} {a : Atom} (read : e.atom = .ok a) : a.Shown := by
  unfold Xml.Element.atom at read
  split at read
  case h_3 =>
    obtain ⟨t, atText, rfl⟩ := Xml.Problem.map_unless_eq_ok read
    exact DateTime.shown_of_ofText? atText
  case h_8 | h_9 =>
    cases read
    trivial
  case h_10 => cases read
  all_goals
    obtain ⟨_, _, rfl⟩ := Xml.Problem.map_unless_eq_ok read
    trivial

/-- No date/time that is read has a fraction of a second, or a leap second other than at second 59. -/
theorem Xml.Element.shown_of_value {e : Xml.Element} {v : Value} (read : e.value = .ok v) :
    ∀ a ∈ v.atoms, a.Shown := by
  induction v using Value.induct generalizing e with
  | atom a =>
    intro b inside
    rw [List.mem_singleton.mp inside]
    cases Xml.Element.holds_of_value read with
    | text bare => trivial
    | atom typed single => exact Xml.Element.shown_of_atom single
  | array items ih =>
    intro a inside
    obtain ⟨v, member, deep⟩ := Value.mem_atoms_array.mp inside
    cases Xml.Element.holds_of_value read with
    | array typed data inner =>
      obtain ⟨source, _, value⟩ := Xml.Element.mem_values inner member
      exact ih v member value a deep
  | struct members ih =>
    intro a inside
    obtain ⟨entry, member, deep⟩ := Value.mem_atoms_struct.mp inside
    cases Xml.Element.holds_of_value read with
    | struct typed inner =>
      obtain ⟨source, _, part, _, value⟩ := Xml.Element.mem_members inner (Members.mem_ofList member)
      exact ih entry member value a deep

theorem Value.toXmlOfItems_eq_map (items : List Value) : Value.toXmlOfItems items = items.map Value.toXml := by
  induction items with
  | nil => rfl
  | cons v rest ih => rw [Value.toXmlOfItems, ih, List.map_cons]

theorem Value.toXmlOfMembers_eq_map (members : List (String × Value)) :
    Value.toXmlOfMembers members =
      members.map fun entry => .node "member" [.leaf "name" entry.1.toList, entry.2.toXml] := by
  induction members with
  | nil => rfl
  | cons entry rest ih => rw [Value.toXmlOfMembers, ih, List.map_cons]

theorem Xml.Element.depth_leaf (name : String) (content : List Char) : (Xml.Element.leaf name content).depth = 1 := rfl

theorem Xml.Element.depth_node (name : String) (es : List Xml.Element) :
    (Xml.Element.node name es).depth = Xml.Element.depthOfAll es + 1 := by
  rw [Xml.Element.node, Xml.Element.depth]

/-- The elements of a value are its type's and its parts', three for each level of an array. -/
theorem Value.depth_toXml_array_le {n : Nat} {items : List Value} (parts : ∀ v ∈ items, v.toXml.depth ≤ n) :
    (Value.array items).toXml.depth ≤ n + 3 := by
  have inner : Xml.Element.depthOfAll (Value.toXmlOfItems items) ≤ n := by
    rw [Value.toXmlOfItems_eq_map, Xml.Element.depthOfAll_le]
    intro e member
    obtain ⟨v, inside, rfl⟩ := List.mem_map.mp member
    exact parts v inside
  simp only [Value.toXml, Xml.Element.depth_node, Xml.Element.depthOfAll, Nat.max_zero]
  omega

theorem Value.depth_toXml_struct_le {n : Nat} {members : List (String × Value)}
    (parts : ∀ entry ∈ members, entry.2.toXml.depth ≤ n) : (Value.struct members).toXml.depth ≤ n + 3 := by
  have inner : Xml.Element.depthOfAll (Value.toXmlOfMembers members) ≤ n + 1 := by
    rw [Value.toXmlOfMembers_eq_map, Xml.Element.depthOfAll_le]
    intro e member
    obtain ⟨entry, inside, rfl⟩ := List.mem_map.mp member
    have part := parts entry inside
    have positive := entry.2.toXml.depth_eq
    simp only [Xml.Element.depth_node, Xml.Element.depthOfAll, Xml.Element.depth_leaf]
    omega
  simp only [Value.toXml, Xml.Element.depth_node, Xml.Element.depthOfAll, Nat.max_zero]
  omega

/-- A value takes three elements for each of its levels when it is written, and took no fewer where it was read. -/
theorem Xml.Element.depth_toXml_of_value {e : Xml.Element} {v : Value} {n : Nat} (read : e.value = .ok v)
    (depth : e.depth ≤ 3 * n) : v.toXml.depth ≤ 3 * n := by
  have positive := e.depth_eq
  obtain ⟨n, rfl⟩ : ∃ m, n = m + 1 := Nat.exists_eq_succ_of_ne_zero (by omega)
  induction v using Value.induct generalizing e n with
  | atom a =>
    have written : (Value.atom a).toXml.depth = 2 := rfl
    omega
  | array items ih =>
    cases Xml.Element.holds_of_value read with
    | array typed data inner =>
      refine Value.depth_toXml_array_le fun v member => ?_
      obtain ⟨source, listed, value⟩ := Xml.Element.mem_values inner member
      have outer := Xml.Element.depth_lt typed
      have middle := Xml.Element.depth_lt data
      have below := Xml.Element.depth_lt listed
      have positive := source.depth_eq
      obtain ⟨n, rfl⟩ : ∃ m, n = m + 1 := Nat.exists_eq_succ_of_ne_zero (by omega)
      exact ih v member value positive n (by omega)
  | struct members ih =>
    cases Xml.Element.holds_of_value read with
    | struct typed inner =>
      refine Value.depth_toXml_struct_le fun entry member => ?_
      obtain ⟨source, listed, part, inside, value⟩ := Xml.Element.mem_members inner (Members.mem_ofList member)
      have outer := Xml.Element.depth_lt typed
      have middle := Xml.Element.depth_lt listed
      have below := Xml.Element.depth_lt inside
      have positive := part.depth_eq
      obtain ⟨n, rfl⟩ : ∃ m, n = m + 1 := Nat.exists_eq_succ_of_ne_zero (by omega)
      exact ih entry member value positive n (by omega)

end RemoteCall
