import RemoteCall.Proofs.Xml.Accepted
import RemoteCall.Proofs.Xml.RoundTrip

namespace RemoteCall

/-- An element of a tree and the level at which it stands. The outermost element stands at the first. -/
inductive Xml.Element.At (root : Xml.Element) : Nat → Xml.Element → Prop
  | root : At root 1 root
  | child {level : Nat} {e child : Xml.Element} : At root level e → child ∈ e.children → At root (level + 1) child

/-- A value inside another and the level at which it stands. The other value itself stands at the first. -/
inductive Value.At (whole : Value) : Nat → Value → Prop
  | whole : At whole 1 whole
  | item {level : Nat} {items : List Value} {v : Value} :
      At whole level (.array items) → v ∈ items → At whole (level + 1) v
  | member {level : Nat} {members : List (String × Value)} {entry : String × Value} :
      At whole level (.struct members) → entry ∈ members → At whole (level + 1) entry.2

/-- The elements that are open at some moment while a text is read, innermost first. An empty element is open for
a moment too. -/
inductive Xml.Partial.Opens : Xml.Partial → List Char → List Xml.Element → Prop
  | now {p : Xml.Partial} {cs : List Char} : Opens p cs p.stack
  | started {p q : Xml.Partial} {c : Char} {cs rest : List Char} {name : String} {empty : Bool} :
      Xml.Event.next? (c :: cs) = some (.start name empty, rest) → p.step (.start name empty) = .ok q →
      Opens p (c :: cs) (⟨name, "", []⟩ :: p.stack)
  | later {p q : Xml.Partial} {c : Char} {cs rest : List Char} {event : Xml.Event} {stack : List Xml.Element} :
      Xml.Event.next? (c :: cs) = some (event, rest) → p.step event = .ok q → Opens q rest stack →
      Opens p (c :: cs) stack

theorem Xml.Element.At.depth_le {root e : Xml.Element} {level : Nat} (stands : root.At level e) :
    level + e.depth ≤ root.depth + 1 := by
  induction stands with
  | root => omega
  | child _ member ih =>
    have below := Xml.Element.depth_lt member
    omega

theorem Xml.Element.At.level_le {root e : Xml.Element} {level : Nat} (stands : root.At level e) :
    level ≤ root.depth := by
  have inner := stands.depth_le
  have positive := e.depth_eq
  omega

theorem Value.At.depth_le {whole v : Value} {level : Nat} (stands : whole.At level v) :
    level + v.depth ≤ whole.depth + 1 := by
  induction stands with
  | whole => omega
  | item _ member ih =>
    have below := Value.depth_lt_array member
    omega
  | member _ member ih =>
    have below := Value.depth_lt_struct member
    omega

theorem Xml.Partial.Fits.length_le {stack : List Xml.Element} (fits : Xml.Partial.Fits stack) :
    stack.length ≤ Xml.maxDepth := by
  cases stack with
  | nil => exact Nat.zero_le _
  | cons e outer =>
    have inside := fits.1
    rw [List.length_cons]
    omega

theorem Xml.Partial.length_lt_of_start {p q : Xml.Partial} {name : String} {empty : Bool}
    (step : p.step (.start name empty) = .ok q) : p.stack.length < Xml.maxDepth := by
  simp only [Xml.Partial.step] at step
  split at step
  · cases step
  · split at step
    · cases step
    · rename_i room
      exact Nat.not_le.mp room

/-- At no moment are more elements open than the reader allows, whether the text can be read or not. -/
theorem Xml.Partial.Opens.length_le {p : Xml.Partial} {cs : List Char} {stack : List Xml.Element}
    (opens : p.Opens cs stack) (bounded : p.Bounded) : stack.length ≤ Xml.maxDepth := by
  induction opens with
  | now => exact bounded.stack.length_le
  | started _ step => exact Xml.Partial.length_lt_of_start step
  | later _ step _ ih => exact ih (bounded.step step)

/-- What stands at a level of a value was read from an element three times as deep. -/
theorem Value.At.source {root e : Xml.Element} {v w : Value} {outer level : Nat} (inside : v.At level w)
    (stands : root.At outer e) (read : e.value = .ok v) :
    ∃ deep source, deep + 3 = outer + 3 * level ∧ root.At deep source ∧ source.value = .ok w := by
  induction inside with
  | whole => exact ⟨outer, e, rfl, stands, read⟩
  | @item level items w _ member ih =>
    obtain ⟨deep, source, count, here, value⟩ := ih
    cases Xml.Element.holds_of_value value with
    | array typed data inner =>
      obtain ⟨part, listed, partValue⟩ := Xml.Element.mem_values inner member
      exact ⟨deep + 3, part, by omega, ((here.child typed).child data).child listed, partValue⟩
  | @member level members entry _ member ih =>
    obtain ⟨deep, source, count, here, value⟩ := ih
    cases Xml.Element.holds_of_value value with
    | struct typed inner =>
      obtain ⟨listed, isListed, part, isPart, partValue⟩ := Xml.Element.mem_members inner (Members.mem_ofList member)
      exact ⟨deep + 3, part, by omega, ((here.child typed).child isListed).child isPart, partValue⟩

/-- Three elements to a level, and no more than 384 elements: a value that is read has at most 128 levels, wherever
in the document it stands. -/
theorem Xml.Element.At.levels_le {root e : Xml.Element} {v w : Value} {outer level : Nat} (stands : root.At outer e)
    (depth : root.depth ≤ Xml.maxDepth) (read : e.value = .ok v) (inside : v.At level w) : level ≤ 128 := by
  obtain ⟨deep, source, count, here, _⟩ := inside.source stands read
  have bound := here.level_le
  have limit : Xml.maxDepth = 384 := rfl
  have first : 1 ≤ outer := by
    cases stands with
    | root => exact Nat.le_refl 1
    | child => exact Nat.le_add_left ..
  omega

theorem Xml.Element.exists_of_innerValue {e : Xml.Element} {v : Value} (read : e.innerValue = .ok v) :
    ∃ first ∈ e.children, first.value = .ok v := by
  unfold Xml.Element.innerValue at read
  split at read
  · cases read
  · rename_i first rest inside
    exact ⟨first, inside ▸ List.mem_cons_self .., read⟩

/-- Every parameter of a call was read from an element of its document. -/
theorem Xml.Element.exists_of_request {root : Xml.Element} {r : Request} (read : root.request = .ok r) :
    r.id = .nil ∧ ∀ v ∈ r.params, ∃ level e, root.At level e ∧ e.value = .ok v := by
  unfold Xml.Element.request at read
  split at read
  · cases read
  · simp only at read
    split at read
    · cases read
    · obtain ⟨params, given, rfl⟩ := Except.exists_of_map read
      refine ⟨rfl, fun v member => ?_⟩
      split at given
      · rename_i list found
        obtain ⟨param, listed, value⟩ := Except.mem_of_mapM given member
        obtain ⟨e, inside, value⟩ := Xml.Element.exists_of_innerValue value
        have isList : list ∈ root.children := List.mem_of_find?_eq_some found
        have isParam : param ∈ list.children := (List.mem_filter.mp listed).1
        exact ⟨_, e, ((Xml.Element.At.root.child isList).child isParam).child inside, value⟩
      · cases given
        cases member

/-- The result of an answer was read from an element of its document. -/
theorem Xml.Element.exists_of_response {root : Xml.Element} {r : Response} (read : root.response = .ok r) :
    r.id = .nil ∧ ∀ v, r.result = .ok v → ∃ level e, root.At level e ∧ e.value = .ok v := by
  unfold Xml.Element.response at read
  split at read
  · cases read
  · split at read
    · rename_i list isList
      split at read
      · rename_i param isParam
        obtain ⟨v, value, rfl⟩ := Except.exists_of_map read
        obtain ⟨e, inside, value⟩ := Xml.Element.exists_of_innerValue value
        have outer := Xml.Element.At.root.child (List.mem_of_find?_eq_some isList)
        have middle := outer.child (List.mem_of_find?_eq_some isParam)
        refine ⟨rfl, fun w same => ?_⟩
        cases same
        exact ⟨_, e, middle.child inside, value⟩
      · cases read
    · split at read
      · obtain ⟨f, _, rfl⟩ := Except.exists_of_map read
        exact ⟨rfl, nofun⟩
      · cases read

mutual

/-- How many elements are open at a time in the document that is written for a value. -/
def Value.xmlDepth : Value → Nat
  | .atom _ => 2
  | .array items => Value.xmlDepthOfItems items + 3
  | .struct members => if members.isEmpty then 2 else Value.xmlDepthOfMembers members + 3

def Value.xmlDepthOfItems : List Value → Nat
  | [] => 0
  | v :: rest => max v.xmlDepth (Value.xmlDepthOfItems rest)

def Value.xmlDepthOfMembers : List (String × Value) → Nat
  | [] => 0
  | (_, v) :: rest => max v.xmlDepth (Value.xmlDepthOfMembers rest)

end

mutual

theorem Value.depth_toXml : ∀ v : Value, v.toXml.depth = v.xmlDepth
  | .atom a => rfl
  | .array items => by
    simp only [Value.toXml, Value.xmlDepth, Xml.Element.depth_node, Xml.Element.depthOfAll, Nat.max_zero,
      Value.depthOfAll_toXmlOfItems items]
  | .struct members => by
    simp only [Value.toXml, Value.xmlDepth, Xml.Element.depth_node, Xml.Element.depthOfAll, Nat.max_zero,
      Value.depthOfAll_toXmlOfMembers members]
    split <;> rfl

theorem Value.depthOfAll_toXmlOfItems : ∀ items : List Value,
    Xml.Element.depthOfAll (Value.toXmlOfItems items) = Value.xmlDepthOfItems items
  | [] => rfl
  | v :: rest => by
    rw [Value.toXmlOfItems, Xml.Element.depthOfAll, Value.xmlDepthOfItems, Value.depth_toXml v,
      Value.depthOfAll_toXmlOfItems rest]

/-- The element of a member is one deeper than that of its value; its name is never as deep. -/
theorem Value.depthOfAll_toXmlOfMembers : ∀ members : List (String × Value),
    Xml.Element.depthOfAll (Value.toXmlOfMembers members) =
      if members.isEmpty then 0 else Value.xmlDepthOfMembers members + 1
  | [] => rfl
  | (name, v) :: rest => by
    have inner := Value.depth_toXml v
    have positive := v.toXml.depth_eq
    have others := Value.depthOfAll_toXmlOfMembers rest
    simp only [Value.toXmlOfMembers, Value.xmlDepthOfMembers, Xml.Element.depthOfAll, Xml.Element.depth_node,
      Xml.Element.depth_leaf, List.isEmpty_cons, Bool.false_eq_true, if_false]
    cases rest with
    | nil =>
      simp only [Value.toXmlOfMembers, Value.xmlDepthOfMembers, Xml.Element.depthOfAll]
      omega
    | cons next rest =>
      rw [List.isEmpty_cons, if_neg Bool.false_ne_true] at others
      omega

end

theorem Xml.Partial.run_startTag_full {stack : List Xml.Element} {name : String} {rest : List Char}
    (plain : Xml.isPlainName name.toList = true) (full : Xml.maxDepth ≤ stack.length) :
    Xml.Partial.run { stack } ('<' :: name.toList ++ '>' :: rest) = .error .nestedTooDeeply := by
  have next : Xml.Event.next? ('<' :: name.toList ++ '>' :: rest) =
      some (.start (String.ofList name.toList) false, rest) := Xml.Event.next?_startTag plain
  rw [List.cons_append, Xml.Partial.run]
  split
  · rename_i none
    rw [← List.cons_append, next] at none
    cases none
  · rename_i event rest' some
    rw [← List.cons_append, next] at some
    cases some
    simp only [Xml.Partial.step, Option.isSome_none, Bool.false_eq_true, if_false, full, if_true]

mutual

/-- A written element that needs more room than there is ends the reading, whatever follows it. The first tag
without room is met before anything else could be wrong. -/
theorem Xml.Partial.run_deep : ∀ (e : Xml.Element) {stack : List Xml.Element} {rest : List Char}, e.Plain →
    Xml.maxDepth < stack.length + e.depth →
    Xml.Partial.run { stack } (e.markup ++ rest) = .error .nestedTooDeeply
  | ⟨name, text, children⟩, stack, rest, plain, deep => by
    obtain ⟨plainName, plainChildren⟩ := plain
    rw [Xml.Element.depth] at deep
    have shape : (Xml.Element.mk name text children).markup ++ rest =
        '<' :: name.toList ++ '>' :: (Xml.escape text.toList ++ (Xml.Element.markupAll children ++
          '<' :: '/' :: name.toList ++ '>' :: rest)) := by
      simp only [Xml.Element.markup, List.append_assoc, List.cons_append, List.nil_append]
    obtain ⟨more, tag⟩ := Xml.Element.exists_markupAll_append children ('/' :: name.toList ++ '>' :: rest)
    by_cases room : stack.length < Xml.maxDepth
    · calc Xml.Partial.run { stack } ((Xml.Element.mk name text children).markup ++ rest)
          = Xml.Partial.run { stack := ⟨name, "", []⟩ :: stack } (Xml.escape text.toList ++ '<' :: more) := by
            rw [shape, Xml.Partial.run_startTag plainName room, ← tag]
            simp only [List.cons_append, List.append_assoc]
        _ = Xml.Partial.run { stack := ⟨name, text, []⟩ :: stack }
              (Xml.Element.markupAll children ++ '<' :: ('/' :: name.toList ++ '>' :: rest)) := by
            rw [Xml.Partial.run_text, String.empty_append, String.ofList_toList, ← tag]
        _ = .error .nestedTooDeeply := Xml.Partial.run_deepAll children plainChildren room (by omega)
    · rw [shape, Xml.Partial.run_startTag_full plainName (Nat.not_lt.mp room)]

/-- The elements in front of the one that is too deep are read as ever. -/
theorem Xml.Partial.run_deepAll : ∀ (es : List Xml.Element) {parent : Xml.Element} {outer : List Xml.Element}
    {rest : List Char}, Xml.Element.PlainAll es → outer.length < Xml.maxDepth →
    Xml.maxDepth < outer.length + 1 + Xml.Element.depthOfAll es →
    Xml.Partial.run { stack := parent :: outer } (Xml.Element.markupAll es ++ rest) = .error .nestedTooDeeply
  | [], parent, outer, rest, _, room, deep => by
    rw [Xml.Element.depthOfAll] at deep
    omega
  | e :: es, parent, outer, rest, plain, room, deep => by
    rw [Xml.Element.depthOfAll] at deep
    rw [Xml.Element.markupAll, List.append_assoc]
    by_cases first : (parent :: outer).length + e.depth ≤ Xml.maxDepth
    · have others : Xml.maxDepth < outer.length + 1 + Xml.Element.depthOfAll es := by
        rw [List.length_cons] at first
        omega
      rw [Xml.Partial.run_markup e plain.1 first]
      exact Xml.Partial.run_deepAll es plain.2 room others
    · exact Xml.Partial.run_deep e plain.1 (Nat.not_le.mp first)

end

/-- A written element is read if the reader allows its depth, and its depth is all that can be wrong with it. -/
theorem Xml.Element.ofDocument_written {e : Xml.Element} (plain : e.Plain) :
    Xml.Element.ofDocument e.markup = (if e.depth ≤ Xml.maxDepth then .ok e else .error .nestedTooDeeply) ∧
      Xml.Element.ofDocument (Xml.declaration ++ e.markup) =
        if e.depth ≤ Xml.maxDepth then .ok e else .error .nestedTooDeeply := by
  by_cases depth : e.depth ≤ Xml.maxDepth
  · rw [if_pos depth]
    exact Xml.Element.ofDocument_markup plain depth
  · have deep : Xml.Partial.run {} e.markup = .error .nestedTooDeeply := by
      have refused : Xml.Partial.run {} (e.markup ++ []) = .error .nestedTooDeeply :=
        Xml.Partial.run_deep e plain (by rw [List.length_nil]; omega)
      rwa [List.append_nil] at refused
    have skipped : Xml.Partial.run {} (Xml.declaration ++ e.markup) = Xml.Partial.run {} e.markup :=
      Xml.Partial.run_of_next (Xml.Event.next?_declaration e.markup) rfl
    rw [if_neg depth]
    refine ⟨?_, skipped.trans deep⟩
    obtain ⟨name, text, children⟩ := e
    exact deep

end RemoteCall
