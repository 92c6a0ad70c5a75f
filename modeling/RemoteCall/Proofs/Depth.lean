import RemoteCall.Proofs.Answer
import RemoteCall.Proofs.Json.Accepted
import RemoteCall.Proofs.Xml.Depth

namespace RemoteCall

/-- No value stands at a level beyond this one. A value without parts and an empty container have one level. -/
def Value.LevelsWithin (levels : Nat) (v : Value) : Prop :=
  ∀ level w, v.At level w → level ≤ levels

theorem Value.LevelsWithin.of_depth {v : Value} {depth : Nat} (bound : v.depth ≤ depth) :
    v.LevelsWithin (depth + 1) := by
  intro level w inside
  have inner := inside.depth_le
  omega

theorem Value.LevelsWithin.of_flat {v : Value} {levels : Nat} (flat : v.depth = 0) (positive : 0 < levels) :
    v.LevelsWithin levels := by
  intro level w inside
  have inner := inside.depth_le
  omega

theorem Json.depth_lt_of_find? {members : List (String × Json)} {name : String} {j : Json}
    (found : Members.find? name members = some j) : j.toValue.depth < (Json.object members).toValue.depth := by
  rw [Json.toValue, Json.toMembers_eq_map]
  have listed : (name, j.toValue) ∈ members.map fun entry => (entry.1, entry.2.toValue) :=
    List.mem_map.mpr ⟨_, Members.mem_of_find? found, rfl⟩
  exact Value.depth_lt_struct listed

theorem Json.depth_of_messageId {members : List (String × Json)} {id : Value}
    (read : Json.messageId members = .ok id) : id.depth = 0 := by
  unfold Json.messageId at read
  split at read
  · cases read
    rfl
  · cases read
    rfl
  · cases read
    rfl
  · cases read
    rfl
  · cases read

/-- The parameters of a call are parts of its document, and its id has no parts. -/
theorem Json.depth_of_request {j : Json} {r : Request} (read : j.request = .ok r) :
    r.id.depth = 0 ∧ ∀ v ∈ r.params, v.depth ≤ j.toValue.depth := by
  obtain ⟨members, rfl, _, _, given, identified⟩ := Json.request_eq_ok_iff.mp read
  refine ⟨Json.depth_of_messageId identified, fun v member => ?_⟩
  unfold Json.parameters at given
  split at given
  · rw [← Except.ok.inj given] at member
    cases member
  · rename_i items found
    rw [← Except.ok.inj given] at member
    have outer := Json.depth_lt_of_find? found
    have inner := Value.depth_lt_array member
    rw [Json.toValue] at outer
    exact (inner.trans outer).le
  · cases given
  · cases given

/-- The result of an answer is a part of its document, and its id has no parts. -/
theorem Json.depth_of_response {j : Json} {r : Response} (read : j.response = .ok r) :
    r.id.depth = 0 ∧ ∀ v, r.result = .ok v → v.depth ≤ j.toValue.depth := by
  obtain ⟨members, enveloped, decoded⟩ := Except.exists_of_bind read
  obtain ⟨id, identified, answered⟩ := Except.exists_of_bind decoded
  have flat := Json.depth_of_messageId identified
  unfold Json.envelope at enveloped
  split at enveloped
  · split at enveloped
    · cases enveloped
      split at answered
      · rename_i result found
        cases answered
        refine ⟨flat, fun v same => ?_⟩
        cases same
        exact (Json.depth_lt_of_find? found).le
      · split at answered
        · cases answered
        · obtain ⟨fault, _, same⟩ := Except.exists_of_bind answered
          cases same
          exact ⟨flat, nofun⟩
    · cases enveloped
  · cases enveloped

theorem Document.depth_of_read_xml {body : ByteArray} {root : Xml.Element}
    (read : Document.read .xml body = .ok (.xml root)) : root.depth ≤ Xml.maxDepth := by
  obtain ⟨_, e, _, whole, same⟩ := Document.read_xml_eq_ok read
  cases same
  exact Xml.Element.depth_of_ofDocument whole

theorem Document.depth_of_read_json {body : ByteArray} {j : Json} (read : Document.read .json body = .ok (.json j)) :
    j.toValue.depth ≤ Json.maxDepth := by
  obtain ⟨_, whole, _, parsed, same⟩ := Document.read_json_eq_ok read
  cases same
  exact (Json.within_of_parse? parsed).2

theorem Document.levels_of_read_xml {body : ByteArray} {root : Xml.Element}
    (read : Document.read .xml body = .ok (.xml root)) :
    (∀ v, root.value = .ok v → v.LevelsWithin 128) ∧
      (∀ r, root.request = .ok r → r.id.LevelsWithin 128 ∧ ∀ v ∈ r.params, v.LevelsWithin 128) ∧
      ∀ r, root.response = .ok r → r.id.LevelsWithin 128 ∧ ∀ v, r.result = .ok v → v.LevelsWithin 128 := by
  have depth := Document.depth_of_read_xml read
  have none : Value.nil.LevelsWithin 128 := Value.LevelsWithin.of_flat rfl (by decide)
  refine ⟨fun v value _ _ => Xml.Element.At.root.levels_le depth value, fun r call => ?_, fun r answer => ?_⟩
  · obtain ⟨id, sources⟩ := Xml.Element.exists_of_request call
    refine ⟨id ▸ none, fun v member _ _ => ?_⟩
    obtain ⟨_, e, stands, value⟩ := sources v member
    exact stands.levels_le depth value
  · obtain ⟨id, sources⟩ := Xml.Element.exists_of_response answer
    refine ⟨id ▸ none, fun v same _ _ => ?_⟩
    obtain ⟨_, e, stands, value⟩ := sources v same
    exact stands.levels_le depth value

theorem Document.levels_of_read_json {body : ByteArray} {j : Json} (read : Document.read .json body = .ok (.json j)) :
    j.toValue.LevelsWithin 128 ∧
      (∀ r, j.request = .ok r → r.id.LevelsWithin 128 ∧ ∀ v ∈ r.params, v.LevelsWithin 128) ∧
      ∀ r, j.response = .ok r → r.id.LevelsWithin 128 ∧ ∀ v, r.result = .ok v → v.LevelsWithin 128 := by
  have depth : j.toValue.depth ≤ 127 := Document.depth_of_read_json read
  refine ⟨.of_depth depth, fun r call => ?_, fun r answer => ?_⟩
  · obtain ⟨id, parts⟩ := Json.depth_of_request call
    exact ⟨.of_flat id (by decide), fun v member => .of_depth ((parts v member).trans depth)⟩
  · obtain ⟨id, part⟩ := Json.depth_of_response answer
    exact ⟨.of_flat id (by decide), fun v same => .of_depth ((part v same).trans depth)⟩

/-- The document of a value is read if it is not too deep, and nothing else can be wrong with it. -/
theorem Document.read_written_xml {v : Value} {text : String}
    (written : text.toList = v.toXml.markup ∨ text.toList = Xml.declaration ++ v.toXml.markup) :
    Document.read .xml text.toUTF8 =
      if v.xmlDepth ≤ Xml.maxDepth then .ok (.xml v.toXml) else .error Xml.Problem.nestedTooDeeply.fault := by
  have outcome : Xml.Element.ofDocument text.toList =
      if v.xmlDepth ≤ Xml.maxDepth then .ok v.toXml else .error .nestedTooDeeply := by
    rw [← Value.depth_toXml]
    rcases written with bare | declared
    · rw [bare, (Xml.Element.ofDocument_written v.plain_toXml).1]
    · rw [declared, (Xml.Element.ofDocument_written v.plain_toXml).2]
  rw [Document.read, fromUTF8?_toUTF8]
  simp only [outcome]
  split <;> rfl

/-- No text leads a reader deeper than its limit: in XML no more than 384 elements are ever open while a text is
read, and none stands deeper in what comes of it; and in both formats, no value that is read from any bytes, alone or
in a call or an answer, has more than 128 levels. For the documents that are written for values the limit is exact:
they are read, or refused as too deep, by the number of elements that they open. -/
theorem Document.nesting_bounded :
    (∀ text stack, Xml.Partial.Opens {} text stack → stack.length ≤ 384) ∧
    (∀ body root, Document.read .xml body = .ok (.xml root) → ∀ level e, root.At level e → level ≤ 384) ∧
    (∀ format body d, Document.read format body = .ok d →
      (∀ v, d.value = .ok v → v.LevelsWithin 128) ∧
      (∀ r, d.request = .ok r → r.id.LevelsWithin 128 ∧ ∀ v ∈ r.params, v.LevelsWithin 128) ∧
      ∀ r, d.response = .ok r → r.id.LevelsWithin 128 ∧ ∀ v, r.result = .ok v → v.LevelsWithin 128) ∧
    ∀ v : Value, ∀ text ∈ [Format.writeValue .xml v, (v.write ({} : Xml.Writer)).text],
      Document.read .xml text.toUTF8 =
        if v.xmlDepth ≤ 384 then .ok (.xml v.toXml)
        else .error (.invalidXml "document nested too deeply") := by
  refine ⟨fun text stack opens => opens.length_le Xml.Partial.bounded_start,
    fun body root read level e stands => stands.level_le.trans (Document.depth_of_read_xml read),
    fun format body d read => ?_, fun v text member => Document.read_written_xml ?_⟩
  · cases format with
    | xml =>
      obtain ⟨_, root, _, _, rfl⟩ := Document.read_xml_eq_ok read
      obtain ⟨values, calls, answers⟩ := Document.levels_of_read_xml read
      exact ⟨fun v value => values v (Except.mapError_eq_ok_iff.mp value),
        fun r call => calls r (Except.mapError_eq_ok_iff.mp call),
        fun r answer => answers r (Except.mapError_eq_ok_iff.mp answer)⟩
    | json =>
      obtain ⟨_, j, _, _, rfl⟩ := Document.read_json_eq_ok read
      obtain ⟨value, calls, answers⟩ := Document.levels_of_read_json read
      exact ⟨fun v same => Except.ok.inj same ▸ value,
        fun r call => calls r (Except.mapError_eq_ok_iff.mp call),
        fun r answer => answers r (Except.mapError_eq_ok_iff.mp answer)⟩
  · rcases List.mem_cons.mp member with rfl | bare
    · exact Or.inr (Format.toList_writeValue_xml v)
    · rw [List.mem_singleton.mp bare]
      exact Or.inl (by simp [Value.write_eq_putAll v, Xml.Element.markupAll])

/-- Nothing in this many arrays, one inside the other. -/
def Value.nested : Nat → Value
  | 0 => .nil
  | n + 1 => .array [Value.nested n]

theorem Value.xmlDepth_nested (n : Nat) : (Value.nested n).xmlDepth = 3 * n + 2 := by
  induction n with
  | zero => rfl
  | succ n ih =>
    simp only [Value.nested, Value.xmlDepth, Value.xmlDepthOfItems, ih]
    omega

theorem Value.At.nested {v : Value} {level n : Nat} (stands : v.At level (Value.nested n)) :
    v.At (level + n) .nil := by
  induction n generalizing level with
  | zero => exact stands
  | succ n ih =>
    have inner := ih (stands.item (List.mem_singleton.mpr rfl))
    rwa [Nat.add_assoc, Nat.add_comm 1 n] at inner

theorem Value.read_nested (n : Nat) : (Value.nested n).toXml.value = .ok (Value.nested n) := by
  induction n with
  | zero =>
    rw [Value.nested, Value.toXml, Xml.Element.value_leaf (by decide) (by decide)]
    rfl
  | succ n ih =>
    have empty : Xml.Element.values [] = .ok [] := by rw [Xml.Element.values]
    rw [Value.nested, Value.toXml, Xml.Element.value_array, Value.toXmlOfItems, Value.toXmlOfItems,
      Xml.Element.values_cons ih empty]
    rfl

/-- A call and an answer that hold an empty array each. -/
def Json.emptyCall : List (String × Json) :=
  [Json.version, ("method", .string "tick"), ("params", .array [.array []])]

def Json.emptyAnswer : List (String × Json) :=
  [Json.version, ("result", .array [])]

/-- An element is open as soon as its tag is read; the limit is met by 127 arrays around nothing and passed by one
more; and calls and answers are read within it. -/
theorem Document.nesting_bounded_nested :
    (Xml.Partial.Opens {} "<a>".toList [⟨"a", "", []⟩] ∧ [Xml.Element.mk "a" "" []].length ≤ 384) ∧
    (∃ root, Document.read .xml (Format.writeValue .xml (Value.nested 127)).toUTF8 = .ok (.xml root) ∧
      root.At 1 root ∧ 1 ≤ 384 ∧ (Document.xml root).value = .ok (Value.nested 127) ∧
      (Value.nested 127).LevelsWithin 128 ∧ (Value.nested 127).At 128 .nil) ∧
    ((Document.json (.object Json.emptyCall)).request = .ok ⟨"tick", [.array []], .nil⟩ ∧
      (Value.array []).LevelsWithin 128) ∧
    ((Document.json (.object Json.emptyAnswer)).response = .ok ⟨.ok (.array []), .nil⟩ ∧
      (Value.array []).LevelsWithin 128) ∧
    Document.read .xml (Format.writeValue .xml (Value.nested 128)).toUTF8 =
      .error (.invalidXml "document nested too deeply") := by
  obtain ⟨opened, elements, values, written⟩ := Document.nesting_bounded
  have next : Xml.Event.next? "<a>".toList = some (.start "a" false, []) := rfl
  have step : Xml.Partial.step {} (.start "a" false) = .ok { stack := [⟨"a", "", []⟩] } := rfl
  have started : Xml.Partial.Opens {} "<a>".toList [⟨"a", "", []⟩] := .later next step .now
  have read := written (Value.nested 127) _ (List.mem_cons_self ..)
  rw [Value.xmlDepth_nested, if_pos (by decide)] at read
  have value : (Document.xml (Value.nested 127).toXml).value = .ok (Value.nested 127) :=
    Except.mapError_eq_ok_iff.mpr (Value.read_nested 127)
  have deeper := written (Value.nested 128) _ (List.mem_cons_self ..)
  rw [Value.xmlDepth_nested, if_neg (by decide)] at deeper
  have callReadable : (Json.object Json.emptyCall).Readable := by
    have ordered : Members.Ordered Json.emptyCall := by
      unfold Members.Ordered
      decide
    exact ⟨ordered, trivial, trivial, ⟨trivial, trivial⟩, trivial⟩
  have callRead := Json.read_document callReadable (by decide)
  have call : (Document.json (.object Json.emptyCall)).request = .ok ⟨"tick", [.array []], .nil⟩ := rfl
  have answerReadable : (Json.object Json.emptyAnswer).Readable :=
    ⟨List.pairwise_pair.mpr (by decide), trivial, trivial, trivial⟩
  have answerRead := Json.read_document answerReadable (by decide)
  have answer : (Document.json (.object Json.emptyAnswer)).response = .ok ⟨.ok (.array []), .nil⟩ := rfl
  exact ⟨⟨started, opened _ _ started⟩,
    ⟨_, read, .root, elements _ _ read 1 _ .root, value, (values .xml _ _ read).1 _ value, Value.At.whole.nested⟩,
    ⟨call, ((values .json _ _ callRead).2.1 _ call).2 _ (List.mem_cons_self ..)⟩,
    ⟨answer, ((values .json _ _ answerRead).2.2 _ answer).2 _ rfl⟩, deeper⟩

end RemoteCall
