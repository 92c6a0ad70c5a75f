import RemoteCall.Proofs.Xml.Accepted
import RemoteCall.Proofs.Xml.Node

namespace RemoteCall

/-- A text with white space in front of it and behind it. -/
def Xml.Padded (cs : List Char) (text : String) : Prop :=
  ∃ before after, (∀ c ∈ before, Xml.isSpace c = true) ∧ (∀ c ∈ after, Xml.isSpace c = true) ∧
    text.toList = before ++ (cs ++ after)

/-- The words for a truth value, first the one that is written. -/
def Xml.booleanWords : Bool → List (List Char)
  | true => ["1".toList, "true".toList]
  | false => ["0".toList, "false".toList]

/-- The elements that an atom can be written as. White space is free inside the text of bytes and around that of
everything else but strings, and the element of nothing may hold any text. -/
inductive Atom.Spelled : Atom → Xml.Element → Prop
  | base64 {bytes : List UInt8} {text : String} :
      (text.toList.filter fun c => !Xml.isSpace c) = Base64.encode bytes →
      Spelled (.base64 bytes) ⟨"base64", text, []⟩
  | boolean {b : Bool} {word : List Char} {text : String} : word ∈ Xml.booleanWords b → Xml.Padded word text →
      Spelled (.boolean b) ⟨"boolean", text, []⟩
  | dateTime {t : DateTime} {text : String} : Xml.Padded t.text text →
      Spelled (.dateTime t) ⟨"dateTime.iso8601", text, []⟩
  | double {x : Double} {text : String} : Xml.Padded (x.text .display) text → Spelled (.double x) ⟨"double", text, []⟩
  | int32 {n : Int32} {name text : String} : name = "i4" ∨ name = "int" → Xml.Padded (Digits.ofInt n.toInt) text →
      Spelled (.int32 n) ⟨name, text, []⟩
  | int64 {n : Int64} {text : String} : Xml.Padded (Digits.ofInt n.toInt) text → Spelled (.int64 n) ⟨"i8", text, []⟩
  | nil {text : String} : Spelled .nil ⟨"nil", text, []⟩
  | string {s : String} : Spelled (.string s) ⟨"string", s, []⟩

mutual

/-- The elements that a value can be written as: a string with its type or without, the members of a struct in any
order, and any text in the elements that hold nothing but elements. -/
inductive Value.Spelled : Value → Xml.Element → Prop
  | untyped {s : String} : Spelled (.string s) ⟨"value", s, []⟩
  | atom {a : Atom} {typed : Xml.Element} {text : String} : a.Spelled typed → Spelled (.atom a) ⟨"value", text, [typed]⟩
  | array {items : List Value} {es : List Xml.Element} {text inner middle : String} : Value.SpelledItems items es →
      Spelled (.array items) ⟨"value", text, [⟨"array", inner, [⟨"data", middle, es⟩]⟩]⟩
  | struct {members order : List (String × Value)} {es : List Xml.Element} {text inner : String} :
      order.Perm members → Value.SpelledMembers order es →
      Spelled (.struct members) ⟨"value", text, [⟨"struct", inner, es⟩]⟩

inductive Value.SpelledItems : List Value → List Xml.Element → Prop
  | nil : SpelledItems [] []
  | cons {v : Value} {rest : List Value} {e : Xml.Element} {es : List Xml.Element} : v.Spelled e →
      SpelledItems rest es → SpelledItems (v :: rest) (e :: es)

inductive Value.SpelledMembers : List (String × Value) → List Xml.Element → Prop
  | nil : SpelledMembers [] []
  | cons {name text : String} {v : Value} {rest : List (String × Value)} {e : Xml.Element} {es : List Xml.Element} :
      v.Spelled e → SpelledMembers rest es →
      SpelledMembers ((name, v) :: rest) (⟨"member", text, [⟨"name", name, []⟩, e]⟩ :: es)

end

theorem Xml.Padded.trimmed {cs : List Char} {text : String} (padded : Xml.Padded cs text) :
    RemoteCall.trimmed text.toList = RemoteCall.trimmed cs := by
  obtain ⟨before, after, front, back, form⟩ := padded
  rw [form, trimmed_padded (fun c member => isBlank_of_isSpace (front c member))
    fun c member => isBlank_of_isSpace (back c member)]

/-- Blanks around its text do not count in an element of any type but strings. -/
theorem Xml.Element.atom_congr {name text other : String} (noString : name ≠ "string")
    (same : trimmed text.toList = trimmed other.toList) :
    (Xml.Element.mk name text []).atom = (Xml.Element.mk name other []).atom := by
  have content : (Xml.Element.mk name text []).content = (Xml.Element.mk name other []).content := same
  unfold Xml.Element.atom
  rw [content]
  dsimp only
  split
  case h_9 => exact absurd rfl noString
  all_goals rfl

theorem Xml.Padded.atom_eq {name text : String} {cs : List Char} (noString : name ≠ "string")
    (padded : Xml.Padded cs text) : (Xml.Element.mk name text []).atom = (Xml.Element.leaf name cs).atom := by
  refine Xml.Element.atom_congr noString ?_
  rw [padded.trimmed, String.toList_ofList]

theorem Base64.isSpace_of_isSpace {c : Char} (space : Xml.isSpace c = true) : Base64.isSpace c = true := by
  rcases Xml.isSpace_iff.mp space with rfl | rfl | rfl | rfl <;> decide

/-- Bytes are read from their text with white space anywhere in it. -/
theorem Base64.decode?_spelled {bytes : List UInt8} {cs : List Char}
    (bare : (cs.filter fun c => !Xml.isSpace c) = Base64.encode bytes) :
    Base64.decode? (trimmed cs) = some bytes := by
  have letters : ∀ c ∈ cs, Xml.isSpace c = false → c ∈ Base64.encode bytes := fun c member visible =>
    bare ▸ List.mem_filter.mpr ⟨member, by rw [visible, Bool.not_false]⟩
  have apart : ∀ c ∈ cs, isBlank c = true → (!Base64.isSpace c) = false := by
    intro c member blank
    cases space : Xml.isSpace c with
    | true => rw [Base64.isSpace_of_isSpace space, Bool.not_true]
    | false =>
      have letter := Base64.of_mem_encode Base64.isBlank_letter (by decide) bytes c (letters c member space)
      rw [letter] at blank
      cases blank
  have same : ((trimmed cs).filter fun c => !Base64.isSpace c) =
      (Base64.encode bytes).filter fun c => !Base64.isSpace c := by
    rw [filter_trimmed apart, ← bare, List.filter_filter]
    refine List.filter_congr fun c _ => ?_
    cases space : Xml.isSpace c with
    | true => rw [Base64.isSpace_of_isSpace space, Bool.not_true, Bool.false_and]
    | false => rw [Bool.not_false, Bool.and_true]
  rw [Base64.decode?_congr same, Base64.decode?_encode]

/-- Every spelling of an atom is read as the one that is written. -/
theorem Atom.Spelled.atom_eq {a : Atom} {e : Xml.Element} (spelled : a.Spelled e) :
    e.atom = (Xml.Element.leaf a.kind.name a.xmlText).atom := by
  cases spelled with
  | @base64 bytes text bare =>
    have read : (Xml.Element.mk "base64" text []).atom =
      .base64 <$> Xml.Problem.notBase64.unless (Base64.decode? (trimmed text.toList)) := rfl
    have written := (Atom.base64 bytes).read_toXml trivial
    rw [read, Base64.decode?_spelled bare, written]
    rfl
  | @boolean b word text listed padded =>
    rw [padded.atom_eq (by decide)]
    cases b with
    | true =>
      obtain rfl | rfl : word = "1".toList ∨ word = "true".toList := by simpa only [Xml.booleanWords, List.mem_cons,
        List.not_mem_nil, or_false] using listed
      · rfl
      · rfl
    | false =>
      obtain rfl | rfl : word = "0".toList ∨ word = "false".toList := by simpa only [Xml.booleanWords, List.mem_cons,
        List.not_mem_nil, or_false] using listed
      · rfl
      · rfl
  | dateTime padded => exact padded.atom_eq (by decide)
  | double padded => exact padded.atom_eq (by decide)
  | int32 named padded =>
    rcases named with rfl | rfl
    · exact padded.atom_eq (by decide)
    · exact padded.atom_eq (by decide)
  | int64 padded => exact padded.atom_eq (by decide)
  | nil => rfl
  | @string s => exact congrArg (fun s => Except.ok (Atom.string s)) String.ofList_toList.symm

theorem Atom.Spelled.leaf {a : Atom} {e : Xml.Element} (spelled : a.Spelled e) :
    ∃ name text, e = ⟨name, text, []⟩ ∧ Xml.isPlainName name.toList = true ∧ name ≠ "array" ∧ name ≠ "struct" := by
  cases spelled with
  | int32 named padded => rcases named with rfl | rfl <;> exact ⟨_, _, rfl, by decide⟩
  | _ => exact ⟨_, _, rfl, by decide⟩

theorem Value.names_readMember {members read : List (String × Value)}
    (done : members.mapM Value.readMember = .ok read) : Members.names read = Members.names members :=
  Except.map_of_mapM (fun _ _ one => (Value.readMember_eq_ok one).2) done

theorem Atom.failsOnlyWith_toXml (a : Atom) :
    Except.FailsOnlyWith .notDateTime (Xml.Element.leaf a.kind.name a.xmlText).atom := by
  cases a with
  | dateTime t =>
    have read : (Xml.Element.leaf "dateTime.iso8601" t.text).atom = Atom.dateTime <$>
      Xml.Problem.notDateTime.unless (DateTime.ofText? (Xml.Element.leaf "dateTime.iso8601" t.text).content) := rfl
    cases shown : DateTime.ofText? (Xml.Element.leaf "dateTime.iso8601" t.text).content with
    | none =>
      rw [shown] at read
      exact Or.inr read
    | some u =>
      rw [shown] at read
      exact Or.inl ⟨_, read⟩
  | double x =>
    obtain ⟨y, read⟩ := x.exists_ofText?_text
    exact Or.inl ⟨_, Xml.Element.read_leaf "double" .notDouble .double (trimmed_of_noBlank x.noBlank_display) read⟩
  | base64 bytes => exact Or.inl ⟨_, (Atom.base64 bytes).read_toXml trivial⟩
  | boolean b => exact Or.inl ⟨_, (Atom.boolean b).read_toXml trivial⟩
  | int32 n => exact Or.inl ⟨_, (Atom.int32 n).read_toXml trivial⟩
  | int64 n => exact Or.inl ⟨_, (Atom.int64 n).read_toXml trivial⟩
  | nil => exact Or.inl ⟨_, Atom.nil.read_toXml trivial⟩
  | string s => exact Or.inl ⟨_, (Atom.string s).read_toXml trivial⟩

/-- The only problem with what has been written is a date/time outside the four-digit years. -/
theorem Value.failsOnlyWith_toXml (v : Value) : Except.FailsOnlyWith .notDateTime v.toXml.value := by
  induction v using Value.induct with
  | atom a =>
    rw [Value.toXml, Xml.Element.value_leaf a.name_ne.1 a.name_ne.2]
    exact a.failsOnlyWith_toXml.map Value.atom
  | array items ih =>
    rw [Value.toXml, Xml.Element.value_array, Xml.Element.values_eq_mapM, Value.toXmlOfItems_eq_map]
    refine (Except.FailsOnlyWith.mapM fun e member => ?_).map Value.array
    obtain ⟨v, inside, rfl⟩ := List.mem_map.mp member
    exact ih v inside
  | struct members ih =>
    rw [Value.toXml, Xml.Element.value_struct, Value.members_toXmlOfMembers]
    exact (Except.FailsOnlyWith.mapM fun entry member => (ih entry member).map _).map Value.ofMembers

/-- The members of a struct may come in any order, since no name is there twice. -/
theorem Value.ofMembers_perm {order members : List (String × Value)} (perm : order.Perm members)
    (ordered : Members.Ordered members) :
    Value.ofMembers <$> order.mapM Value.readMember = Value.ofMembers <$> members.mapM Value.readMember := by
  have single : ∀ entry ∈ order, Except.FailsOnlyWith .notDateTime (Value.readMember entry) := fun entry _ =>
    entry.2.failsOnlyWith_toXml.map (Prod.mk entry.1)
  rcases Except.mapM_perm perm single with ⟨left, right⟩ | ⟨as, bs, left, right, inner⟩
  · rw [left, right]
  · have distinct : (Members.names bs).Nodup := by
      rw [Value.names_readMember right]
      exact ordered.distinct
    have same : Value.ofMembers as = Value.ofMembers bs :=
      congrArg Value.struct (Members.ofList_perm inner.symm distinct).symm
    rw [left, right]
    exact congrArg Except.ok same

theorem Value.Spelled.name_eq {v : Value} {e : Xml.Element} (spelled : v.Spelled e) : e.name = "value" := by
  cases spelled <;> rfl

mutual

/-- Every spelling of a value is read as the one that is written. -/
theorem Value.Spelled.value_eq {v : Value} {e : Xml.Element} (spelled : v.Spelled e) (ordered : v.Ordered) :
    e.value = v.toXml.value := by
  match spelled with
  | @Value.Spelled.untyped s =>
    have bare : (Xml.Element.mk "value" s []).value = .ok (.string s) := by
      rw [Xml.Element.value]
      rfl
    have written := (Value.atom (.string s)).read_toXml fun a member => by
      rw [List.mem_singleton.mp member]
      trivial
    rw [bare]
    exact written.symm
  | @Value.Spelled.atom a typed text inner =>
    obtain ⟨name, content, rfl, _, noArray, noStruct⟩ := inner.leaf
    rw [Value.toXml, Xml.Element.value_leaf a.name_ne.1 a.name_ne.2, Xml.Element.value_mk_leaf text noArray noStruct,
      inner.atom_eq]
  | .array items =>
    rw [Value.toXml, Xml.Element.value_array, Xml.Element.value_mk_array, items.values_eq ordered]
  | .struct perm members =>
    obtain ⟨inOrder, parts⟩ := Value.ordered_struct_iff.mp ordered
    have parts' := Value.orderedMembers_iff.mpr fun entry member => parts entry (perm.mem_iff.mp member)
    rw [Value.toXml, Xml.Element.value_struct, Xml.Element.value_mk_struct, members.members_eq parts',
      Value.members_toXmlOfMembers, Value.ofMembers_perm perm inOrder]

theorem Value.SpelledItems.values_eq {items : List Value} {es : List Xml.Element}
    (spelled : Value.SpelledItems items es) (ordered : Value.OrderedItems items) :
    Xml.Element.values es = Xml.Element.values (Value.toXmlOfItems items) := by
  match spelled with
  | .nil => rfl
  | .cons first rest =>
    rw [Value.toXmlOfItems, Xml.Element.values, Xml.Element.values, first.value_eq ordered.1, rest.values_eq ordered.2]

theorem Value.SpelledMembers.members_eq {members : List (String × Value)} {es : List Xml.Element}
    (spelled : Value.SpelledMembers members es) (ordered : Value.OrderedMembers members) :
    Xml.Element.members es = members.mapM Value.readMember := by
  match spelled with
  | .nil =>
    rw [Xml.Element.members]
    rfl
  | @Value.SpelledMembers.cons name text v rest e es first others =>
    have here : e.value = (name, v).2.toXml.value := first.value_eq ordered.1
    exact Xml.Element.members_eq_mapM_cons first.name_eq here (others.members_eq ordered.2)

end

mutual

theorem Value.Spelled.plain {v : Value} {e : Xml.Element} (spelled : v.Spelled e) : e.Plain := by
  match spelled with
  | .untyped => exact ⟨by decide, trivial⟩
  | .atom inner =>
    obtain ⟨name, text, rfl, plain, _⟩ := inner.leaf
    exact ⟨by decide, ⟨plain, trivial⟩, trivial⟩
  | .array items => exact ⟨by decide, ⟨by decide, ⟨by decide, items.plain⟩, trivial⟩, trivial⟩
  | .struct _ members => exact ⟨by decide, ⟨by decide, members.plain⟩, trivial⟩

theorem Value.SpelledItems.plain {items : List Value} {es : List Xml.Element}
    (spelled : Value.SpelledItems items es) : Xml.Element.PlainAll es := by
  match spelled with
  | .nil => trivial
  | .cons first rest => exact ⟨first.plain, rest.plain⟩

theorem Value.SpelledMembers.plain {members : List (String × Value)} {es : List Xml.Element}
    (spelled : Value.SpelledMembers members es) : Xml.Element.PlainAll es := by
  match spelled with
  | .nil => trivial
  | .cons first rest => exact ⟨⟨by decide, ⟨by decide, trivial⟩, first.plain, trivial⟩, rest.plain⟩

end

theorem Value.depthOfAll_toXmlOfMembers_perm {order members : List (String × Value)} (perm : order.Perm members) :
    Xml.Element.depthOfAll (Value.toXmlOfMembers order) ≤ Xml.Element.depthOfAll (Value.toXmlOfMembers members) := by
  have same : (Value.toXmlOfMembers order).Perm (Value.toXmlOfMembers members) := by
    rw [Value.toXmlOfMembers_eq_map, Value.toXmlOfMembers_eq_map]
    exact perm.map _
  exact Xml.Element.depthOfAll_le.mpr fun e member =>
    Xml.Element.depthOfAll_le.mp (Nat.le_refl _) e (same.mem_iff.mp member)

mutual

/-- No spelling stands deeper than what is written. -/
theorem Value.Spelled.depth_le {v : Value} {e : Xml.Element} (spelled : v.Spelled e) : e.depth ≤ v.toXml.depth := by
  match spelled with
  | @Value.Spelled.untyped s =>
    have bare : (Xml.Element.mk "value" s []).depth = 1 := rfl
    rw [bare, Xml.Element.depth_eq]
    omega
  | .atom inner =>
    obtain ⟨name, text, rfl, _⟩ := inner.leaf
    exact Nat.le_refl 2
  | .array items =>
    have inside := items.depth_le
    simp only [Value.toXml, Xml.Element.node, Xml.Element.depth, Xml.Element.depthOfAll]
    omega
  | .struct perm members =>
    have inside := members.depth_le
    have order := Value.depthOfAll_toXmlOfMembers_perm perm
    simp only [Value.toXml, Xml.Element.node, Xml.Element.depth, Xml.Element.depthOfAll]
    omega

theorem Value.SpelledItems.depth_le {items : List Value} {es : List Xml.Element}
    (spelled : Value.SpelledItems items es) :
    Xml.Element.depthOfAll es ≤ Xml.Element.depthOfAll (Value.toXmlOfItems items) := by
  match spelled with
  | .nil => exact Nat.le_refl 0
  | .cons first rest =>
    have here := first.depth_le
    have later := rest.depth_le
    simp only [Value.toXmlOfItems, Xml.Element.depthOfAll]
    omega

theorem Value.SpelledMembers.depth_le {members : List (String × Value)} {es : List Xml.Element}
    (spelled : Value.SpelledMembers members es) :
    Xml.Element.depthOfAll es ≤ Xml.Element.depthOfAll (Value.toXmlOfMembers members) := by
  match spelled with
  | .nil => exact Nat.le_refl 0
  | .cons first rest =>
    have here := first.depth_le
    have later := rest.depth_le
    simp only [Value.toXmlOfMembers, Xml.Element.node, Xml.Element.leaf, Xml.Element.depth, Xml.Element.depthOfAll]
    omega

end

theorem Xml.Padded.refl (cs : List Char) : Xml.Padded cs (String.ofList cs) :=
  ⟨[], [], List.forall_mem_nil _, List.forall_mem_nil _, by rw [String.toList_ofList, List.append_nil, List.nil_append]⟩

theorem Atom.spelled_leaf (a : Atom) : a.Spelled (.leaf a.kind.name a.xmlText) := by
  cases a with
  | base64 bytes =>
    refine .base64 ?_
    have visible := Base64.of_mem_encode (p := Xml.isSpace) (b := false) (by decide) (by decide) bytes
    rw [String.toList_ofList, Atom.xmlText, Base64.encodeLines, Base64.filter_wrap rfl rfl]
    exact List.filter_eq_self.mpr fun c member => by rw [visible c member, Bool.not_false]
  | boolean b => exact .boolean (by cases b <;> exact List.mem_cons_self ..) (.refl _)
  | dateTime t => exact .dateTime (.refl _)
  | double x => exact .double (.refl _)
  | int32 n => exact .int32 (Or.inl rfl) (.refl _)
  | int64 n => exact .int64 (.refl _)
  | nil => exact .nil
  | string s =>
    rw [Atom.xmlText, Xml.Element.leaf_toList]
    exact .string

mutual

/-- What is written is one of the spellings. -/
theorem Value.spelled_toXml : ∀ v : Value, v.Spelled v.toXml
  | .atom a => .atom a.spelled_leaf
  | .array items => .array (Value.spelledItems_toXml items)
  | .struct members => .struct (List.Perm.refl _) (Value.spelledMembers_toXml members)

theorem Value.spelledItems_toXml : ∀ items : List Value, Value.SpelledItems items (Value.toXmlOfItems items)
  | [] => .nil
  | v :: rest => .cons v.spelled_toXml (Value.spelledItems_toXml rest)

theorem Value.spelledMembers_toXml : ∀ members : List (String × Value),
    Value.SpelledMembers members (Value.toXmlOfMembers members)
  | [] => .nil
  | (name, v) :: rest => by
    rw [Value.toXmlOfMembers, Xml.Element.leaf_toList]
    exact .cons v.spelled_toXml (Value.spelledMembers_toXml rest)

end

end RemoteCall
