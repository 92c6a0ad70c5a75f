import RemoteCall.Proofs.Base64
import RemoteCall.Proofs.Double
import RemoteCall.Proofs.Traversal
import RemoteCall.Proofs.Value
import RemoteCall.Proofs.Xml.Writing
import RemoteCall.Xml.Message

namespace RemoteCall

/-- What it takes for the text of an atom to be read as the atom, but for the fraction of a second: a year of four
digits, a leap second at second 59 only, and a number whose text reads back. -/
def Atom.XmlReadable : Atom → Prop
  | .dateTime t => t.LeapAt59 ∧ 0 ≤ t.year ∧ t.year ≤ 9999
  | .double x => Double.ofText? (x.text .display) = some x
  | _ => True

theorem Xml.Element.leaf_toList (name text : String) : Xml.Element.leaf name text.toList = ⟨name, text, []⟩ := by
  rw [Xml.Element.leaf, String.ofList_toList]

theorem Xml.Element.content_leaf (name : String) (content : List Char) :
    (Xml.Element.leaf name content).content = trimmed content := by
  rw [Xml.Element.content, Xml.Element.leaf, String.toList_ofList]

theorem Xml.Element.read_leaf {α : Type} (name : String) {content : List Char} {read? : List Char → Option α} {a : α}
    (problem : Xml.Problem) (wrap : α → Atom) (plain : trimmed content = content) (read : read? content = some a) :
    wrap <$> problem.unless (read? (Xml.Element.leaf name content).content) = .ok (wrap a) := by
  rw [Xml.Element.content_leaf, plain, read]
  rfl

/-- The text of an atom is read as the atom, but for the fraction of a second. -/
theorem Atom.read_toXml {a : Atom} (readable : a.XmlReadable) :
    (Xml.Element.leaf a.kind.name a.xmlText).atom = .ok a.wholeSeconds := by
  cases a with
  | base64 bytes =>
    exact Xml.Element.read_leaf "base64" .notBase64 .base64 (Base64.trimmed_encodeLines bytes)
      (Base64.decode?_encodeLines bytes)
  | boolean b =>
    have read : Xml.boolean? [if b then '1' else '0'] = some b := by cases b <;> rfl
    refine Xml.Element.read_leaf "boolean" .notBoolean .boolean ?_ read
    cases b <;> rfl
  | dateTime t =>
    obtain ⟨placed, year⟩ := readable
    exact Xml.Element.read_leaf "dateTime.iso8601" .notDateTime .dateTime t.trimmed_text
      (placed.shown ▸ DateTime.ofText?_text year)
  | double x =>
    exact Xml.Element.read_leaf "double" .notDouble .double (trimmed_of_noBlank x.noBlank_display) readable
  | int32 n =>
    exact Xml.Element.read_leaf "i4" .notInt32 .int32 (trimmed_of_noBlank (Digits.noBlank_ofInt n.toInt))
      (Digits.int32?_ofInt n)
  | int64 n =>
    exact Xml.Element.read_leaf "i8" .notInt64 .int64 (trimmed_of_noBlank (Digits.noBlank_ofInt n.toInt))
      (Digits.int64?_ofInt n)
  | nil => rfl
  | string s => exact congrArg (fun s => Except.ok (Atom.string s)) String.ofList_toList

/-- Text beside the element of a type does not count. -/
theorem Xml.Element.value_mk_leaf (text : String) {typed : Xml.Element} (noArray : typed.name ≠ "array")
    (noStruct : typed.name ≠ "struct") :
    (Xml.Element.mk "value" text [typed]).value = Value.atom <$> typed.atom := by
  rw [Xml.Element.value]
  simp only [ne_eq, not_true_eq_false, if_false, noArray, noStruct]

theorem Xml.Element.value_mk_array (text inner middle : String) (es : List Xml.Element) :
    (Xml.Element.mk "value" text [⟨"array", inner, [⟨"data", middle, es⟩]⟩]).value =
      Value.array <$> Xml.Element.values es := by
  rw [Xml.Element.value]
  rfl

theorem Xml.Element.value_mk_struct (text inner : String) (es : List Xml.Element) :
    (Xml.Element.mk "value" text [⟨"struct", inner, es⟩]).value = Value.ofMembers <$> Xml.Element.members es := by
  rw [Xml.Element.value]
  rfl

theorem Xml.Element.value_leaf {typed : Xml.Element} (noArray : typed.name ≠ "array")
    (noStruct : typed.name ≠ "struct") : (Xml.Element.node "value" [typed]).value = Value.atom <$> typed.atom :=
  Xml.Element.value_mk_leaf "" noArray noStruct

theorem Xml.Element.value_array (es : List Xml.Element) :
    (Xml.Element.node "value" [.node "array" [.node "data" es]]).value = Value.array <$> Xml.Element.values es :=
  Xml.Element.value_mk_array "" "" "" es

theorem Xml.Element.value_struct (es : List Xml.Element) :
    (Xml.Element.node "value" [.node "struct" es]).value = Value.ofMembers <$> Xml.Element.members es :=
  Xml.Element.value_mk_struct "" "" es

theorem Xml.Element.values_cons {e : Xml.Element} {es : List Xml.Element} {v : Value} {vs : List Value}
    (first : e.value = .ok v) (rest : Xml.Element.values es = .ok vs) :
    Xml.Element.values (e :: es) = .ok (v :: vs) := by
  rw [Xml.Element.values, first, rest]
  rfl

theorem Xml.Element.members_cons_eq {e name inside : Xml.Element} (member : e.name = "member")
    (name? : e.child? "name" = some name) (value? : e.lastChild? "value" = some inside) (es : List Xml.Element) :
    Xml.Element.members (e :: es) = (do
      let v ← inside.value
      let more ← Xml.Element.members es
      return (name.text, v) :: more) := by
  rw [Xml.Element.members, if_neg (not_not_intro member), name?]
  simp only
  split
  · rename_i none
    rw [value?] at none
    cases none
  · rename_i found some
    rw [value?] at some
    cases some
    rfl

/-- A member in the form in which it is written, and any text beside its name and its value. -/
theorem Xml.Element.members_mk_cons (name text : String) {e : Xml.Element} (inside : e.name = "value")
    (es : List Xml.Element) :
    Xml.Element.members (⟨"member", text, [⟨"name", name, []⟩, e]⟩ :: es) = (do
      let v ← e.value
      let more ← Xml.Element.members es
      return (name, v) :: more) := by
  have value? : (Xml.Element.mk "member" text [⟨"name", name, []⟩, e]).lastChild? "value" = some e := by
    simp [Xml.Element.lastChild?, inside]
  exact Xml.Element.members_cons_eq rfl rfl value? es

theorem Xml.Element.members_cons {name : String} {e : Xml.Element} {es : List Xml.Element} {v : Value}
    {members : List (String × Value)} (inside : e.name = "value") (first : e.value = .ok v)
    (rest : Xml.Element.members es = .ok members) :
    Xml.Element.members (.node "member" [.leaf "name" name.toList, e] :: es) = .ok ((name, v) :: members) := by
  rw [Xml.Element.leaf_toList, Xml.Element.node, Xml.Element.members_mk_cons name "" inside, first, rest]
  rfl

theorem Value.name_toXml (v : Value) : v.toXml.name = "value" := by
  cases v <;> rfl

theorem Xml.Element.values_eq_mapM (es : List Xml.Element) : Xml.Element.values es = es.mapM Xml.Element.value := by
  induction es with
  | nil =>
    rw [Xml.Element.values]
    rfl
  | cons e rest ih =>
    rw [Xml.Element.values, ih, List.mapM_cons]

/-- What is read for a member as it is written. -/
def Value.readMember (entry : String × Value) : Except Xml.Problem (String × Value) :=
  entry.2.toXml.value.map (Prod.mk entry.1)

theorem Xml.Element.members_eq_mapM_cons {entry : String × Value} {e : Xml.Element} {text : String}
    (named : e.name = "value") (same : e.value = entry.2.toXml.value) {es : List Xml.Element}
    {rest : List (String × Value)} (others : Xml.Element.members es = rest.mapM Value.readMember) :
    Xml.Element.members (⟨"member", text, [⟨"name", entry.1, []⟩, e]⟩ :: es) =
      (entry :: rest).mapM Value.readMember := by
  rw [Xml.Element.members_mk_cons entry.1 text named, List.mapM_cons, same, others, Value.readMember]
  cases entry.2.toXml.value <;> rfl

theorem Value.members_toXmlOfMembers (members : List (String × Value)) :
    Xml.Element.members (Value.toXmlOfMembers members) = members.mapM Value.readMember := by
  induction members with
  | nil =>
    rw [Value.toXmlOfMembers, Xml.Element.members]
    rfl
  | cons entry rest ih =>
    rw [Value.toXmlOfMembers, Xml.Element.node, Xml.Element.leaf_toList]
    exact Xml.Element.members_eq_mapM_cons entry.2.name_toXml rfl ih

theorem Value.readMember_eq_ok {entry read : String × Value} (done : Value.readMember entry = .ok read) :
    entry.2.toXml.value = .ok read.2 ∧ read.1 = entry.1 := by
  obtain ⟨v, value, rfl⟩ := Except.exists_of_map done
  exact ⟨value, rfl⟩

theorem Atom.name_ne (a : Atom) : a.kind.name ≠ "array" ∧ a.kind.name ≠ "struct" := by
  cases a <;> simp [Atom.kind, Kind.name]

mutual

/-- The element of a value is read as the value, cut to whole seconds. -/
theorem Value.read_toXml : ∀ v : Value, (∀ a ∈ v.atoms, a.XmlReadable) → v.toXml.value = .ok v.wholeSeconds
  | .atom a, readable => by
    rw [Value.toXml, Xml.Element.value_leaf a.name_ne.1 a.name_ne.2,
      Atom.read_toXml (readable a (List.mem_singleton.mpr rfl))]
    rfl
  | .array items, readable => by
    rw [Value.toXml, Xml.Element.value_array, Value.read_toXmlOfItems items readable]
    rfl
  | .struct members, readable => by
    rw [Value.toXml, Xml.Element.value_struct, Value.read_toXmlOfMembers members readable]
    rfl

theorem Value.read_toXmlOfItems : ∀ items : List Value, (∀ a ∈ Value.atomsOfItems items, a.XmlReadable) →
    Xml.Element.values (Value.toXmlOfItems items) = .ok (Value.wholeSecondsOfItems items)
  | [], _ => by rw [Value.toXmlOfItems, Xml.Element.values, Value.wholeSecondsOfItems]
  | v :: rest, readable => by
    have first := v.read_toXml fun a member => readable a (List.mem_append_left _ member)
    have others := Value.read_toXmlOfItems rest fun a member => readable a (List.mem_append_right _ member)
    exact Xml.Element.values_cons first others

theorem Value.read_toXmlOfMembers : ∀ members : List (String × Value),
    (∀ a ∈ Value.atomsOfMembers members, a.XmlReadable) →
    Xml.Element.members (Value.toXmlOfMembers members) = .ok (Value.wholeSecondsOfMembers members)
  | [], _ => by rw [Value.toXmlOfMembers, Xml.Element.members, Value.wholeSecondsOfMembers]
  | (name, v) :: rest, readable => by
    have first := v.read_toXml fun a member => readable a (List.mem_append_left _ member)
    have others := Value.read_toXmlOfMembers rest fun a member => readable a (List.mem_append_right _ member)
    exact Xml.Element.members_cons v.name_toXml first others

end

end RemoteCall
