import RemoteCall.Proofs.Xml.Markup
import RemoteCall.Xml.Writer

namespace RemoteCall

/-- The text of the element that holds a value without parts. -/
def Atom.xmlText : Atom → List Char
  | .base64 bytes => Base64.encodeLines bytes
  | .boolean b => [if b then '1' else '0']
  | .dateTime t => t.text
  | .double x => x.text .display
  | .int32 n => Digits.ofInt n.toInt
  | .int64 n => Digits.ofInt n.toInt
  | .nil => []
  | .string s => s.toList

def Xml.Element.leaf (name : String) (content : List Char) : Xml.Element :=
  ⟨name, String.ofList content, []⟩

def Xml.Element.node (name : String) (children : List Xml.Element) : Xml.Element :=
  ⟨name, "", children⟩

mutual

/-- The element that is written for a value. -/
def Value.toXml : Value → Xml.Element
  | .atom a => .node "value" [.leaf a.kind.name a.xmlText]
  | .array items => .node "value" [.node "array" [.node "data" (Value.toXmlOfItems items)]]
  | .struct members => .node "value" [.node "struct" (Value.toXmlOfMembers members)]

def Value.toXmlOfItems : List Value → List Xml.Element
  | [] => []
  | v :: rest => v.toXml :: Value.toXmlOfItems rest

def Value.toXmlOfMembers : List (String × Value) → List Xml.Element
  | [] => []
  | (name, v) :: rest =>
    .node "member" [.leaf "name" name.toList, v.toXml] :: Value.toXmlOfMembers rest

end

theorem Xml.Writer.ext_toList {w z : Xml.Writer} (same : w.text.toList = z.text.toList) : w = z := by
  cases w
  cases z
  exact congrArg Xml.Writer.mk (String.toList_inj.mp same)

@[simp] theorem Xml.Writer.toList_put (s : String) (w : Xml.Writer) :
    (w.put s).text.toList = w.text.toList ++ s.toList := by
  rw [Xml.Writer.put, String.toList_append]

@[simp] theorem Xml.Writer.toList_putEscaped (cs : List Char) (w : Xml.Writer) :
    (w.putEscaped cs).text.toList = w.text.toList ++ Xml.escape cs := by
  rw [Xml.Writer.putEscaped, Xml.Writer.toList_put, String.toList_ofList]

/-- Appends elements to what has been written. -/
def Xml.Writer.putAll (es : List Xml.Element) (w : Xml.Writer) : Xml.Writer :=
  w.put (String.ofList (Xml.Element.markupAll es))

@[simp] theorem Xml.Writer.toList_putAll (es : List Xml.Element) (w : Xml.Writer) :
    (w.putAll es).text.toList = w.text.toList ++ Xml.Element.markupAll es := by
  rw [Xml.Writer.putAll, Xml.Writer.toList_put, String.toList_ofList]

theorem Xml.Writer.typed_eq (tag : String) (content : List Char) (w : Xml.Writer) :
    w.typed tag content = w.putAll [.node "value" [.leaf tag content]] := by
  apply Xml.Writer.ext_toList
  simp [Xml.Writer.typed, Xml.Element.markupAll, Xml.Element.node, Xml.Element.leaf, Xml.Element.markup,
    Xml.escape, toString]

theorem Xml.Writer.atom_eq (a : Atom) (w : Xml.Writer) : w.atom a = w.typed a.kind.name a.xmlText := by
  cases a <;> rfl

mutual

/-- Writing a value appends its element and nothing else. -/
theorem Value.write_eq_putAll : ∀ (v : Value) (w : Xml.Writer), v.write w = w.putAll [v.toXml]
  | .atom a, w => (w.atom_eq a).trans (w.typed_eq a.kind.name a.xmlText)
  | .array items, w => by
    rw [Value.write, Value.writeItems_eq_putAll items]
    apply Xml.Writer.ext_toList
    simp [Writer.startArray, Writer.endArray, Value.toXml, Xml.Element.markupAll, Xml.Element.node,
      Xml.Element.markup, Xml.escape]
  | .struct members, w => by
    rw [Value.write, Value.writeMembers_eq_putAll members]
    apply Xml.Writer.ext_toList
    simp [Writer.startStruct, Writer.endStruct, Value.toXml, Xml.Element.markupAll, Xml.Element.node,
      Xml.Element.markup, Xml.escape]

theorem Value.writeItems_eq_putAll : ∀ (items : List Value) (w : Xml.Writer),
    Value.writeItems items w = w.putAll (Value.toXmlOfItems items)
  | [], w => by
    apply Xml.Writer.ext_toList
    simp [Value.writeItems, Value.toXmlOfItems, Xml.Element.markupAll]
  | v :: rest, w => by
    rw [Value.writeItems, Value.writeItems_eq_putAll rest, Value.write_eq_putAll v]
    apply Xml.Writer.ext_toList
    simp [Value.toXmlOfItems, Xml.Element.markupAll]

theorem Value.writeMembers_eq_putAll : ∀ (members : List (String × Value)) (w : Xml.Writer),
    Value.writeMembers members w = w.putAll (Value.toXmlOfMembers members)
  | [], w => by
    apply Xml.Writer.ext_toList
    simp [Value.writeMembers, Value.toXmlOfMembers, Xml.Element.markupAll]
  | (name, v) :: rest, w => by
    rw [Value.writeMembers, Value.writeMembers_eq_putAll rest, Value.write_eq_putAll v]
    apply Xml.Writer.ext_toList
    simp [Writer.startMember, Writer.endMember, Xml.Writer.startMember, Value.toXmlOfMembers,
      Xml.Element.markupAll, Xml.Element.node, Xml.Element.leaf, Xml.Element.markup, Xml.escape]

end

theorem Kind.isPlainName (kind : Kind) : Xml.isPlainName kind.name.toList = true := by
  cases kind <;> decide

mutual

theorem Value.plain_toXml : ∀ v : Value, v.toXml.Plain
  | .atom a => ⟨by decide, ⟨a.kind.isPlainName, trivial⟩, trivial⟩
  | .array items => ⟨by decide, ⟨by decide, ⟨by decide, Value.plain_toXmlOfItems items⟩, trivial⟩, trivial⟩
  | .struct members => ⟨by decide, ⟨by decide, Value.plain_toXmlOfMembers members⟩, trivial⟩

theorem Value.plain_toXmlOfItems : ∀ items : List Value, Xml.Element.PlainAll (Value.toXmlOfItems items)
  | [] => trivial
  | v :: rest => ⟨v.plain_toXml, Value.plain_toXmlOfItems rest⟩

theorem Value.plain_toXmlOfMembers : ∀ members : List (String × Value),
    Xml.Element.PlainAll (Value.toXmlOfMembers members)
  | [] => trivial
  | (_, v) :: rest => ⟨⟨by decide, ⟨by decide, trivial⟩, v.plain_toXml, trivial⟩, Value.plain_toXmlOfMembers rest⟩

end

end RemoteCall
