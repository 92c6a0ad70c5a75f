import RemoteCall.Proofs.Xml.Reading

namespace RemoteCall

/-- The document of a call. -/
def Request.toXml (r : Request) : Xml.Element :=
  .node "methodCall" [.leaf "methodName" r.method.toList,
    .node "params" (r.params.map fun v => .node "param" [v.toXml])]

/-- The document of an answer. -/
def Response.toXml (r : Response) : Xml.Element :=
  .node "methodResponse" [match r.result with
    | .ok v => .node "params" [.node "param" [v.toXml]]
    | .error f => .node "fault" [f.toValue.toXml]]

theorem Xml.Writer.startDocument_eq (w : Xml.Writer) :
    Writer.startDocument w = w.put (String.ofList Xml.declaration) :=
  rfl

/-- Appends a document that has the element as its outermost one. -/
def Xml.Writer.putDocument (e : Xml.Element) (w : Xml.Writer) : Xml.Writer :=
  (w.put (String.ofList Xml.declaration)).putAll [e]

@[simp] theorem Xml.Writer.toList_putDocument (e : Xml.Element) (w : Xml.Writer) :
    (w.putDocument e).text.toList = w.text.toList ++ (Xml.declaration ++ e.markup) := by
  simp [Xml.Writer.putDocument, Xml.Element.markupAll]

theorem Value.writeDocument_eq_putDocument (v : Value) (w : Xml.Writer) :
    v.writeDocument w = w.putDocument v.toXml :=
  Value.write_eq_putAll v (w.put (String.ofList Xml.declaration))

theorem Request.writeParameter_eq_putAll (v : Value) (w : Xml.Writer) :
    Request.writeParameter w v = w.putAll [.node "param" [v.toXml]] := by
  rw [Request.writeParameter, Value.write_eq_putAll v]
  apply Xml.Writer.ext_toList
  simp [Writer.startParameter, Writer.endParameter, Xml.Element.markupAll, Xml.Element.node,
    Xml.Element.markup, Xml.escape]

theorem Request.writeParameters_eq_putAll (params : List Value) (w : Xml.Writer) :
    params.foldl Request.writeParameter w = w.putAll (params.map fun v => .node "param" [v.toXml]) := by
  induction params generalizing w with
  | nil =>
    apply Xml.Writer.ext_toList
    simp [Xml.Element.markupAll]
  | cons v rest ih =>
    rw [List.foldl_cons, ih, Request.writeParameter_eq_putAll]
    apply Xml.Writer.ext_toList
    simp [Xml.Element.markupAll]

theorem Request.write_eq_putDocument (r : Request) (w : Xml.Writer) : r.write w = w.putDocument r.toXml := by
  rw [Request.write]
  simp only [Request.writeParameters_eq_putAll]
  apply Xml.Writer.ext_toList
  simp [Xml.Writer.startDocument_eq, Writer.startRequest, Writer.endRequest, Writer.endDocument, Request.toXml,
    Xml.Element.markupAll, Xml.Element.node, Xml.Element.leaf, Xml.Element.markup, Xml.escape]

/-- A fault is written the way its struct form is. -/
theorem Xml.Writer.fault_eq_putAll (f : Fault) (w : Xml.Writer) : w.fault f = w.putAll [f.toValue.toXml] := by
  apply Xml.Writer.ext_toList
  simp [Xml.Writer.fault, Xml.Writer.startMember, Xml.Writer.atom_eq, Xml.Writer.typed_eq, Fault.toValue,
    Value.toXml, Value.toXmlOfMembers, Xml.Element.markupAll, Xml.Element.node, Xml.Element.leaf,
    Xml.Element.markup, Xml.escape]

theorem Response.write_eq_putDocument (r : Response) (w : Xml.Writer) : r.write w = w.putDocument r.toXml := by
  obtain ⟨result, id⟩ := r
  apply Xml.Writer.ext_toList
  cases result with
  | ok v =>
    simp [Response.write, Value.write_eq_putAll v, Xml.Writer.startDocument_eq, Writer.startResponse,
      Writer.endResponse, Writer.endDocument, Response.toXml, Xml.Element.markupAll, Xml.Element.node,
      Xml.Element.markup, Xml.escape]
  | error f =>
    simp [Response.write, Writer.fault, Xml.Writer.fault_eq_putAll, Xml.Writer.startDocument_eq, Writer.startFault,
      Writer.endFault, Writer.endDocument, Response.toXml, Xml.Element.markupAll,
      Xml.Element.node, Xml.Element.markup, Xml.escape]

theorem Xml.Element.plainAll_map {α : Type} {f : α → Xml.Element} (plain : ∀ a, (f a).Plain) (xs : List α) :
    Xml.Element.PlainAll (xs.map f) := by
  induction xs with
  | nil => trivial
  | cons a rest ih => exact ⟨plain a, ih⟩

theorem Request.plain_toXml (r : Request) : r.toXml.Plain := by
  have param (v : Value) : (Xml.Element.node "param" [v.toXml]).Plain := ⟨by decide, v.plain_toXml, trivial⟩
  have params := Xml.Element.plainAll_map param r.params
  exact ⟨by decide, ⟨by decide, trivial⟩, ⟨by decide, params⟩, trivial⟩

theorem Response.plain_toXml (r : Response) : r.toXml.Plain := by
  obtain ⟨result, id⟩ := r
  cases result with
  | ok v => exact ⟨by decide, ⟨by decide, ⟨by decide, v.plain_toXml, trivial⟩, trivial⟩, trivial⟩
  | error f => exact ⟨by decide, ⟨by decide, f.toValue.plain_toXml, trivial⟩, trivial⟩

theorem Xml.Element.read_parameters {params : List Value}
    (readable : ∀ v ∈ params, ∀ a ∈ v.atoms, a.XmlReadable) :
    (Xml.Element.node "params" (params.map fun v => .node "param" [v.toXml])).parameters =
      .ok (params.map Value.wholeSeconds) := by
  have all : (params.map fun v => Xml.Element.node "param" [v.toXml]).filter (fun child => child.name == "param") =
      params.map fun v => Xml.Element.node "param" [v.toXml] := by
    refine List.filter_eq_self.mpr fun child member => ?_
    obtain ⟨v, _, rfl⟩ := List.mem_map.mp member
    rfl
  rw [Xml.Element.parameters, Xml.Element.node, all]
  clear all
  induction params with
  | nil => rfl
  | cons v rest ih =>
    have first : (Xml.Element.node "param" [v.toXml]).innerValue = .ok v.wholeSeconds :=
      v.read_toXml (readable v (List.mem_cons_self ..))
    have others := ih fun w member => readable w (List.mem_cons_of_mem _ member)
    rw [List.map_cons, List.mapM_cons, first, others]
    rfl

/-- A call is read as it was, but for its id and the fractions of seconds. -/
theorem Request.read_toXml {r : Request} (named : r.method ≠ "") (trimmed : trim r.method = r.method)
    (readable : ∀ v ∈ r.params, ∀ a ∈ v.atoms, a.XmlReadable) :
    r.toXml.request = .ok { method := r.method, params := r.params.map Value.wholeSeconds } := by
  have method : r.toXml.child? "methodName" = some (.leaf "methodName" r.method.toList) := rfl
  have params : r.toXml.child? "params" =
      some (.node "params" (r.params.map fun v => .node "param" [v.toXml])) := rfl
  have content : (Xml.Element.leaf "methodName" r.method.toList).content = r.method.toList := by
    rw [Xml.Element.content_leaf, trim_eq_self_iff.mp trimmed]
  have nonempty : r.method.toList.isEmpty = false := by simpa using named
  rw [Xml.Element.request, if_neg (by simp [Request.toXml, Xml.Element.node]), method, params, Option.map_some,
    content, Option.getD_some]
  simp only [nonempty, Bool.false_eq_true, if_false, Xml.Element.read_parameters readable, Except.map,
    String.ofList_toList]

theorem Fault.mem_atoms_toValue {f : Fault} {a : Atom} :
    a ∈ f.toValue.atoms ↔ a = .int32 f.code ∨ a = .string f.message := by
  simp [Fault.toValue, Value.atoms, Value.atomsOfMembers]

theorem Fault.ordered_toValue (f : Fault) : f.toValue.Ordered := by
  have inOrder : "faultCode" < "faultString" := by decide
  exact ⟨List.pairwise_pair.mpr inOrder, trivial, trivial, trivial⟩

/-- A fault is read from its struct form, whatever its code and its message. -/
theorem Fault.read_toXml (f : Fault) : f.toValue.toXml.value.bind Xml.faultOf = .ok f := by
  have plain : ∀ a ∈ f.toValue.atoms, a.XmlReadable := by
    intro a member
    rcases Fault.mem_atoms_toValue.mp member with rfl | rfl <;> trivial
  have whole : ∀ a ∈ f.toValue.atoms, a.wholeSeconds = a := by
    intro a member
    rcases Fault.mem_atoms_toValue.mp member with rfl | rfl <;> rfl
  rw [f.toValue.read_toXml plain, Value.wholeSeconds_eq_self f.ordered_toValue whole]
  rfl

theorem Response.read_toXml {r : Response} (readable : ∀ v, r.result = .ok v → ∀ a ∈ v.atoms, a.XmlReadable) :
    r.toXml.response = .ok { result := r.result.map Value.wholeSeconds } := by
  obtain ⟨result, id⟩ := r
  cases result with
  | ok v =>
    have value : (Xml.Element.node "param" [v.toXml]).innerValue = .ok v.wholeSeconds :=
      v.read_toXml (readable v rfl)
    have form : (Response.toXml ⟨.ok v, id⟩).response =
        (Xml.Element.node "param" [v.toXml]).innerValue.map fun v => { result := .ok v } := rfl
    rw [form, value]
    rfl
  | error f =>
    have form : (Response.toXml ⟨.error f, id⟩).response =
        (f.toValue.toXml.value.bind Xml.faultOf).map fun f => { result := .error f } := rfl
    rw [form, f.read_toXml]
    rfl

end RemoteCall
