import RemoteCall.Proofs.Document
import RemoteCall.Proofs.Xml.Message

namespace RemoteCall

theorem Xml.Element.read_document {e : Xml.Element} {text : String} (plain : e.Plain)
    (depth : e.depth ≤ Xml.maxDepth) (written : text.toList = Xml.declaration ++ e.markup) :
    Document.read .xml text.toUTF8 = .ok (.xml e) :=
  Document.read_xml (written ▸ (Xml.Element.ofDocument_markup plain depth).2)

theorem Format.toList_writeValue_xml (v : Value) :
    (Format.writeValue .xml v).toList = Xml.declaration ++ v.toXml.markup := by
  simp only [Format.writeValue, Value.writeDocument_eq_putDocument, Xml.Writer.toList_putDocument,
    String.toList_empty, List.nil_append]

theorem Format.toList_writeRequest_xml (r : Request) :
    (Format.writeRequest .xml r).toList = Xml.declaration ++ r.toXml.markup := by
  simp only [Format.writeRequest, Request.write_eq_putDocument, Xml.Writer.toList_putDocument,
    String.toList_empty, List.nil_append]

theorem Format.toList_writeResponse_xml (r : Response) :
    (Format.writeResponse .xml r).toList = Xml.declaration ++ r.toXml.markup := by
  simp only [Format.writeResponse, Response.write_eq_putDocument, Xml.Writer.toList_putDocument,
    String.toList_empty, List.nil_append]

/-- The atoms that come back from XML as they are: date/times of whole seconds and four-digit years, with a leap second
at second 59 only, and numbers whose text reads back. -/
def Atom.XmlExact : Atom → Prop
  | .dateTime t => (t.nanosecond = 0 ∨ t.nanosecond = 1000000000) ∧ t.LeapAt59 ∧ 0 ≤ t.year ∧ t.year ≤ 9999
  | .double x => Double.ofText? (x.text .display) = some x
  | _ => True

/-- A value whose structs are in order and whose atoms come back from XML as they are. -/
def Value.XmlExact (v : Value) : Prop :=
  v.Ordered ∧ ∀ a ∈ v.atoms, a.XmlExact

theorem Atom.XmlExact.readable {a : Atom} (exact : a.XmlExact) : a.XmlReadable := by
  cases a with
  | dateTime t => exact exact.2
  | double x => exact exact
  | _ => trivial

theorem Atom.XmlExact.whole {a : Atom} (exact : a.XmlExact) : a.wholeSeconds = a := by
  cases a with
  | dateTime t => exact congrArg Atom.dateTime (DateTime.wholeSecond_eq_self_iff.mpr exact.1)
  | _ => rfl

theorem Value.XmlExact.readable {v : Value} (exact : v.XmlExact) : ∀ a ∈ v.atoms, a.XmlReadable :=
  fun a member => (exact.2 a member).readable

theorem Value.XmlExact.whole {v : Value} (exact : v.XmlExact) : v.wholeSeconds = v :=
  Value.wholeSeconds_eq_self exact.1 fun a member => (exact.2 a member).whole

theorem Value.read_writeValue_xml {v : Value} (depth : v.toXml.depth ≤ Xml.maxDepth)
    (readable : ∀ a ∈ v.atoms, a.XmlReadable) :
    (Document.read .xml (Format.writeValue .xml v).toUTF8).bind Document.value = .ok v.wholeSeconds := by
  rw [Xml.Element.read_document v.plain_toXml depth (Format.toList_writeValue_xml v)]
  simp only [Except.bind, Document.value, v.read_toXml readable, Except.mapError]

/-- A value is read also where no declaration stands in front of it. -/
theorem Value.read_write_xml {v : Value} (depth : v.toXml.depth ≤ Xml.maxDepth)
    (readable : ∀ a ∈ v.atoms, a.XmlReadable) :
    (Document.read .xml (v.write ({} : Xml.Writer)).text.toUTF8).bind Document.value = .ok v.wholeSeconds := by
  have bare : (v.write ({} : Xml.Writer)).text.toList = v.toXml.markup := by
    simp [Value.write_eq_putAll v, Xml.Element.markupAll]
  rw [Document.read_xml (bare ▸ (Xml.Element.ofDocument_markup v.plain_toXml depth).1)]
  simp only [Except.bind, Document.value, v.read_toXml readable, Except.mapError]

theorem Request.read_writeRequest_xml {r : Request} (named : r.method ≠ "") (trimmed : trim r.method = r.method)
    (depth : r.toXml.depth ≤ Xml.maxDepth) (readable : ∀ v ∈ r.params, ∀ a ∈ v.atoms, a.XmlReadable) :
    (Document.read .xml (Format.writeRequest .xml r).toUTF8).bind Document.request =
      .ok { method := r.method, params := r.params.map Value.wholeSeconds } := by
  rw [Xml.Element.read_document r.plain_toXml depth (Format.toList_writeRequest_xml r)]
  simp only [Except.bind, Document.request, Request.read_toXml named trimmed readable, Except.mapError]

theorem Response.read_writeResponse_xml {r : Response} (depth : r.toXml.depth ≤ Xml.maxDepth)
    (readable : ∀ v, r.result = .ok v → ∀ a ∈ v.atoms, a.XmlReadable) :
    (Document.read .xml (Format.writeResponse .xml r).toUTF8).bind Document.response =
      .ok { result := r.result.map Value.wholeSeconds } := by
  rw [Xml.Element.read_document r.plain_toXml depth (Format.toList_writeResponse_xml r)]
  simp only [Except.bind, Document.response, Response.read_toXml readable, Except.mapError]

/-- Whatever is written in XML is read back as it was, where no more elements are open at a time than
the reader allows: values, calls but for their ids, and answers of both kinds but for their ids. -/
theorem Xml.document_round_trip :
    (∀ v : Value, v.XmlExact → v.toXml.depth ≤ Xml.maxDepth →
      (Document.read .xml (Format.writeValue .xml v).toUTF8).bind Document.value = .ok v ∧
      (Document.read .xml (v.write ({} : Xml.Writer)).text.toUTF8).bind Document.value = .ok v) ∧
    (∀ r : Request, r.method ≠ "" → trim r.method = r.method → (∀ v ∈ r.params, v.XmlExact) →
      r.toXml.depth ≤ Xml.maxDepth →
      (Document.read .xml (Format.writeRequest .xml r).toUTF8).bind Document.request =
        .ok { r with id := .nil }) ∧
    (∀ r : Response, (∀ v, r.result = .ok v → v.XmlExact) → r.toXml.depth ≤ Xml.maxDepth →
      (Document.read .xml (Format.writeResponse .xml r).toUTF8).bind Document.response =
        .ok { r with id := .nil }) := by
  refine ⟨fun v exact depth => ?_, fun r named trimmed exact depth => ?_, fun r exact depth => ?_⟩
  · rw [Value.read_writeValue_xml depth exact.readable, Value.read_write_xml depth exact.readable, exact.whole]
    exact ⟨rfl, rfl⟩
  · have params : r.params.map Value.wholeSeconds = r.params :=
      map_eq_self_iff.mpr fun v member => (exact v member).whole
    rw [Request.read_writeRequest_xml named trimmed depth fun v member => (exact v member).readable, params]
  · have result : r.result.map Value.wholeSeconds = r.result :=
      map_result_eq_self fun v same => (exact v same).whole
    rw [Response.read_writeResponse_xml depth fun v same => (exact v same).readable, result]

/-- A leap second, a number and text with markup and blanks. -/
def Xml.sampleItems : List Atom :=
  [.dateTime DateTime.leapSecond, .double ⟨0x4004000000000000, by decide⟩, .string " <a>]]>\r"]

theorem Xml.document_round_trip_sample :
    (Document.read .xml (Format.writeValue .xml (.array (Xml.sampleItems.map .atom))).toUTF8).bind Document.value =
      .ok (.array (Xml.sampleItems.map .atom)) ∧
    (Document.read .xml (Format.writeRequest .xml ⟨"add", [.int32 2], .nil⟩).toUTF8).bind Document.request =
      .ok ⟨"add", [.int32 2], .nil⟩ ∧
    (Document.read .xml (Format.writeResponse .xml ⟨.error ⟨-3, ""⟩, .nil⟩).toUTF8).bind Document.response =
      .ok ⟨.error ⟨-3, ""⟩, .nil⟩ := by
  have exact : (Value.array (Xml.sampleItems.map .atom)).XmlExact := by
    refine ⟨⟨trivial, trivial, trivial, trivial⟩, fun a member => ?_⟩
    have atoms : (Value.array (Xml.sampleItems.map .atom)).atoms = Xml.sampleItems := rfl
    rw [atoms] at member
    simp only [Xml.sampleItems, List.mem_cons, List.not_mem_nil, or_false] at member
    rcases member with rfl | rfl | rfl
    · exact ⟨Or.inr rfl, fun _ => rfl, by decide, by decide⟩
    · have read : Double.ofText? ((⟨0x4004000000000000, by decide⟩ : Double).text .display) =
          some ⟨0x4004000000000000, by decide⟩ := by decide +kernel
      exact read
    · trivial
  refine ⟨(Xml.document_round_trip.1 _ exact (by decide)).1,
    Xml.document_round_trip.2.1 ⟨"add", [.int32 2], .nil⟩ (by decide) (by decide) (fun v member => ?_) (by decide),
    Xml.document_round_trip.2.2 ⟨.error ⟨-3, ""⟩, .nil⟩ (fun v same => by cases same) (by decide)⟩
  rw [List.mem_singleton.mp member]
  exact ⟨trivial, fun a inside => by rw [List.mem_singleton.mp inside]; trivial⟩

end RemoteCall
