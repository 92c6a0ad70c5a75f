import RemoteCall.Proofs.Document
import RemoteCall.Proofs.Json.Message

namespace RemoteCall

theorem Json.read_document {j : Json} (readable : j.Readable) (depth : j.depth ≤ Json.maxDepth) :
    Document.read .json j.render.toUTF8 = .ok (.json j) := by
  refine Document.read_json ?_
  rw [Json.render, String.toList_ofList]
  exact Json.parse?_text readable depth

theorem Format.writeValue_json (v : Value) : Format.writeValue .json v = v.toJson.render :=
  v.text_writeDocument {}

theorem Format.writeRequest_json (r : Request) : Format.writeRequest .json r = r.toJson.render :=
  r.text_write {}

theorem Format.writeResponse_json (r : Response) : Format.writeResponse .json r = r.toJson.render :=
  r.text_write {}

/-- A value whose structs are in order and whose atoms come back from JSON as they are. -/
def Value.JsonExact (v : Value) : Prop :=
  v.Ordered ∧ ∀ a ∈ v.atoms, a.JsonReadable ∧ ¬a.Lossy

theorem Value.JsonExact.readable {v : Value} (exact : v.JsonExact) : ∀ a ∈ v.atoms, a.JsonReadable :=
  fun a member => (exact.2 a member).1

theorem Value.JsonExact.toValue_toJson {v : Value} (exact : v.JsonExact) : v.toJson.toValue = v :=
  (Value.toValue_toJson_iff exact.1).mpr fun a member => (exact.2 a member).2

theorem Value.read_writeValue_json {v : Value} (depth : v.depth ≤ Json.maxDepth)
    (readable : ∀ a ∈ v.atoms, a.JsonReadable) :
    (Document.read .json (Format.writeValue .json v).toUTF8).bind Document.value = .ok v.toJson.toValue := by
  rw [Format.writeValue_json, Json.read_document (Value.readable_toJson readable)
    (Nat.le_trans v.depth_toJson_le depth)]
  rfl

theorem Request.read_writeRequest_json {r : Request} (isId : r.id.IsId) (depth : r.toJson.depth ≤ Json.maxDepth)
    (params : ∀ v ∈ r.params, ∀ a ∈ v.atoms, a.JsonReadable) (id : ∀ a ∈ r.id.atoms, a.JsonReadable) :
    (Document.read .json (Format.writeRequest .json r).toUTF8).bind Document.request = .ok
      { method := r.method, params := r.params.map fun v => v.toJson.toValue, id := r.id.toJson.toValue } := by
  rw [Format.writeRequest_json, Json.read_document (Request.readable_toJson params id) depth]
  simp only [Except.bind, Document.request, Request.read_toJson isId, Except.mapError]

theorem Response.read_writeResponse_json {r : Response} (isId : r.id.IsId)
    (depth : r.toJson.depth ≤ Json.maxDepth)
    (result : ∀ v, r.result = .ok v → ∀ a ∈ v.atoms, a.JsonReadable) (id : ∀ a ∈ r.id.atoms, a.JsonReadable) :
    (Document.read .json (Format.writeResponse .json r).toUTF8).bind Document.response = .ok
      { result := r.result.map fun v => v.toJson.toValue, id := r.id.toJson.toValue } := by
  rw [Format.writeResponse_json, Json.read_document (Response.readable_toJson result id) depth]
  simp only [Except.bind, Document.response, Response.read_toJson isId, Except.mapError]

/-- Every value is read back from JSON, and as it was exactly if none of its atoms is of those that JSON
does not keep. Calls and answers of which nothing is lost are read back as they were, with their ids. -/
theorem Json.read_back_iff_not_lossy :
    (∀ v : Value, v.Ordered → v.depth ≤ Json.maxDepth → (∀ a ∈ v.atoms, a.JsonReadable) →
      ∃ back, (Document.read .json (Format.writeValue .json v).toUTF8).bind Document.value = .ok back ∧
        (back = v ↔ ∀ a ∈ v.atoms, ¬a.Lossy)) ∧
    (∀ r : Request, (∀ v ∈ r.params, v.JsonExact) → r.id.IsId → r.id.JsonExact →
      r.toJson.depth ≤ Json.maxDepth →
      (Document.read .json (Format.writeRequest .json r).toUTF8).bind Document.request = .ok r) ∧
    (∀ r : Response, (∀ v, r.result = .ok v → v.JsonExact) → r.id.IsId → r.id.JsonExact →
      r.toJson.depth ≤ Json.maxDepth →
      (Document.read .json (Format.writeResponse .json r).toUTF8).bind Document.response = .ok r) := by
  refine ⟨fun v ordered depth readable => ?_, fun r exact isId idExact depth => ?_,
    fun r exact isId idExact depth => ?_⟩
  · exact ⟨_, Value.read_writeValue_json depth readable, Value.toValue_toJson_iff ordered⟩
  · have params : (r.params.map fun v => v.toJson.toValue) = r.params :=
      map_eq_self_iff.mpr fun v member => (exact v member).toValue_toJson
    rw [Request.read_writeRequest_json isId depth (fun v member => (exact v member).readable) idExact.readable,
      params, idExact.toValue_toJson]
  · have result : (r.result.map fun v => v.toJson.toValue) = r.result :=
      map_result_eq_self fun v same => (exact v same).toValue_toJson
    rw [Response.read_writeResponse_json isId depth (fun v same => (exact v same).readable) idExact.readable,
      result, idExact.toValue_toJson]

/-- A number that needs 64 bits stays and bytes do not; a call and a fault stay as they are. -/
theorem Json.read_back_sample :
    (∃ back, (Document.read .json (Format.writeValue .json (.array [.int64 4294967296, .nil])).toUTF8).bind
      Document.value = .ok back ∧ back = .array [.int64 4294967296, .nil]) ∧
    (∃ back, (Document.read .json (Format.writeValue .json (.base64 [7])).toUTF8).bind
      Document.value = .ok back ∧ back ≠ .base64 [7]) ∧
    (Document.read .json (Format.writeRequest .json ⟨"add", [.int32 2], .int32 1⟩).toUTF8).bind Document.request =
      .ok ⟨"add", [.int32 2], .int32 1⟩ ∧
    (Document.read .json (Format.writeResponse .json ⟨.error ⟨-3, "\n"⟩, .nil⟩).toUTF8).bind Document.response =
      .ok ⟨.error ⟨-3, "\n"⟩, .nil⟩ := by
  have plain (n : Int32) : (Value.int32 n).JsonExact :=
    ⟨trivial, fun a inside => by rw [List.mem_singleton.mp inside]; exact ⟨trivial, id⟩⟩
  have absent : Value.nil.JsonExact :=
    ⟨trivial, fun a inside => by rw [List.mem_singleton.mp inside]; exact ⟨trivial, id⟩⟩
  have wide : ∀ a ∈ (Value.array [.int64 4294967296, .nil]).atoms, a.JsonReadable ∧ ¬a.Lossy := by
    intro a member
    have listed : a = .int64 4294967296 ∨ a = .nil := by simpa [Value.atoms, Value.atomsOfItems] using member
    rcases listed with rfl | rfl
    · exact ⟨trivial, by decide⟩
    · exact ⟨trivial, id⟩
  have bytes : ∀ a ∈ (Value.base64 [7]).atoms, a.JsonReadable := fun a inside => by
    rw [List.mem_singleton.mp inside]
    trivial
  obtain ⟨back, read, same⟩ := Json.read_back_iff_not_lossy.1 (.array [.int64 4294967296, .nil])
    ⟨trivial, trivial, trivial⟩ (by decide) fun a member => (wide a member).1
  obtain ⟨other, otherRead, differ⟩ := Json.read_back_iff_not_lossy.1 (.base64 [7]) trivial (by decide) bytes
  refine ⟨⟨back, read, same.mpr fun a member => (wide a member).2⟩,
    ⟨other, otherRead, fun equal => differ.mp equal (.base64 [7]) (List.mem_singleton_self _) trivial⟩,
    Json.read_back_iff_not_lossy.2.1 ⟨"add", [.int32 2], .int32 1⟩ (fun v member => ?_) trivial (plain 1) (by decide),
    Json.read_back_iff_not_lossy.2.2 ⟨.error ⟨-3, "\n"⟩, .nil⟩ (fun v same => by cases same) trivial absent
      (by decide)⟩
  rw [List.mem_singleton.mp member]
  exact plain 2

/-- A leap second in the middle of a minute has a year of four digits and no fraction, and yet it does not come back:
it is written like the second behind it. -/
theorem Json.leap_in_minute_not_read_back :
    (0 ≤ DateTime.leapInMinute.year ∧ DateTime.leapInMinute.year ≤ 9999) ∧
      DateTime.leapInMinute.nanosecond = 1000000000 ∧
      (Value.dateTime DateTime.leapInMinute).Ordered ∧ (Value.dateTime DateTime.leapInMinute).depth ≤ Json.maxDepth ∧
      (∀ a ∈ (Value.dateTime DateTime.leapInMinute).atoms, a.JsonReadable) ∧
      ∃ back, (Document.read .json (Format.writeValue .json (.dateTime DateTime.leapInMinute)).toUTF8).bind
        Document.value = .ok back ∧ back ≠ .dateTime DateTime.leapInMinute := by
  have readable : ∀ a ∈ (Value.dateTime DateTime.leapInMinute).atoms, a.JsonReadable := fun a inside => by
    rw [List.mem_singleton.mp inside]
    trivial
  have lossy : (Atom.dateTime DateTime.leapInMinute).Lossy := by decide
  refine ⟨by decide, rfl, trivial, by decide, readable, _, Value.read_writeValue_json (by decide) readable,
    fun same => ?_⟩
  exact (Atom.toValue_toJson_iff (.dateTime DateTime.leapInMinute)).mp same lossy

end RemoteCall
