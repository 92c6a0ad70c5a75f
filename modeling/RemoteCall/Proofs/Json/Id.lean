import RemoteCall.Proofs.Call

namespace RemoteCall

/-- A string that is taken for a date/time, and is not the text that this date/time is written with. -/
def Json.Respelled : Json → Prop
  | .string s => ∃ t, DateTime.ofText? s.toList = some t ∧ trim s = s ∧ String.ofList t.text ≠ s
  | _ => False

/-- The ids that identify a call: strings, and whole numbers of 64 bits. -/
def Json.Identifies : Json → Prop
  | .string _ => True
  | .number (.whole n) => -9223372036854775808 ≤ n ∧ n ≤ 9223372036854775807
  | _ => False

theorem Json.Number.toJson_toAtom {n : Int} (lower : -9223372036854775808 ≤ n) (upper : n ≤ 9223372036854775807) :
    (Json.Number.whole n).toAtom.toJson = .number (.whole n) := by
  by_cases narrow : -2147483648 ≤ n ∧ n ≤ 2147483647
  · have same : (Int32.ofInt n).toInt = n := Int32.toInt_ofInt_of_le narrow.1 (by omega)
    simp only [Json.Number.toAtom, Digits.fit32?, narrow, and_self, if_true, Atom.toJson, same]
  · have same : (Int64.ofInt n).toInt = n := Int64.toInt_ofInt_of_le lower (by omega)
    simp only [Json.Number.toAtom, Digits.fit32?_eq_none_iff.mpr narrow, Digits.fit64?, lower, upper, and_self, if_true,
      Atom.toJson, same]

theorem Atom.toJson_ofText_iff {s : String} : (Atom.ofText s).toJson = .string s ↔ ¬(Json.string s).Respelled := by
  cases read : DateTime.ofText? s.toList with
  | none => simp [Atom.ofText, read, Atom.toJson, Json.Respelled]
  | some t =>
    by_cases bare : trim s = s
    · simp [Atom.ofText, read, bare, Atom.toJson, Json.Respelled]
    · simp [Atom.ofText, read, bare, Atom.toJson, Json.Respelled]

/-- An id comes back as it was exactly if it is not respelled. -/
theorem Json.toJson_toValue_iff {id : Json} (identifies : id.Identifies) : id.toValue.toJson = id ↔ ¬id.Respelled := by
  unfold Json.Identifies at identifies
  split at identifies
  · exact Atom.toJson_ofText_iff
  · exact iff_of_true (Json.Number.toJson_toAtom identifies.1 identifies.2) nofun
  · exact identifies.elim

theorem Json.Identifies.isId {id : Json} (identifies : id.Identifies) : id.IsId := by
  unfold Json.Identifies at identifies
  split at identifies
  · trivial
  · trivial
  · exact identifies.elim

theorem Json.toValue_ne_nil {id : Json} (identifies : id.Identifies) : id.toValue.isNil = false := by
  unfold Json.Identifies at identifies
  split at identifies
  · rw [Json.toValue, Atom.ofText]
    split
    · split <;> rfl
    · rfl
  · rw [Json.toValue, Json.Number.toAtom]
    split
    · rfl
    · split <;> rfl
  · exact identifies.elim

theorem Json.id_of_request {members : List (String × Json)} {request : Request} {id : Json} (identifies : id.Identifies)
    (found : Members.find? "id" members = some id) (decoded : (Json.object members).request = .ok request) :
    request.id = id.toValue := by
  have id := Json.messageId_of_find? identifies.isId found
  by_cases version : (Members.find? "jsonrpc" members).bind Json.asString? = some "2.0"
  · simp only [Json.request, Json.envelope, version, if_true, bind, Except.bind, id] at decoded
    split at decoded
    · cases decoded
    · split at decoded
      · cases decoded
      · cases decoded
        rfl
  · simp only [Json.request, Json.envelope, version, if_false, bind, Except.bind] at decoded
    cases decoded

/-- Every answer has its id in one member, whatever became of the call. -/
theorem Response.find?_id_toJson (r : Response) :
    ∃ members, r.toJson = .object members ∧ Members.find? "id" members = some r.id.toJson := by
  obtain ⟨result, id⟩ := r
  cases result with
  | ok v => exact ⟨_, rfl, Json.find?_answer (by decide)⟩
  | error f => exact ⟨_, rfl, Json.find?_answer (by decide)⟩

variable {σ : Type}

/-- The answer to a call with an id has an id, whatever the call comes to, and it is the one of the call exactly
if that is no date/time in a spelling of its own. Whole numbers and all other strings come back as they were. -/
theorem Json.id_of_answer {r : Registry σ} {body : ByteArray} {s : σ} {members : List (String × Json)}
    {request : Request} {id : Json} (read : Document.read .json body = .ok (.json (.object members)))
    (decoded : (Json.object members).request = .ok request) (found : Members.find? "id" members = some id)
    (identifies : id.Identifies) :
    ∃ answer back, (Format.process .json r body s).1 = some (Json.object answer).render ∧
      Members.find? "id" answer = some back ∧ (back = id ↔ ¬id.Respelled) := by
  have same := Json.id_of_request identifies found decoded
  have call : (Document.read .json body).bind Document.request = .ok request := by
    simp only [read, Except.bind, Document.request, decoded, Except.mapError]
  have wanted : (Format.usesId .json && request.isNotification) = false := by
    rw [Request.isNotification, same, Json.toValue_ne_nil identifies, Bool.and_false]
  obtain ⟨answer, form, back⟩ :=
    (r.invoke request.method request.params request.id s).1.find?_id_toJson
  refine ⟨answer, _, ?_, back, ?_⟩
  · rw [Format.process_of_read call wanted, Format.writeResponse_json, form]
  · rw [Registry.id_invoke, same]
    exact Json.toJson_toValue_iff identifies

/-- A call whose id leaves out zeros of a time of day. -/
def Json.respelledCall : List (String × Json) :=
  [("id", .string "19980717T1:2:3"), Json.version, ("method", .string "absent")]

/-- The answer spells the id with all of its zeros. -/
theorem Json.id_of_answer_respelled : ∃ answer back,
    (Format.process .json (Registry.new Unit) (Json.object Json.respelledCall).render.toUTF8 ()).1 =
      some (Json.object answer).render ∧
    Members.find? "id" answer = some back ∧ back ≠ .string "19980717T1:2:3" := by
  have readable : (Json.object Json.respelledCall).Readable := by
    have ordered : Members.Ordered Json.respelledCall := by
      unfold Members.Ordered
      decide
    exact ⟨ordered, trivial, trivial, trivial, trivial⟩
  have read := Json.read_document readable (by decide)
  have shown : (DateTime.ofText? "19980717T1:2:3".toList).map DateTime.text = some "19980717T01:02:03".toList := by
    decide +kernel
  obtain ⟨t, atText, text⟩ := Option.map_eq_some_iff.mp shown
  have respelled : (Json.string "19980717T1:2:3").Respelled :=
    ⟨t, atText, by decide +kernel, by rw [text]; decide⟩
  obtain ⟨answer, back, written, found, same⟩ :=
    Json.id_of_answer (r := Registry.new Unit) (s := ()) read rfl rfl trivial
  exact ⟨answer, back, written, found, fun equal => same.mp equal respelled⟩

end RemoteCall
