import RemoteCall.Json.Message
import RemoteCall.Proofs.Json.Coding
import RemoteCall.Proofs.Json.Writing

namespace RemoteCall

/-- The values that can be the id of a message. -/
def Value.IsId : Value → Prop
  | .nil | .string _ | .int32 _ | .int64 _ | .double _ | .dateTime _ => True
  | _ => False

/-- What can stand as the id in a document. -/
def Json.IsId : Json → Prop
  | .null | .string _ | .number _ => True
  | _ => False

theorem Value.IsId.toJson {id : Value} (isId : id.IsId) : id.toJson.IsId := by
  unfold Value.IsId at isId
  split at isId
  · trivial
  · trivial
  · trivial
  · trivial
  · rw [Value.toJson, Atom.toJson]
    split <;> trivial
  · trivial
  · exact isId.elim

theorem Json.callMembers_nil (method : String) :
    Json.callMembers method .nil = [Json.version, ("method", .string method)] := by
  have inOrder : "jsonrpc" < "method" := by decide
  exact Members.ofList_of_ordered (List.pairwise_pair.mpr inOrder)

theorem Json.callMembers_id {id : Value} (named : id ≠ .nil) (method : String) :
    Json.callMembers method id = [("id", id.toJson), Json.version, ("method", .string method)] := by
  have form : Json.callMembers method id =
      Members.ofList ([Json.version, ("method", .string method)] ++ [("id", id.toJson)]) := by
    unfold Json.callMembers
    split
    · exact absurd rfl named
    · rfl
  have first : "id" < Json.version.1 := by decide
  have inOrder : Members.ofList [Json.version, ("method", .string method)] =
    [Json.version, ("method", .string method)] := Json.callMembers_nil method
  rw [form, Members.ofList_append_singleton, inOrder, Members.insert, if_pos first]

theorem Json.answerMembers_eq (id : Value) : Json.answerMembers id = [("id", id.toJson), Json.version] := by
  have first : "id" < Json.version.1 := by decide
  have form : Json.answerMembers id = Members.ofList ([Json.version] ++ [("id", id.toJson)]) := rfl
  have single : Members.ofList [Json.version] = [Json.version] := rfl
  rw [form, Members.ofList_append_singleton, single, Members.insert, if_pos first]

theorem Json.messageId_of_find? {members : List (String × Json)} {id : Json} (isId : id.IsId)
    (found : Members.find? "id" members = some id) : Json.messageId members = .ok id.toValue := by
  cases id with
  | null => simp only [Json.messageId, found, Json.toValue]
  | string s => simp only [Json.messageId, found]
  | number n => simp only [Json.messageId, found]
  | boolean | array | object => exact isId.elim

theorem Json.envelope_object {members : List (String × Json)} (problem : Json.Problem)
    (version : Members.find? "jsonrpc" members = some (.string "2.0")) :
    (Json.object members).envelope problem = .ok members := by
  simp only [Json.envelope, version, Option.bind_some, Json.asString?, if_true]

theorem Json.messageId_of_none {members : List (String × Json)} (absent : Members.find? "id" members = none) :
    Json.messageId members = .ok .nil := by
  simp only [Json.messageId, absent]

theorem Json.find?_params {method : String} {params : Json} {id : Value} {name : String} (other : name ≠ "params") :
    Members.find? name (Members.insert "params" params (Json.callMembers method id)) =
      Members.find? name (Json.callMembers method id) := by
  rw [Members.find?_insert, if_neg other.symm]

/-- The id of a call is read from its document, also where there is none. -/
theorem Json.messageId_callMembers {method : String} {params : Json} {id : Value} (isId : id.IsId) :
    Json.messageId (Members.insert "params" params (Json.callMembers method id)) = .ok id.toJson.toValue := by
  by_cases named : id = .nil
  · subst named
    refine Json.messageId_of_none ?_
    rw [Json.find?_params (by decide), Json.callMembers_nil]
    rfl
  · refine Json.messageId_of_find? isId.toJson ?_
    rw [Json.find?_params (by decide), Json.callMembers_id named]
    rfl

/-- A call is read as it was, but for what its parameters and its id lose. -/
theorem Request.read_toJson {r : Request} (isId : r.id.IsId) :
    r.toJson.request = .ok
      { method := r.method, params := r.params.map fun v => v.toJson.toValue, id := r.id.toJson.toValue } := by
  obtain ⟨method, params, id⟩ := r
  have stored (name : String) (other : name ≠ "params") (absent : name ≠ "id") :
      Members.find? name (Members.insert "params" (.array (Value.toJsonItems params)) (Json.callMembers method id)) =
        Members.find? name [Json.version, ("method", .string method)] := by
    rw [Json.find?_params other]
    by_cases named : id = .nil
    · rw [named, Json.callMembers_nil]
    · rw [Json.callMembers_id named, Members.find?, if_neg absent.symm]
  have version := stored "jsonrpc" (by decide) (by decide)
  have named := stored "method" (by decide) (by decide)
  have given : Members.find? "params"
      (Members.insert "params" (.array (Value.toJsonItems params)) (Json.callMembers method id)) =
        some (.array (Value.toJsonItems params)) := by
    rw [Members.find?_insert, if_pos rfl]
  rw [Request.toJson, Json.request, Json.envelope_object _ version]
  simp only [bind, Except.bind, named, Json.parameters, given, Json.messageId_callMembers isId,
    Json.toValues_toJsonItems]
  rfl

theorem Fault.faultOf_toJson (f : Fault) : Json.faultOf f.toJson = .ok f := by
  have code : Members.find? "code" [("code", Json.number (.whole f.code.toInt)), ("message", .string f.message)] =
    some (.number (.whole f.code.toInt)) := rfl
  have message : Members.find? "message"
      [("code", Json.number (.whole f.code.toInt)), ("message", .string f.message)] = some (.string f.message) := rfl
  simp only [Fault.toJson, Json.faultOf, code, message, Option.bind_some, Json.asInt32?, Json.asString?,
    Digits.fit32?_toInt]

theorem Json.find?_answer {body : Json} {id : Value} {key name : String} (other : key ≠ name) :
    Members.find? name (Members.insert key body (Json.answerMembers id)) =
      Members.find? name [("id", id.toJson), Json.version] := by
  rw [Members.find?_insert, if_neg other, Json.answerMembers_eq]

theorem Json.envelope_answer {body : Json} {id : Value} {key : String} (problem : Json.Problem)
    (other : key ≠ "jsonrpc") :
    (Json.object (Members.insert key body (Json.answerMembers id))).envelope problem =
      .ok (Members.insert key body (Json.answerMembers id)) :=
  Json.envelope_object problem (Json.find?_answer other)

theorem Json.messageId_answer {body : Json} {id : Value} {key : String} (isId : id.IsId) (other : key ≠ "id") :
    Json.messageId (Members.insert key body (Json.answerMembers id)) = .ok id.toJson.toValue :=
  Json.messageId_of_find? isId.toJson (Json.find?_answer other)

/-- An answer is read as it was, but for what its result and its id lose. -/
theorem Response.read_toJson {r : Response} (isId : r.id.IsId) :
    r.toJson.response = .ok
      { result := r.result.map fun v => v.toJson.toValue, id := r.id.toJson.toValue } := by
  obtain ⟨result, id⟩ := r
  cases result with
  | ok v =>
    have result : Members.find? "result" (Members.insert "result" v.toJson (Json.answerMembers id)) =
        some v.toJson := by
      rw [Members.find?_insert, if_pos rfl]
    rw [Response.toJson, Json.response, Json.envelope_answer _ (by decide)]
    simp only [bind, Except.bind, Json.messageId_answer isId (show "result" ≠ "id" by decide), result]
    rfl
  | error f =>
    have result : Members.find? "result" (Members.insert "error" f.toJson (Json.answerMembers id)) =
      none := Json.find?_answer (by decide)
    have error : Members.find? "error" (Members.insert "error" f.toJson (Json.answerMembers id)) =
        some f.toJson := by
      rw [Members.find?_insert, if_pos rfl]
    rw [Response.toJson, Json.response, Json.envelope_answer _ (by decide)]
    simp only [bind, Except.bind, Json.messageId_answer isId (show "error" ≠ "id" by decide), result, error,
      f.faultOf_toJson]
    rfl

theorem Json.readable_insert {name : String} {j : Json} {members : List (String × Json)} (readable : j.Readable)
    (others : (Json.object members).Readable) : (Json.object (Members.insert name j members)).Readable := by
  obtain ⟨ordered, parts⟩ := Json.readable_object_iff.mp others
  refine Json.readable_object_iff.mpr ⟨ordered.insert name j, fun entry member => ?_⟩
  rcases Members.mem_insert member with rfl | old
  · exact readable
  · exact parts entry old

theorem Json.readable_ofList {members : List (String × Json)} (readable : ∀ entry ∈ members, entry.2.Readable) :
    (Json.object (Members.ofList members)).Readable :=
  Json.readable_object_iff.mpr ⟨Members.ordered_ofList members, fun entry member =>
    readable entry (Members.mem_ofList member)⟩

theorem Request.readable_toJson {r : Request} (params : ∀ v ∈ r.params, ∀ a ∈ v.atoms, a.JsonReadable)
    (id : ∀ a ∈ r.id.atoms, a.JsonReadable) : r.toJson.Readable := by
  have version : Json.version.2.Readable := trivial
  have method : (Json.string r.method).Readable := trivial
  have items : (Json.array (Value.toJsonItems r.params)).Readable := by
    rw [Json.readable_array_iff, Value.toJsonItems_eq_map]
    intro j member
    obtain ⟨v, inside, rfl⟩ := List.mem_map.mp member
    exact Value.readable_toJson (params v inside)
  refine Json.readable_insert items (Json.readable_ofList ?_)
  split
  · simp [version, method]
  · simp [version, method, Value.readable_toJson id]

theorem Fault.readable_toJson (f : Fault) : f.toJson.Readable := by
  have inOrder : "code" < "message" := by decide
  exact ⟨List.pairwise_pair.mpr inOrder, Json.Number.reads_int32 f.code, trivial, trivial⟩

theorem Response.readable_toJson {r : Response} (result : ∀ v, r.result = .ok v → ∀ a ∈ v.atoms, a.JsonReadable)
    (id : ∀ a ∈ r.id.atoms, a.JsonReadable) : r.toJson.Readable := by
  have envelope : (Json.object (Json.answerMembers r.id)).Readable := by
    have version : Json.version.2.Readable := trivial
    refine Json.readable_ofList ?_
    simp [version, Value.readable_toJson id]
  obtain ⟨outcome, id⟩ := r
  cases outcome with
  | ok v => exact Json.readable_insert (Value.readable_toJson (result v rfl)) envelope
  | error f => exact Json.readable_insert f.readable_toJson envelope

end RemoteCall
