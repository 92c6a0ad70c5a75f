import RemoteCall.Proofs.Json.RoundTrip
import RemoteCall.Proofs.Xml.RoundTrip

namespace RemoteCall

/-- What a value is after its way through a format. In XML only fractions of seconds are lost. -/
def Format.carried : Format → Value → Value
  | .xml => Value.wholeSeconds
  | .json => fun v => v.toJson.toValue

/-- The id that a call of this number has. -/
def Format.callId (format : Format) (number : Int32) : Value :=
  if format.usesId then .int32 number else .nil

/-- The atoms whose texts are read in a format: in XML years have four digits and leap seconds stand at second 59, and
the texts of numbers, of the finite ones in JSON, are read as these numbers. -/
def Format.Reads : Format → Atom → Prop
  | .xml => Atom.XmlReadable
  | .json => Atom.JsonReadable

/-- A call that a format can carry. -/
def Format.CarriesRequest (format : Format) (r : Request) : Prop :=
  (∀ v ∈ r.params, ∀ a ∈ v.atoms, format.Reads a) ∧
    match format with
    | .xml => r.method ≠ "" ∧ trim r.method = r.method ∧ r.toXml.depth ≤ Xml.maxDepth
    | .json => r.toJson.depth ≤ Json.maxDepth

/-- An answer that a format can carry. -/
def Format.CarriesResponse (format : Format) (r : Response) : Prop :=
  (∀ v, r.result = .ok v → ∀ a ∈ v.atoms, format.Reads a) ∧
    match format with
    | .xml => r.toXml.depth ≤ Xml.maxDepth
    | .json => r.toJson.depth ≤ Json.maxDepth

theorem Format.isId_callId (format : Format) (number : Int32) : (format.callId number).IsId := by
  cases format <;> trivial

theorem Format.carried_callId (format : Format) (number : Int32) :
    (format.callId number).toJson.toValue = format.callId number := by
  cases format with
  | xml => rfl
  | json => exact (Atom.toValue_toJson_iff (.int32 number)).mpr id

theorem Format.reads_callId (format : Format) (number : Int32) :
    ∀ a ∈ (format.callId number).atoms, a.JsonReadable := by
  intro a member
  cases format with
  | xml =>
    rw [List.mem_singleton.mp member]
    trivial
  | json =>
    rw [List.mem_singleton.mp member]
    trivial

/-- Every fault can be carried, whatever its code and its message, with an id that has no parts. -/
theorem Format.carriesResponse_error (format : Format) (f : Fault) {id : Value} (flat : id.toJson.depth = 0) :
    format.CarriesResponse ⟨.error f, id⟩ := by
  refine ⟨fun v same => (by cases same), ?_⟩
  cases format with
  | xml =>
    have depth : (Response.toXml ⟨.error f, id⟩).depth = 7 := rfl
    have bound : 7 ≤ Xml.maxDepth := by decide
    exact depth ▸ bound
  | json =>
    have inner : ∀ entry ∈ Members.insert "error" f.toJson (Json.answerMembers id), entry.2.depth ≤ 1 := by
      rw [Json.answerMembers_eq]
      intro entry member
      rcases Members.mem_insert member with rfl | old
      · exact Nat.le_refl _
      · have listed : entry = ("id", id.toJson) ∨ entry = Json.version := by simpa using old
        rcases listed with rfl | rfl
        · exact Nat.le_trans (Nat.le_of_eq flat) (Nat.zero_le _)
        · exact Nat.zero_le _
    exact Nat.le_trans (Nat.succ_le_succ (Json.depthOfMembers_le.mpr inner)) (by decide)

theorem Format.carriesResponse_fault (format : Format) (f : Fault) (number : Int32) :
    format.CarriesResponse ⟨.error f, format.callId number⟩ :=
  format.carriesResponse_error f (by cases format <;> rfl)

/-- A call arrives with its parameters as the format carries them. -/
theorem Format.read_writeRequest {format : Format} {method : String} {params : List Value} {number : Int32}
    (carries : format.CarriesRequest ⟨method, params, format.callId number⟩) :
    (Document.read format (format.writeRequest ⟨method, params, format.callId number⟩).toUTF8).bind
      Document.request = .ok ⟨method, params.map format.carried, format.callId number⟩ := by
  obtain ⟨readable, shape⟩ := carries
  cases format with
  | xml =>
    obtain ⟨named, trimmed, depth⟩ := shape
    exact Request.read_writeRequest_xml named trimmed depth readable
  | json =>
    have read := Request.read_writeRequest_json (Format.isId_callId .json number) shape readable
      (Format.reads_callId .json number)
    rw [read, Format.carried_callId]
    rfl

/-- An answer arrives with its result as the format carries it. -/
theorem Format.read_writeResponse {format : Format} {result : Except Fault Value} {number : Int32}
    (carries : format.CarriesResponse ⟨result, format.callId number⟩) :
    (Document.read format (format.writeResponse ⟨result, format.callId number⟩).toUTF8).bind
      Document.response = .ok ⟨result.map format.carried, format.callId number⟩ := by
  obtain ⟨readable, depth⟩ := carries
  cases format with
  | xml => exact Response.read_writeResponse_xml depth readable
  | json =>
    have read := Response.read_writeResponse_json (Format.isId_callId .json number) depth readable
      (Format.reads_callId .json number)
    rw [read, Format.carried_callId]
    rfl

variable {σ : Type}

theorem Registry.id_invoke (r : Registry σ) (method : String) (params : List Value) (id : Value) (s : σ) :
    (r.invoke method params id s).1.id = id :=
  rfl

theorem Registry.run_native {r : Registry σ} {method : String} {m : Method σ} {run : List Value → σ → Outcome × σ}
    (found : r.method? method = some m) (native : m.callable = .native run) (params : List Value) (s : σ) :
    r.run method params s = ((run params s).1.result, (run params s).2) := by
  unfold Registry.run
  simp only [found, native]

/-- A body that holds a call which wants an answer is answered with what the call returns, and leaves the
state that the call leaves. -/
theorem Format.process_of_read {format : Format} {r : Registry σ} {body : ByteArray} {s : σ} {request : Request}
    (read : (Document.read format body).bind Document.request = .ok request)
    (wanted : (format.usesId && request.isNotification) = false) :
    format.process r body s =
      (some (format.writeResponse (r.invoke request.method request.params request.id s).1),
        (r.invoke request.method request.params request.id s).2) := by
  simp only [Format.process, read, wanted, Bool.false_eq_true, if_false]

/-- A call from afar is a call on the spot: it is answered, the answer reads as what the call returns where the
registry is, up to what the format does to parameters and result, and the state is the one after that one call.
Faults arrive as they were; only a result has to be one that the format can carry. -/
theorem Format.remote_call (format : Format) (r : Registry σ) (s : σ) (method : String) (params : List Value)
    (number : Int32) (sent : format.CarriesRequest ⟨method, params, format.callId number⟩)
    (answered : ∀ v, (r.invoke method (params.map format.carried) (format.callId number) s).1.result = .ok v →
      format.CarriesResponse ⟨.ok v, format.callId number⟩) :
    ∃ answer, format.process r (format.writeRequest ⟨method, params, format.callId number⟩).toUTF8 s =
        (some answer, (r.invoke method (params.map format.carried) (format.callId number) s).2) ∧
      (Document.read format answer.toUTF8).bind Document.response =
        .ok { result := (r.invoke method (params.map format.carried) (format.callId number) s).1.result.map
                format.carried
              id := format.callId number } := by
  have wanted : (format.usesId && (format.callId number).isNil) = false := by cases format <;> rfl
  have carries : format.CarriesResponse
      ⟨(r.invoke method (params.map format.carried) (format.callId number) s).1.result, format.callId number⟩ := by
    cases outcome : (r.invoke method (params.map format.carried) (format.callId number) s).1.result with
    | ok v => exact answered v outcome
    | error f => exact Format.carriesResponse_fault format f number
  exact ⟨_, Format.process_of_read (Format.read_writeRequest sent) wanted, Format.read_writeResponse carries⟩

/-- A registry with one method, which counts how often it is run. -/
def Registry.ticking : Registry Nat :=
  ⟨[("tick", { callable := .native fun _ count => (.value (.string "<tick>"), count + 1) })], []⟩

theorem Registry.invoke_ticking (params : List Value) (id : Value) (count : Nat) :
    Registry.ticking.invoke "tick" params id count = (⟨.ok (.string "<tick>"), id⟩, count + 1) := by
  have found : Registry.ticking.method? "tick" =
    some { callable := .native fun _ count => (.value (.string "<tick>"), count + 1) } := rfl
  rw [Registry.invoke, Registry.run_native found rfl]
  rfl

theorem Format.remote_call_tick :
    (∃ answer, Format.process .xml Registry.ticking
        (Format.writeRequest .xml ⟨"tick", [.string "\n"], Format.callId .xml 3⟩).toUTF8 4 = (some answer, 5) ∧
      (Document.read .xml answer.toUTF8).bind Document.response = .ok ⟨.ok (.string "<tick>"), .nil⟩) ∧
    (∃ answer, Format.process .json Registry.ticking
        (Format.writeRequest .json ⟨"tick", [.string "\n"], Format.callId .json 3⟩).toUTF8 4 = (some answer, 5) ∧
      (Document.read .json answer.toUTF8).bind Document.response = .ok ⟨.ok (.string "<tick>"), .int32 3⟩) := by
  have plain (format : Format) (s : String) : ∀ a ∈ (Value.string s).atoms, format.Reads a := fun a inside => by
    rw [List.mem_singleton.mp inside]
    cases format <;> trivial
  have kept : Format.carried .json (.string "<tick>") = .string "<tick>" :=
    (Atom.toValue_toJson_iff (.string "<tick>")).mpr (by decide +kernel)
  have params (format : Format) : ∀ v ∈ [Value.string "\n"], ∀ a ∈ v.atoms, format.Reads a := fun v member => by
    rw [List.mem_singleton.mp member]
    exact plain format "\n"
  have viaXml := Format.remote_call .xml Registry.ticking 4 "tick" [.string "\n"] 3
    ⟨params .xml, by decide, by decide, by decide⟩
  have viaJson := Format.remote_call .json Registry.ticking 4 "tick" [.string "\n"] 3 ⟨params .json, by decide⟩
  rw [Registry.invoke_ticking] at viaXml viaJson
  constructor
  · refine viaXml fun v same => ?_
    cases same
    exact ⟨fun w same => Except.ok.inj same ▸ plain .xml "<tick>", by decide⟩
  · have whole := viaJson fun v same => by
      cases same
      exact ⟨fun w same => Except.ok.inj same ▸ plain .json "<tick>", by decide⟩
    rwa [Except.map, kept] at whole

end RemoteCall
