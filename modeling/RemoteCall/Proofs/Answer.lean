import RemoteCall.Proofs.Call

namespace RemoteCall

theorem Xml.Problem.code_fault (problem : Xml.Problem) :
    problem.fault.code = FaultCode.notWellFormed.code ∨ problem.fault.code = FaultCode.invalidRequest.code := by
  cases problem with
  | notWellFormed => exact Or.inl rfl
  | _ => exact Or.inr rfl

theorem Json.Problem.code_fault (problem : Json.Problem) :
    problem.fault.code = FaultCode.notWellFormed.code ∨ problem.fault.code = FaultCode.invalidRequest.code := by
  cases problem with
  | notWellFormed => exact Or.inl rfl
  | _ => exact Or.inr rfl

theorem Except.of_mapError_eq_error {ε ε' α : Type} {f : ε → ε'} {x : Except ε α} {e : ε'}
    (failed : x.mapError f = .error e) : ∃ problem, f problem = e := by
  cases x with
  | error problem => exact ⟨problem, Except.error.inj failed⟩
  | ok a => cases failed

theorem Document.request_fault {d : Document} {f : Fault} (failed : d.request = .error f) :
    f.code = FaultCode.notWellFormed.code ∨ f.code = FaultCode.invalidRequest.code := by
  cases d with
  | xml root =>
    obtain ⟨problem, rfl⟩ := Except.of_mapError_eq_error failed
    exact problem.code_fault
  | json j =>
    obtain ⟨problem, rfl⟩ := Except.of_mapError_eq_error failed
    exact problem.code_fault

theorem Document.read_fault {format : Format} {body : ByteArray} {f : Fault} (valid : body.IsValidUTF8)
    (failed : Document.read format body = .error f) :
    f.code = FaultCode.notWellFormed.code ∨ f.code = FaultCode.invalidRequest.code := by
  rw [Document.read, String.fromUTF8?, dif_pos valid] at failed
  cases format with
  | xml =>
    obtain ⟨problem, rfl⟩ := Except.of_mapError_eq_error failed
    exact problem.code_fault
  | json =>
    simp only at failed
    split at failed
    · cases failed
    · cases failed
      exact Json.Problem.code_fault _

theorem Document.read_of_not_valid {body : ByteArray} (format : Format) (broken : ¬body.IsValidUTF8) :
    Document.read format body = .error .invalidCharacter := by
  rw [Document.read, String.fromUTF8?, dif_neg broken]

/-- The code of a fault in a body tells whether its bytes are at fault, and else whether its form is. -/
theorem Document.code_of_fault {format : Format} {body : ByteArray} {f : Fault}
    (failed : (Document.read format body).bind Document.request = .error f) :
    (f.code = FaultCode.invalidCharacter.code ↔ ¬body.IsValidUTF8) ∧
      (body.IsValidUTF8 → f.code = FaultCode.notWellFormed.code ∨ f.code = FaultCode.invalidRequest.code) := by
  by_cases valid : body.IsValidUTF8
  · have code : f.code = FaultCode.notWellFormed.code ∨ f.code = FaultCode.invalidRequest.code := by
      cases read : Document.read format body with
      | error g =>
        rw [read] at failed
        cases failed
        exact Document.read_fault valid read
      | ok d =>
        rw [read] at failed
        exact Document.request_fault failed
    refine ⟨iff_of_false ?_ (not_not_intro valid), fun _ => code⟩
    rcases code with code | code <;> rw [code] <;> decide
  · rw [Document.read_of_not_valid format valid] at failed
    cases failed
    exact ⟨iff_of_true rfl valid, fun valid' => absurd valid' valid⟩

theorem Json.request_eq_ok_iff {j : Json} {request : Request} :
    j.request = .ok request ↔ ∃ members, j = .object members ∧
      (Members.find? "jsonrpc" members).bind Json.asString? = some "2.0" ∧
      (Members.find? "method" members).bind Json.asString? = some request.method ∧
      Json.parameters members = .ok request.params ∧ Json.messageId members = .ok request.id := by
  constructor
  · intro read
    unfold Json.request Json.envelope at read
    split at read
    · rename_i members
      by_cases version : (Members.find? "jsonrpc" members).bind Json.asString? = some "2.0"
      · simp only [version, if_true, bind, Except.bind] at read
        split at read
        · cases read
        · rename_i method named
          split at read
          · cases read
          · rename_i params given
            split at read
            · cases read
            · rename_i id identified
              cases read
              exact ⟨members, rfl, version, named, given, identified⟩
      · simp only [version, if_false, bind, Except.bind] at read
        cases read
    · cases read
  · rintro ⟨members, rfl, version, named, given, identified⟩
    simp only [Json.request, Json.envelope, version, if_true, bind, Except.bind, named, given, identified]
    rfl

theorem Json.toValue_isNil_iff {id : Json} (isId : id.IsId) : id.toValue.isNil = true ↔ id = .null := by
  cases id with
  | null => exact iff_of_true rfl rfl
  | string s =>
    refine iff_of_false ?_ fun same => by cases same
    rw [Json.toValue, Atom.ofText]
    split
    · split <;> exact Bool.false_ne_true
    · exact Bool.false_ne_true
  | number n =>
    refine iff_of_false ?_ fun same => by cases same
    cases n with
    | double x => exact Bool.false_ne_true
    | whole n =>
      rw [Json.toValue, Json.Number.toAtom]
      split
      · exact Bool.false_ne_true
      · split <;> exact Bool.false_ne_true
  | boolean | array | object => exact isId.elim

/-- An object whose member for the id is missing or null. -/
def Json.Anonymous (members : List (String × Json)) : Prop :=
  Members.find? "id" members = none ∨ Members.find? "id" members = some .null

theorem Json.isNil_messageId_iff {members : List (String × Json)} {id : Value}
    (read : Json.messageId members = .ok id) : id.isNil = true ↔ Json.Anonymous members := by
  cases found : Members.find? "id" members with
  | none =>
    rw [Json.messageId_of_none found] at read
    cases read
    exact iff_of_true rfl (Or.inl found)
  | some j =>
    have isId : j.IsId := by
      simp only [Json.messageId, found] at read
      split at read
      · rename_i other
        cases other
      · rename_i same
        cases same
        trivial
      · rename_i same
        cases same
        trivial
      · rename_i same
        cases same
        trivial
      · cases read
    rw [Json.messageId_of_find? isId found] at read
    cases read
    rw [Json.toValue_isNil_iff isId, Json.Anonymous, found]
    simp

/-- With an id added, a call is the same call with that id. -/
theorem Json.request_insert_id {members : List (String × Json)} {request : Request} {id : Json}
    (read : (Json.object members).request = .ok request) (isId : id.IsId) :
    (Json.object (Members.insert "id" id members)).request = .ok { request with id := id.toValue } := by
  obtain ⟨_, same, version, named, given, _⟩ := Json.request_eq_ok_iff.mp read
  cases same
  have kept (name : String) (other : "id" ≠ name) :
      Members.find? name (Members.insert "id" id members) = Members.find? name members := by
    rw [Members.find?_insert, if_neg other]
  refine Json.request_eq_ok_iff.mpr ⟨_, rfl, ?_, ?_, ?_, ?_⟩
  · rw [kept _ (by decide), version]
  · rw [kept _ (by decide), named]
  · rw [Json.parameters, kept _ (by decide)]
    exact given
  · refine Json.messageId_of_find? isId ?_
    rw [Members.find?_insert, if_pos rfl]

/-- The answer to what is no call is read as the fault in it. -/
theorem Format.read_writeFault (format : Format) (f : Fault) :
    (Document.read format (format.writeResponse { result := .error f }).toUTF8).bind Document.response =
      .ok { result := .error f } := by
  have flat : Value.nil.toJson.depth = 0 := rfl
  obtain ⟨readable, depth⟩ := format.carriesResponse_error f flat
  cases format with
  | xml => exact Response.read_writeResponse_xml depth readable
  | json =>
    have plain : ∀ a ∈ Value.nil.atoms, a.JsonReadable := fun a member => by
      rw [List.mem_singleton.mp member]
      trivial
    exact Response.read_writeResponse_json (r := ⟨.error f, .nil⟩) trivial depth readable plain

variable {σ : Type}

theorem Format.process_of_fault {format : Format} {body : ByteArray} {f : Fault}
    (failed : (Document.read format body).bind Document.request = .error f) (r : Registry σ) (s : σ) :
    format.process r body s = (some (format.writeResponse { result := .error f }), s) := by
  simp only [Format.process, failed]

theorem Format.process_of_notification {format : Format} {body : ByteArray} {request : Request}
    (read : (Document.read format body).bind Document.request = .ok request)
    (unwanted : (format.usesId && request.isNotification) = true) (r : Registry σ) (s : σ) :
    format.process r body s = (none, (r.invoke request.method request.params request.id s).2) := by
  simp only [Format.process, read, unwanted, if_true]

/-- A body that holds a call runs its method once, and whatever is answered is what that run returns. -/
theorem Format.process_invokes {format : Format} {body : ByteArray} {request : Request}
    (read : (Document.read format body).bind Document.request = .ok request) (r : Registry σ) (s : σ) :
    (format.process r body s).2 = (r.invoke request.method request.params request.id s).2 ∧
      ∀ answer, (format.process r body s).1 = some answer →
        answer = format.writeResponse (r.invoke request.method request.params request.id s).1 := by
  by_cases unwanted : (format.usesId && request.isNotification) = true
  · rw [Format.process_of_notification read unwanted]
    exact ⟨rfl, nofun⟩
  · rw [Format.process_of_read read (eq_false_of_ne_true unwanted)]
    exact ⟨rfl, fun answer same => (Option.some.inj same).symm⟩

theorem Document.bind_request_json {body : ByteArray} {j : Json} {request : Request}
    (read : Document.read .json body = .ok (.json j)) (decoded : j.request = .ok request) :
    (Document.read .json body).bind Document.request = .ok request := by
  simp only [read, Except.bind, Document.request, decoded, Except.mapError]

/-- A call in JSON is an object. -/
theorem Document.of_bind_request_json {body : ByteArray} {request : Request}
    (call : (Document.read .json body).bind Document.request = .ok request) :
    ∃ members, Document.read .json body = .ok (.json (.object members)) ∧
      (Json.object members).request = .ok request := by
  obtain ⟨d, read, same⟩ := Except.exists_of_bind call
  obtain ⟨_, j, _, _, rfl⟩ := Document.read_json_eq_ok read
  have decoded := Except.mapError_eq_ok_iff.mp same
  obtain ⟨members, rfl, _⟩ := Json.request_eq_ok_iff.mp decoded
  exact ⟨members, read, decoded⟩

/-- No answer is given exactly to a call in JSON whose id is missing or null. -/
theorem Format.process_eq_none_iff {format : Format} {r : Registry σ} {body : ByteArray} {s : σ} :
    (format.process r body s).1 = none ↔ format = .json ∧ ∃ members request,
      Document.read format body = .ok (.json (.object members)) ∧ (Json.object members).request = .ok request ∧
        Json.Anonymous members := by
  cases call : (Document.read format body).bind Document.request with
  | error f =>
    rw [Format.process_of_fault call]
    refine iff_of_false nofun ?_
    rintro ⟨rfl, members, request, read, decoded, _⟩
    cases call.symm.trans (Document.bind_request_json read decoded)
  | ok request =>
    cases format with
    | xml =>
      rw [Format.process_of_read call rfl]
      exact iff_of_false nofun nofun
    | json =>
      obtain ⟨members, read, decoded⟩ := Document.of_bind_request_json call
      obtain ⟨_, same, _, _, _, identified⟩ := Json.request_eq_ok_iff.mp decoded
      cases same
      have absent := Json.isNil_messageId_iff identified
      by_cases unwanted : request.id.isNil = true
      · rw [Format.process_of_notification call unwanted]
        exact iff_of_true rfl ⟨rfl, members, request, read, decoded, absent.mp unwanted⟩
      · rw [Format.process_of_read call (eq_false_of_ne_true unwanted)]
        refine iff_of_false nofun ?_
        rintro ⟨_, members', request', read', _, anonymous⟩
        cases read.symm.trans read'
        exact unwanted (absent.mpr anonymous)

/-- What cannot be read as a call runs nothing and is answered with the fault that says why; what can be read as
a call runs its method once; and no answer is given exactly to a call in JSON whose id is missing or null, which
runs as the same call with an id does. -/
theorem Format.process_answers (format : Format) (r : Registry σ) (body : ByteArray) (s : σ) :
    (∀ f, (Document.read format body).bind Document.request = .error f →
      (∃ answer, format.process r body s = (some answer, s) ∧
        (Document.read format answer.toUTF8).bind Document.response = .ok ⟨.error f, .nil⟩) ∧
      (f.code = -32702 ↔ ¬body.IsValidUTF8) ∧ (body.IsValidUTF8 → f.code = -32700 ∨ f.code = -32600)) ∧
    (∀ request, (Document.read format body).bind Document.request = .ok request →
      (format.process r body s).2 = (r.invoke request.method request.params request.id s).2 ∧
      ∀ answer, (format.process r body s).1 = some answer →
        answer = format.writeResponse (r.invoke request.method request.params request.id s).1) ∧
    ((format.process r body s).1 = none ↔
      format = .json ∧ ∃ members request, Document.read format body = .ok (.json (.object members)) ∧
        (Json.object members).request = .ok request ∧ Json.Anonymous members) ∧
    (∀ members, (format.process r body s).1 = none → Document.read format body = .ok (.json (.object members)) →
      ∀ id other, Json.IsId id → id ≠ .null →
        Document.read format other = .ok (.json (.object (Members.insert "id" id members))) →
        (format.process r other s).1 ≠ none ∧ (format.process r other s).2 = (format.process r body s).2) := by
  refine ⟨fun f failed => ⟨⟨_, Format.process_of_fault failed r s, format.read_writeFault f⟩,
    Document.code_of_fault failed⟩, fun request read => Format.process_invokes read r s,
    Format.process_eq_none_iff, ?_⟩
  intro members unanswered read id other isId named otherRead
  obtain ⟨rfl, members', request, read', decoded, _⟩ := Format.process_eq_none_iff.mp unanswered
  cases read.symm.trans read'
  have call := Document.bind_request_json read decoded
  have otherCall := Document.bind_request_json otherRead (Json.request_insert_id decoded isId)
  have wanted : (Format.usesId .json && Request.isNotification { request with id := id.toValue }) = false := by
    rw [Request.isNotification, Format.usesId, Bool.true_and]
    exact eq_false_of_ne_true fun absent => named ((Json.toValue_isNil_iff isId).mp absent)
  rw [(Format.process_invokes call r s).1, Format.process_of_read otherCall wanted]
  exact ⟨nofun, rfl⟩

/-- A call without an id. -/
def Json.tickNotice : List (String × Json) :=
  [Json.version, ("method", .string "tick")]

theorem Json.readable_tickNotice : (Json.object Json.tickNotice).Readable := by
  have ordered : Members.Ordered Json.tickNotice := List.pairwise_pair.mpr (by decide)
  exact ⟨ordered, trivial, trivial, trivial⟩

/-- A call with an id. -/
def Json.tickCall : List (String × Json) :=
  Members.insert "id" (.string "") Json.tickNotice

theorem Json.readable_tickCall : (Json.object Json.tickCall).Readable := by
  have identified : (Json.string "").Readable := trivial
  exact Json.readable_insert identified Json.readable_tickNotice

/-- A document that is no call, a call without an id, and the same call with an id. -/
theorem Format.process_answers_tick :
    (∃ answer, Format.process .json Registry.ticking (Json.array []).render.toUTF8 4 = (some answer, 4) ∧
      (Document.read .json answer.toUTF8).bind Document.response =
        .ok ⟨.error (.invalidJson "request is not an object"), .nil⟩) ∧
    Format.process .json Registry.ticking (Json.object Json.tickNotice).render.toUTF8 4 = (none, 5) ∧
    (Format.process .json Registry.ticking
      (Json.object (Members.insert "id" (.string "") Json.tickNotice)).render.toUTF8 4).1 ≠ none ∧
    (Format.process .json Registry.ticking
      (Json.object (Members.insert "id" (.string "") Json.tickNotice)).render.toUTF8 4).2 = 5 := by
  have empty : Document.read .json (Json.array []).render.toUTF8 = .ok (.json (.array [])) :=
    Json.read_document trivial (by decide)
  have noticeRead := Json.read_document Json.readable_tickNotice (by decide)
  have callRead := Json.read_document Json.readable_tickCall (by decide)
  have decoded : (Json.object Json.tickNotice).request = .ok ⟨"tick", [], .nil⟩ := rfl
  obtain ⟨refused, -, -, -⟩ :=
    Format.process_answers .json Registry.ticking (Json.array []).render.toUTF8 4
  obtain ⟨-, invoked, silent, same⟩ :=
    Format.process_answers .json Registry.ticking (Json.object Json.tickNotice).render.toUTF8 4
  have unanswered := silent.mpr ⟨rfl, _, _, noticeRead, decoded, Or.inl rfl⟩
  have counted := (invoked _ (Document.bind_request_json noticeRead decoded)).1
  rw [Registry.invoke_ticking] at counted
  obtain ⟨answered, state⟩ := same _ unanswered noticeRead (.string "") _ trivial nofun callRead
  refine ⟨(refused _ ?_).1, Prod.ext unanswered counted, answered, state.trans counted⟩
  rw [empty]
  rfl

end RemoteCall
