import RemoteCall.Json.Writer
import RemoteCall.Proofs.Members

namespace RemoteCall

theorem Json.Writer.emit_enter_array (j : Json) (done : List Json) (w : Json.Writer) :
    (w.enter (.array done)).emit j = w.enter (.array (j :: done)) :=
  rfl

theorem Json.Writer.emit_enter_object (j : Json) (name : String) (members : List (String × Json))
    (w : Json.Writer) :
    (w.enter (.object members (some name))).emit j = w.enter (.object (Members.insert name j members) none) :=
  rfl

theorem Json.Writer.startMember_enter (name : String) (members : List (String × Json)) (next : Option String)
    (w : Json.Writer) :
    (w.enter (.object members next)).startMember name = w.enter (.object members (some name)) :=
  rfl

theorem Json.Writer.leave_enter (frame : Json.Frame) (w : Json.Writer) :
    (w.enter frame).leave = w.emit frame.close :=
  rfl

theorem Json.Frame.close_reverse (items : List Json) :
    (Json.Frame.array (items.reverse ++ [])).close = .array items := by
  rw [List.append_nil, Json.Frame.close, List.reverse_reverse]

mutual

/-- Writing a value puts its document where the writer has come to, and changes nothing else. -/
theorem Value.write_eq_emit : ∀ (v : Value) (w : Json.Writer), v.write w = w.emit v.toJson
  | .atom a, w => rfl
  | .array items, w => by
    have inner := Value.writeItems_eq_enter items [] w
    rw [Value.write, Value.toJson, ← Json.Frame.close_reverse]
    exact (congrArg Json.Writer.leave inner).trans (Json.Writer.leave_enter _ w)
  | .struct members, w => by
    have inner := Value.writeMembers_eq_enter members [] w
    rw [Value.write]
    exact (congrArg Json.Writer.leave inner).trans (Json.Writer.leave_enter _ w)

theorem Value.writeItems_eq_enter : ∀ (items : List Value) (done : List Json) (w : Json.Writer),
    Value.writeItems items (w.enter (.array done)) =
      w.enter (.array ((Value.toJsonItems items).reverse ++ done))
  | [], done, w => rfl
  | v :: rest, done, w => by
    rw [Value.writeItems, Value.write_eq_emit v, Json.Writer.emit_enter_array,
      Value.writeItems_eq_enter rest (v.toJson :: done), Value.toJsonItems, List.reverse_cons, List.append_assoc,
      List.singleton_append]

theorem Value.writeMembers_eq_enter : ∀ (members : List (String × Value)) (done : List (String × Json))
    (w : Json.Writer), Value.writeMembers members (w.enter (.object (Members.ofList done) none)) =
      w.enter (.object (Members.ofList (done ++ Value.toJsonMembers members)) none)
  | [], done, w => by rw [Value.writeMembers, Value.toJsonMembers, List.append_nil]
  | (name, v) :: rest, done, w => by
    have first : Writer.endMember (v.write (Writer.startMember name (w.enter (.object (Members.ofList done) none)))) =
        w.enter (.object (Members.ofList (done ++ [(name, v.toJson)])) none) := by
      have start : Writer.startMember name (w.enter (.object (Members.ofList done) none)) =
        w.enter (.object (Members.ofList done) (some name)) := Json.Writer.startMember_enter name _ none w
      rw [start, Value.write_eq_emit v, Json.Writer.emit_enter_object, ← Members.ofList_append_singleton]
      rfl
    rw [Value.writeMembers, first, Value.writeMembers_eq_enter rest (done ++ [(name, v.toJson)]),
      Value.toJsonMembers, List.append_assoc, List.singleton_append]

end

/-- The document of a call. -/
def Request.toJson (r : Request) : Json :=
  .object (Members.insert "params" (.array (Value.toJsonItems r.params)) (Json.callMembers r.method r.id))

/-- The document of an answer. -/
def Response.toJson (r : Response) : Json :=
  .object (match r.result with
    | .ok v => Members.insert "result" v.toJson (Json.answerMembers r.id)
    | .error f => Members.insert "error" f.toJson (Json.answerMembers r.id))

theorem Request.writeParameters_eq_writeItems (params : List Value) (w : Json.Writer) :
    params.foldl Request.writeParameter w = Value.writeItems params w := by
  induction params generalizing w with
  | nil => rfl
  | cons v rest ih =>
    rw [List.foldl_cons, ih]
    rfl

/-- A document starts anew, whatever has been written before. -/
theorem Value.text_writeDocument (v : Value) (w : Json.Writer) : (v.writeDocument w).text = v.toJson.render := by
  rw [Value.writeDocument, Value.write_eq_emit v]
  rfl

/-- A call is a document of its own: whatever was open before it is given up, and nothing is left open. -/
theorem Request.write_eq_render (r : Request) (w : Json.Writer) : r.write w = { text := r.toJson.render } := by
  have params := Value.writeItems_eq_enter r.params []
    (Json.Writer.enter (.object (Json.callMembers r.method r.id) (some "params")) {})
  rw [Request.write, Request.writeParameters_eq_writeItems]
  refine (congrArg (fun w => Writer.endDocument (Writer.endRequest w)) params).trans ?_
  have inner : Writer.endRequest
      ((Json.Writer.enter (.object (Json.callMembers r.method r.id) (some "params")) {}).enter
        (.array ((Value.toJsonItems r.params).reverse ++ []))) = Json.Writer.emit r.toJson {} := by
    refine (congrArg Json.Writer.leave (Json.Writer.leave_enter _ _)).trans ?_
    rw [Json.Frame.close_reverse]
    rfl
  rw [inner]
  rfl

theorem Request.text_write (r : Request) (w : Json.Writer) : (r.write w).text = r.toJson.render :=
  congrArg Json.Writer.text (r.write_eq_render w)

theorem Response.write_eq_render (r : Response) (w : Json.Writer) : r.write w = { text := r.toJson.render } := by
  obtain ⟨result, id⟩ := r
  cases result with
  | ok v =>
    have inner := Value.write_eq_emit v
      (Json.Writer.enter (.object (Json.answerMembers id) (some "result")) {})
    exact congrArg (fun w => Writer.endDocument (Writer.endResponse w)) inner
  | error f => rfl

theorem Response.text_write (r : Response) (w : Json.Writer) : (r.write w).text = r.toJson.render :=
  congrArg Json.Writer.text (r.write_eq_render w)

end RemoteCall
