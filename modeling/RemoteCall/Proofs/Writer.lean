import RemoteCall.Writer

namespace RemoteCall

/-- A step of a writer with what it is given. -/
inductive Writer.Step where
  | startDocument
  | endDocument
  | startRequest (method : String) (id : Value)
  | endRequest
  | startParameter
  | endParameter
  | startResponse (id : Value)
  | endResponse
  | startFault (id : Value)
  | endFault
  | fault (f : Fault)
  | startArray
  | endArray
  | startStruct
  | endStruct
  | startMember (name : String)
  | endMember
  | atom (a : Atom)

variable {ω : Type} [Writer ω]

def Writer.Step.perform : Writer.Step → ω → ω
  | .startDocument => Writer.startDocument
  | .endDocument => Writer.endDocument
  | .startRequest method id => Writer.startRequest method id
  | .endRequest => Writer.endRequest
  | .startParameter => Writer.startParameter
  | .endParameter => Writer.endParameter
  | .startResponse id => Writer.startResponse id
  | .endResponse => Writer.endResponse
  | .startFault id => Writer.startFault id
  | .endFault => Writer.endFault
  | .fault f => Writer.fault f
  | .startArray => Writer.startArray
  | .endArray => Writer.endArray
  | .startStruct => Writer.startStruct
  | .endStruct => Writer.endStruct
  | .startMember name => Writer.startMember name
  | .endMember => Writer.endMember
  | .atom a => Writer.atom a

/-- One step after the other, whether or not they make up a document. -/
def Writer.performAll : List Writer.Step → ω → ω
  | [], w => w
  | step :: rest, w => Writer.performAll rest (step.perform w)

theorem Writer.performAll_append (before after : List Writer.Step) (w : ω) :
    Writer.performAll (before ++ after) w = Writer.performAll after (Writer.performAll before w) := by
  induction before generalizing w with
  | nil => rfl
  | cons step rest ih => exact ih (step.perform w)

mutual

/-- The steps in which a value is written, the same for all formats. -/
def Value.steps : Value → List Writer.Step
  | .atom a => [.atom a]
  | .array items => .startArray :: (Value.stepsOfItems items ++ [.endArray])
  | .struct members => .startStruct :: (Value.stepsOfMembers members ++ [.endStruct])

def Value.stepsOfItems : List Value → List Writer.Step
  | [] => []
  | v :: rest => v.steps ++ Value.stepsOfItems rest

def Value.stepsOfMembers : List (String × Value) → List Writer.Step
  | [] => []
  | (name, v) :: rest => .startMember name :: (v.steps ++ .endMember :: Value.stepsOfMembers rest)

end

def Request.stepsOfParameters : List Value → List Writer.Step
  | [] => []
  | v :: rest => .startParameter :: (v.steps ++ .endParameter :: Request.stepsOfParameters rest)

def Request.steps (r : Request) : List Writer.Step :=
  .startDocument :: .startRequest r.method r.id ::
    (Request.stepsOfParameters r.params ++ [.endRequest, .endDocument])

def Response.steps (r : Response) : List Writer.Step :=
  match r.result with
  | .ok v => .startDocument :: .startResponse r.id :: (v.steps ++ [.endResponse, .endDocument])
  | .error f => [.startDocument, .startFault r.id, .fault f, .endFault, .endDocument]

mutual

theorem Value.write_eq_performAll : ∀ (v : Value) (w : ω), v.write w = Writer.performAll v.steps w
  | .atom a, w => rfl
  | .array items, w => by
    rw [Value.write, Value.writeItems_eq_performAll items, Value.steps, Writer.performAll, Writer.performAll_append]
    rfl
  | .struct members, w => by
    rw [Value.write, Value.writeMembers_eq_performAll members, Value.steps, Writer.performAll,
      Writer.performAll_append]
    rfl

theorem Value.writeItems_eq_performAll : ∀ (items : List Value) (w : ω),
    Value.writeItems items w = Writer.performAll (Value.stepsOfItems items) w
  | [], w => rfl
  | v :: rest, w => by
    rw [Value.writeItems, Value.writeItems_eq_performAll rest, Value.write_eq_performAll v, Value.stepsOfItems,
      Writer.performAll_append]

theorem Value.writeMembers_eq_performAll : ∀ (members : List (String × Value)) (w : ω),
    Value.writeMembers members w = Writer.performAll (Value.stepsOfMembers members) w
  | [], w => rfl
  | (name, v) :: rest, w => by
    rw [Value.writeMembers, Value.writeMembers_eq_performAll rest, Value.write_eq_performAll v, Value.stepsOfMembers,
      Writer.performAll, Writer.performAll_append]
    rfl

end

theorem Request.writeParameters_eq_performAll (params : List Value) (w : ω) :
    params.foldl Request.writeParameter w = Writer.performAll (Request.stepsOfParameters params) w := by
  induction params generalizing w with
  | nil => rfl
  | cons v rest ih =>
    rw [List.foldl_cons, ih, Request.writeParameter, Value.write_eq_performAll v, Request.stepsOfParameters,
      Writer.performAll, Writer.performAll_append]
    rfl

theorem Request.write_eq_performAll (r : Request) (w : ω) : r.write w = Writer.performAll r.steps w := by
  rw [Request.steps, Writer.performAll, Writer.performAll, Writer.performAll_append,
    ← Request.writeParameters_eq_performAll]
  rfl

theorem Response.write_eq_performAll (r : Response) (w : ω) : r.write w = Writer.performAll r.steps w := by
  obtain ⟨result, id⟩ := r
  cases result with
  | ok v =>
    rw [Response.steps, Writer.performAll, Writer.performAll, Writer.performAll_append, ← Value.write_eq_performAll]
    rfl
  | error f => rfl

end RemoteCall
