import RemoteCall.Message

namespace RemoteCall

/-- The steps from which documents are written. What a step does to the document is up to the
format; ids are left out by formats that have none. -/
class Writer (ω : Type) where
  startDocument : ω → ω
  endDocument : ω → ω
  startRequest : String → Value → ω → ω
  endRequest : ω → ω
  startParameter : ω → ω
  endParameter : ω → ω
  startResponse : Value → ω → ω
  endResponse : ω → ω
  startFault : Value → ω → ω
  endFault : ω → ω
  fault : Fault → ω → ω
  startArray : ω → ω
  endArray : ω → ω
  startStruct : ω → ω
  endStruct : ω → ω
  startMember : String → ω → ω
  endMember : ω → ω
  atom : Atom → ω → ω

variable {ω : Type} [Writer ω]

mutual

def Value.write : Value → ω → ω
  | .atom a, w => Writer.atom a w
  | .array items, w => Writer.endArray (Value.writeItems items (Writer.startArray w))
  | .struct members, w => Writer.endStruct (Value.writeMembers members (Writer.startStruct w))

def Value.writeItems : List Value → ω → ω
  | [], w => w
  | v :: rest, w => Value.writeItems rest (v.write w)

def Value.writeMembers : List (String × Value) → ω → ω
  | [], w => w
  | (name, v) :: rest, w =>
    Value.writeMembers rest (Writer.endMember (v.write (Writer.startMember name w)))

end

/-- A document that holds one value and nothing else. -/
def Value.writeDocument (v : Value) (w : ω) : ω :=
  Writer.endDocument (v.write (Writer.startDocument w))

def Request.writeParameter (w : ω) (v : Value) : ω :=
  Writer.endParameter (v.write (Writer.startParameter w))

def Request.write (r : Request) (w : ω) : ω :=
  let w := Writer.startRequest r.method r.id (Writer.startDocument w)
  Writer.endDocument (Writer.endRequest (r.params.foldl Request.writeParameter w))

def Response.write (r : Response) (w : ω) : ω :=
  let w := Writer.startDocument w
  Writer.endDocument <| match r.result with
    | .ok v => Writer.endResponse (v.write (Writer.startResponse r.id w))
    | .error f => Writer.endFault (Writer.fault f (Writer.startFault r.id w))

end RemoteCall
