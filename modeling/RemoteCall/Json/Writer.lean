import RemoteCall.Json.Coding
import RemoteCall.Json.Printer
import RemoteCall.Writer

namespace RemoteCall

/-- A container that is being written. The items of an array are held in reverse; an object
knows the name of the member that comes next. -/
inductive Json.Frame where
  | array (items : List Json)
  | object (members : List (String × Json)) (next : Option String)

def Json.Frame.close : Json.Frame → Json
  | .array items => .array items.reverse
  | .object members _ => .object members

/-- Writes documents of JSON-RPC. A document is put together first, in the containers that are
still open, innermost first, and turned into text at its end. -/
structure Json.Writer where
  frames : List Json.Frame := []
  root : Option Json := none
  text : String := ""

/-- Puts a value where the document has come to. In an object that expects no member, it is
lost. -/
def Json.Writer.emit (j : Json) (w : Json.Writer) : Json.Writer :=
  match w.frames with
  | [] => { w with root := some j }
  | .array items :: outer => { w with frames := .array (j :: items) :: outer }
  | .object members (some name) :: outer =>
    { w with frames := .object (Members.insert name j members) none :: outer }
  | .object _ none :: _ => w

def Json.Writer.enter (frame : Json.Frame) (w : Json.Writer) : Json.Writer :=
  { w with frames := frame :: w.frames }

def Json.Writer.leave (w : Json.Writer) : Json.Writer :=
  match w.frames with
  | [] => w
  | frame :: outer => ({ w with frames := outer } : Json.Writer).emit frame.close

def Json.Writer.startMember (name : String) (w : Json.Writer) : Json.Writer :=
  match w.frames with
  | .object members _ :: outer => { w with frames := .object members (some name) :: outer }
  | _ => w

def Json.Writer.endDocument (w : Json.Writer) : Json.Writer :=
  match w.root with
  | some j => { w with root := none, text := j.render }
  | none => w

def Json.version : String × Json := ("jsonrpc", .string "2.0")

/-- The members of a call that come before its parameters. One without an id is a
notification. -/
def Json.callMembers (method : String) (id : Value) : List (String × Json) :=
  Members.ofList (Json.version :: ("method", .string method) ::
    match id with
    | .nil => []
    | id => [("id", id.toJson)])

/-- The members of an answer that come before its result. -/
def Json.answerMembers (id : Value) : List (String × Json) :=
  Members.ofList [Json.version, ("id", id.toJson)]

def Fault.toJson (f : Fault) : Json :=
  .object [("code", .number (.whole f.code.toInt)), ("message", .string f.message)]

instance writerJson : Writer Json.Writer where
  startDocument _ := {}
  endDocument := Json.Writer.endDocument
  startRequest method id w :=
    (w.enter (.object (Json.callMembers method id) (some "params"))).enter (.array [])
  endRequest w := w.leave.leave
  startParameter w := w
  endParameter w := w
  startResponse id := Json.Writer.enter (.object (Json.answerMembers id) (some "result"))
  endResponse := Json.Writer.leave
  startFault id := Json.Writer.enter (.object (Json.answerMembers id) (some "error"))
  endFault := Json.Writer.leave
  fault f := Json.Writer.emit f.toJson
  startArray := Json.Writer.enter (.array [])
  endArray := Json.Writer.leave
  startStruct := Json.Writer.enter (.object [] none)
  endStruct := Json.Writer.leave
  startMember := Json.Writer.startMember
  endMember w := w
  atom a := Json.Writer.emit a.toJson

end RemoteCall
