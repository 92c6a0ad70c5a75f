import RemoteCall.Json.Message
import RemoteCall.Json.Parser
import RemoteCall.Json.Writer
import RemoteCall.Registry.Invoke
import RemoteCall.Xml.Document
import RemoteCall.Xml.Message
import RemoteCall.Xml.Writer

namespace RemoteCall

inductive Format where
  | xml
  | json
  deriving DecidableEq

def Format.protocol : Format → String
  | .xml => "XML-RPC"
  | .json => "JSON-RPC"

def Format.contentType : Format → String
  | .xml => "text/xml"
  | .json => "application/json"

/-- Whether messages carry an id, so that a call without one wants no answer. -/
def Format.usesId : Format → Bool
  | .xml => false
  | .json => true

/-- A document that is well formed, not yet looked at as a message. -/
inductive Document where
  | xml (root : Xml.Element)
  | json (j : Json)

/-- Reads a document from its UTF-8 bytes. -/
def Document.read (format : Format) (body : ByteArray) : Except Fault Document :=
  match String.fromUTF8? body with
  | none => .error .invalidCharacter
  | some text =>
    match format with
    | .xml => ((Xml.Element.ofDocument text.toList).map .xml).mapError Xml.Problem.fault
    | .json =>
      match Json.parse? text.toList with
      | some j => .ok (.json j)
      | none => .error Json.Problem.notWellFormed.fault

def Document.request : Document → Except Fault Request
  | .xml root => root.request.mapError Xml.Problem.fault
  | .json j => j.request.mapError Json.Problem.fault

def Document.response : Document → Except Fault Response
  | .xml root => root.response.mapError Xml.Problem.fault
  | .json j => j.response.mapError Json.Problem.fault

def Document.value : Document → Except Fault Value
  | .xml root => root.value.mapError Xml.Problem.fault
  | .json j => .ok j.toValue

def Format.writeRequest (format : Format) (r : Request) : String :=
  match format with
  | .xml => (r.write ({} : Xml.Writer)).text
  | .json => (r.write ({} : Json.Writer)).text

def Format.writeResponse (format : Format) (r : Response) : String :=
  match format with
  | .xml => (r.write ({} : Xml.Writer)).text
  | .json => (r.write ({} : Json.Writer)).text

def Format.writeValue (format : Format) (v : Value) : String :=
  match format with
  | .xml => (v.writeDocument ({} : Xml.Writer)).text
  | .json => (v.writeDocument ({} : Json.Writer)).text

variable {σ : Type}

/-- Answers the call in a body. What cannot be read as a call is answered with a fault and runs
nothing; a call that wants no answer is run all the same. -/
def Format.process (format : Format) (r : Registry σ) (body : ByteArray) (s : σ) : Option String × σ :=
  match (Document.read format body).bind Document.request with
  | .error f => (some (format.writeResponse { result := .error f }), s)
  | .ok request =>
    let (response, s) := r.invoke request.method request.params request.id s
    if format.usesId && request.isNotification then (none, s)
    else (some (format.writeResponse response), s)

/-- A format that is served under a path. -/
structure Endpoint where
  format : Format
  path : String := "/RPC2"

/-- A content type without its parameters. -/
def Endpoint.mediaType (contentType : String) : List Char :=
  trimmed (contentType.toList.takeWhile (· != ';'))

/-- Whether a request is for this endpoint. Media types do not depend on case. -/
def Endpoint.accepts (e : Endpoint) (path contentType : String) : Bool :=
  path == e.path &&
    (Endpoint.mediaType contentType).map Char.toLower == e.format.contentType.toList

end RemoteCall
