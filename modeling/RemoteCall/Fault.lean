namespace RemoteCall

/-- The codes that the protocol itself uses. -/
inductive FaultCode where
  | notWellFormed
  | invalidCharacter
  | invalidRequest
  | methodNotFound
  | invalidParameters
  | internalError
  deriving DecidableEq

def FaultCode.code : FaultCode → Int32
  | .notWellFormed => -32700
  | .invalidCharacter => -32702
  | .invalidRequest => -32600
  | .methodNotFound => -32601
  | .invalidParameters => -32602
  | .internalError => -32603

def FaultCode.message : FaultCode → String
  | .notWellFormed => "Document not well formed"
  | .invalidCharacter => "Invalid character for encoding"
  | .invalidRequest => "Invalid request"
  | .methodNotFound => "No such method"
  | .invalidParameters => "Invalid parameters"
  | .internalError => "Internal error"

def FaultCode.name : FaultCode → String
  | .notWellFormed => "NotWellFormed"
  | .invalidCharacter => "InvalidCharacter"
  | .invalidRequest => "InvalidXmlRpc"
  | .methodNotFound => "MethodNotFound"
  | .invalidParameters => "InvalidParameters"
  | .internalError => "InternalError"

def FaultCode.display (c : FaultCode) : String :=
  s!"{c.code}: {c.message}"

def FaultCode.all : List FaultCode :=
  [.notWellFormed, .invalidCharacter, .invalidRequest, .methodNotFound, .invalidParameters, .internalError]

def FaultCode.ofCode? (code : Int32) : Option FaultCode :=
  FaultCode.all.find? fun c => c.code == code

/-- The range that is kept for the protocol. -/
def FaultCode.isReserved (code : Int32) : Bool :=
  -32768 ≤ code && code ≤ -32000

/-- An error that is reported to the caller of a method. -/
structure Fault where
  code : Int32
  message : String
  deriving DecidableEq

/-- A fault of an application. A code of the reserved range is replaced by 0. -/
def Fault.application (message : String) (code : Int32) : Fault :=
  ⟨if FaultCode.isReserved code then 0 else code, message⟩

def Fault.ofCode (c : FaultCode) : Fault :=
  ⟨c.code, c.message⟩

def Fault.notWellFormed : Fault := .ofCode .notWellFormed
def Fault.invalidCharacter : Fault := .ofCode .invalidCharacter
def Fault.invalidParameters : Fault := .ofCode .invalidParameters

/-- A well-formed document that is no message of XML-RPC. -/
def Fault.invalidXml (detail : String) : Fault :=
  ⟨FaultCode.invalidRequest.code, "Invalid XML-RPC: " ++ detail⟩

/-- A well-formed document that is no message of JSON-RPC. -/
def Fault.invalidJson (detail : String) : Fault :=
  ⟨FaultCode.invalidRequest.code, "Invalid JSON-RPC: " ++ detail⟩

def Fault.methodNotFound (name : String) : Fault :=
  ⟨FaultCode.methodNotFound.code, "No such method " ++ name⟩

def Fault.internalError (detail : String) : Fault :=
  ⟨FaultCode.internalError.code, detail⟩

def Fault.kind? (f : Fault) : Option FaultCode :=
  FaultCode.ofCode? f.code

end RemoteCall
