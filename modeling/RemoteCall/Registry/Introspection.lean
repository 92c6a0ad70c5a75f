import RemoteCall.Registry

namespace RemoteCall

variable {σ : Type}

/-- A method that may be told about. A hidden one counts as missing. -/
def Registry.visible? (r : Registry σ) (name : String) : Option (Method σ) :=
  (r.method? name).filter fun m => !m.hidden

def Registry.listMethods (r : Registry σ) (params : List Value) : Except Fault Value :=
  match params with
  | [] => .ok (.array (r.names.map .string))
  | _ => .error .invalidParameters

/-- The answer of a method that takes the name of a visible method. -/
def Registry.tell (r : Registry σ) (answer : Method σ → Value) (params : List Value) : Except Fault Value :=
  match params with
  | [.string name] =>
    match r.visible? name with
    | some m => .ok (answer m)
    | none => .error (.application ("No method " ++ name) 0)
  | _ => .error .invalidParameters

/-- The names of the types of a signature. As the type of a parameter, nil says nothing and is
left out. -/
def Method.signatureNames : List Kind → List String
  | [] => []
  | result :: params => result.name :: (params.filter (· != .nil)).map Kind.name

def Method.signatureValue (m : Method σ) : Value :=
  if m.signatures.isEmpty then .string "undef"
  else .array (m.signatures.map fun kinds => .array ((Method.signatureNames kinds).map .string))

def Registry.methodSignature (r : Registry σ) : List Value → Except Fault Value :=
  r.tell Method.signatureValue

def Registry.methodHelp (r : Registry σ) : List Value → Except Fault Value :=
  r.tell fun m => .string m.help

def Capability.value (c : Capability) : Value :=
  .struct [("specUrl", .string c.url), ("specVersion", .int32 c.version)]

def Registry.table (r : Registry σ) (table : Nat) : List (String × Capability) :=
  r.tables[table]?.getD []

/-- The capabilities that a table lists at present. -/
def Registry.getCapabilities (r : Registry σ) (table : Nat) (params : List Value) : Except Fault Value :=
  match params with
  | [] => .ok (.struct ((r.table table).map fun (name, c) => (name, c.value)))
  | _ => .error .invalidParameters

end RemoteCall
