import RemoteCall.Method
import RemoteCall.Text.Quoted

namespace RemoteCall

/-- A specification that a server says it follows. -/
structure Capability where
  url : String
  version : Int32
  deriving DecidableEq

/-- The methods by name, and the tables of capabilities that callables and handles refer to by
number. -/
structure Registry (σ : Type) where
  methods : List (String × Method σ)
  tables : List (List (String × Capability))

/-- A name that is taken already. -/
inductive RegistrationError where
  | methodTaken (name : String)
  | capabilityTaken (name : String)
  deriving DecidableEq

def RegistrationError.message : RegistrationError → String
  | .methodTaken name => name ++ ": method already added"
  | .capabilityTaken name => name ++ ": capability already added"

def Registry.multicallName : String := "system.multicall"

/-- A registry has the method for several calls at once from the start. -/
def Registry.new (σ : Type) : Registry σ where
  methods :=
    [(Registry.multicallName,
      { callable := .multicall, help := "Call multiple methods at once", signatures := [[.array, .array]] })]
  tables := []

variable {σ : Type}

def Registry.method? (r : Registry σ) (name : String) : Option (Method σ) :=
  Members.find? name r.methods

def Registry.has (r : Registry σ) (name : String) : Bool :=
  (r.method? name).isSome

/-- A method under a name that is free. -/
def Registry.add (r : Registry σ) (name : String) (m : Method σ) : Except RegistrationError (Registry σ) :=
  if r.has name then .error (.methodTaken name)
  else .ok { r with methods := Members.insert name m r.methods }

def Registry.remove (r : Registry σ) (name : String) : Registry σ :=
  { r with methods := Members.erase name r.methods }

/-- Puts a whole method in the place of the one under a name, if there is one. -/
def Registry.assign (r : Registry σ) (name : String) (m : Method σ) : Registry σ :=
  if r.has name then { r with methods := Members.insert name m r.methods } else r

/-- Changes what is told about a method: sets its help, hides or shows it, and adds signatures. What it runs is not
told, and is changed only by putting another method in its place. -/
def Registry.describe (r : Registry σ) (name : String) (help : Option String) (hidden : Option Bool)
    (signatures : List (List Kind)) : Registry σ :=
  match r.method? name with
  | none => r
  | some m =>
    let m := { m with
      help := help.getD m.help
      hidden := hidden.getD m.hidden
      signatures := m.signatures ++ signatures }
    { r with methods := Members.insert name m r.methods }

/-- The names of the methods that are not hidden, in order. -/
def Registry.names (r : Registry σ) : List String :=
  Members.names (r.methods.filter fun entry => !entry.2.hidden)

/-- The names of all methods, for people. -/
def Registry.display (r : Registry σ) : String :=
  "Dispatcher \x7b methods: [" ++ ", ".intercalate ((Members.names r.methods).map quoted) ++ "] \x7d"

/-- What is told about a method, for people. -/
def Method.display (m : Method σ) : String :=
  let signatures := m.signatures.map fun kinds => "[" ++ ", ".intercalate (kinds.map Kind.label) ++ "]"
  "MethodWrapper \x7b help_text: " ++ quoted m.help ++ ", signatures: [" ++ ", ".intercalate signatures ++
    "], hidden: " ++ (if m.hidden then "true" else "false") ++ ", .. \x7d"

end RemoteCall
