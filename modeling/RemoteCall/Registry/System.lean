import RemoteCall.Registry

namespace RemoteCall

variable {σ : Type}

/-- What is left of an installation: its table of capabilities, and whether the methods for
introspection came with it. -/
structure Installation where
  table : Nat
  introspection : Bool

/-- The capabilities of every installation. -/
def Capability.initial : List (String × Capability) :=
  Members.ofList
    [("xmlrpc", ⟨"http://www.xmlrpc.com/spec", 1⟩),
      ("faults_interop", ⟨"http://xmlrpc-epi.sourceforge.net/specs/rfc.fault_codes.php", 20010516⟩)]

/-- The capability that comes with introspection. -/
def Capability.introspect : Capability :=
  ⟨"http://xmlrpc-c.sourceforge.net/xmlrpc-c/introspection.html", 1⟩

def Installation.capabilitiesMethod (table : Nat) : String × Method σ :=
  ("system.getCapabilities",
    { callable := .capabilities table, help := "Get server capabilities", signatures := [[.struct]] })

def Installation.introspectionMethods : List (String × Method σ) :=
  [("system.listMethods",
      { callable := .listMethods
        help := "Returns a list of the methods the server has"
        signatures := [[.array]] }),
    ("system.methodSignature",
      { callable := .methodSignature
        help := "Returns a description of the argument format a particular method expects"
        signatures := [[.array, .string]] }),
    ("system.methodHelp",
      { callable := .methodHelp
        help := "Returns a text description of a particular method"
        signatures := [[.string, .string]] })]

/-- The methods of an installation in the order in which they are added. -/
def Installation.methods (i : Installation) : List (String × Method σ) :=
  Installation.capabilitiesMethod i.table ::
    if i.introspection then Installation.introspectionMethods else []

/-- Adds methods up to the first whose name is taken. -/
def Registry.addAll (r : Registry σ) : List (String × Method σ) → Registry σ × Option RegistrationError
  | [] => (r, none)
  | (name, m) :: rest =>
    match r.add name m with
    | .ok r => r.addAll rest
    | .error problem => (r, some problem)

/-- Puts a capability under a name that is free in the table. -/
def Registry.addCapability (r : Registry σ) (table : Nat) (name : String) (c : Capability) :
    Except RegistrationError (Registry σ) :=
  match r.tables[table]? with
  | none => .ok r
  | some capabilities =>
    if (Members.find? name capabilities).isSome then .error (.capabilityTaken name)
    else .ok { r with tables := r.tables.set table (Members.insert name c capabilities) }

def Registry.removeCapability (r : Registry σ) (table : Nat) (name : String) : Registry σ :=
  match r.tables[table]? with
  | none => r
  | some capabilities => { r with tables := r.tables.set table (Members.erase name capabilities) }

def Registry.capability? (r : Registry σ) (table : Nat) (name : String) : Option Capability :=
  r.tables[table]?.bind (Members.find? name)

/-- Adds the methods of a new installation with a table of its own. If a name is taken, those
added before it stay, and the table stays without the capability for introspection. -/
def Registry.install (r : Registry σ) (introspection : Bool) :
    Registry σ × Except RegistrationError Installation :=
  let installation : Installation := ⟨r.tables.length, introspection⟩
  let opened := { r with tables := r.tables ++ [Capability.initial] }
  match opened.addAll installation.methods with
  | (added, some problem) => (added, .error problem)
  | (added, none) =>
    if introspection then
      match added.addCapability installation.table "introspect" Capability.introspect with
      | .ok complete => (complete, .ok installation)
      | .error problem => (added, .error problem)
    else (added, .ok installation)

/-- Removes the names of an installation. -/
def Registry.uninstall (r : Registry σ) (i : Installation) : Registry σ :=
  ((i.methods : List (String × Method σ)).map Prod.fst).foldl Registry.remove r

end RemoteCall
