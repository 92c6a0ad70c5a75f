import RemoteCall.Value.Access

namespace RemoteCall

/-- How a run of a method ends. One that breaks down may leave a message that says why. -/
inductive Outcome where
  | value (v : Value)
  | fault (f : Fault)
  | breakdown (message : Option String)

/-- The messages that a position past the end of the parameters breaks down with. -/
def Outcome.boundsMessages : List String :=
  ["index out of bounds", "range start index", "range end index", "slice index starts"]

/-- Parameters that are missing are the caller's doing, any other breakdown is not. -/
def Outcome.ofBreakdown : Option String → Fault
  | some message =>
    if Outcome.boundsMessages.any fun start => start.toList.isPrefixOf message.toList then
      .invalidParameters
    else .application message 0
  | none => .application "unknown error" 0

def Outcome.result : Outcome → Except Fault Value
  | .value v => .ok v
  | .fault f => .error f
  | .breakdown message => .error (Outcome.ofBreakdown message)

/-- What runs under a name. A native method takes the parameters and changes the state `σ` that
all native methods share; the others are methods of the registry itself. -/
inductive Callable (σ : Type) where
  | native (run : List Value → σ → Outcome × σ)
  | multicall
  | capabilities (table : Nat)
  | listMethods
  | methodSignature
  | methodHelp

/-- A method with what is told about it. Each signature is a result type and the types of the
parameters behind it. -/
structure Method (σ : Type) where
  callable : Callable σ
  help : String := ""
  signatures : List (List Kind) := []
  hidden : Bool := false

end RemoteCall
