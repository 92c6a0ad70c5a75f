import RemoteCall.Fault
import RemoteCall.Value

namespace RemoteCall

def Value.asArray? : Value → Option (List Value)
  | .array items => some items
  | _ => none

def Value.asBase64? : Value → Option (List UInt8)
  | .base64 bytes => some bytes
  | _ => none

def Value.asBoolean? : Value → Option Bool
  | .boolean b => some b
  | _ => none

def Value.asDateTime? : Value → Option DateTime
  | .dateTime t => some t
  | _ => none

def Value.asDouble? : Value → Option Double
  | .double x => some x
  | _ => none

def Value.asInt32? : Value → Option Int32
  | .int32 n => some n
  | _ => none

def Value.asInt64? : Value → Option Int64
  | .int64 n => some n
  | _ => none

def Value.asString? : Value → Option String
  | .string s => some s
  | _ => none

def Value.asStruct? : Value → Option (List (String × Value))
  | .struct members => some members
  | _ => none

/-- A number of any of the three types, as a double. -/
def Value.asNumber? : Value → Option Double
  | .double x => some x
  | .int32 n => some (Double.ofInt n.toInt)
  | .int64 n => some (Double.ofInt n.toInt)
  | _ => none

/-- What a caller left out or gave as another type than is asked for makes the parameters invalid. -/
def Fault.unlessGiven {α : Type} : Option α → Except Fault α
  | some a => .ok a
  | none => .error .invalidParameters

def Value.isNil : Value → Bool
  | .nil => true
  | _ => false

/-- Why a step into a value leads nowhere. -/
inductive AccessError where
  | typeMismatch (expected found : Kind)
  | outOfRange (index length : Nat)
  | keyNotFound (name : String)

def AccessError.message : AccessError → String
  | .typeMismatch expected found => s!"expected {expected.name}, found {found.name}"
  | .outOfRange index length => s!"index {index} out of range for array of length {length}"
  | .keyNotFound name => s!"key not found: {name}"

/-- What a method reports when it passes the error on: where a step leads nowhere, the parameters were invalid. -/
def AccessError.fault (_ : AccessError) : Fault :=
  .invalidParameters

/-- The item of an array. -/
def Value.item (v : Value) (index : Nat) : Except AccessError Value :=
  match v with
  | .array items =>
    match items[index]? with
    | some item => .ok item
    | none => .error (.outOfRange index items.length)
  | v => .error (.typeMismatch .array v.kind)

/-- The member of a struct. -/
def Value.member (v : Value) (name : String) : Except AccessError Value :=
  match v with
  | .struct members =>
    match Members.find? name members with
    | some member => .ok member
    | none => .error (.keyNotFound name)
  | v => .error (.typeMismatch .struct v.kind)

/-- The form in which a fault stands among values. -/
def Fault.toValue (f : Fault) : Value :=
  .struct [("faultCode", .int32 f.code), ("faultString", .string f.message)]

/-- The fault that a struct stands for; further members do not matter. -/
def Fault.ofValue? (v : Value) : Option Fault := do
  let members ← v.asStruct?
  let code ← (Members.find? "faultCode" members).bind Value.asInt32?
  let message ← (Members.find? "faultString" members).bind Value.asString?
  some ⟨code, message⟩

end RemoteCall
