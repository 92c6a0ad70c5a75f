import RemoteCall.DateTime
import RemoteCall.Double
import RemoteCall.Members

namespace RemoteCall

/-- The types that a value can have. -/
inductive Kind where
  | array
  | base64
  | boolean
  | dateTime
  | double
  | int32
  | int64
  | nil
  | string
  | struct
  deriving DecidableEq

/-- The name that a type has in documents, signatures and messages. -/
def Kind.name : Kind → String
  | .array => "array"
  | .base64 => "base64"
  | .boolean => "boolean"
  | .dateTime => "dateTime.iso8601"
  | .double => "double"
  | .int32 => "i4"
  | .int64 => "i8"
  | .nil => "nil"
  | .string => "string"
  | .struct => "struct"

/-- The type with its name spelled out, for listings of a registry. -/
def Kind.label : Kind → String
  | .array => "Array"
  | .base64 => "Binary"
  | .boolean => "Boolean"
  | .dateTime => "DateTime"
  | .double => "Double"
  | .int32 => "Integer32"
  | .int64 => "Integer64"
  | .nil => "Nil"
  | .string => "String"
  | .struct => "Struct"

def Kind.all : List Kind :=
  [.array, .base64, .boolean, .dateTime, .double, .int32, .int64, .nil, .string, .struct]

def Kind.ofName? (name : String) : Option Kind :=
  Kind.all.find? fun kind => kind.name == name

/-- A value without parts. -/
inductive Atom where
  | base64 (bytes : List UInt8)
  | boolean (b : Bool)
  | dateTime (t : DateTime)
  | double (x : Double)
  | int32 (n : Int32)
  | int64 (n : Int64)
  | nil
  | string (s : String)
  deriving DecidableEq

def Atom.kind : Atom → Kind
  | .base64 _ => .base64
  | .boolean _ => .boolean
  | .dateTime _ => .dateTime
  | .double _ => .double
  | .int32 _ => .int32
  | .int64 _ => .int64
  | .nil => .nil
  | .string _ => .string

/-- What is passed to methods and comes back from them. -/
inductive Value where
  | atom (a : Atom)
  | array (items : List Value)
  | struct (members : List (String × Value))

@[match_pattern] abbrev Value.base64 (bytes : List UInt8) : Value := .atom (.base64 bytes)
@[match_pattern] abbrev Value.boolean (b : Bool) : Value := .atom (.boolean b)
@[match_pattern] abbrev Value.dateTime (t : DateTime) : Value := .atom (.dateTime t)
@[match_pattern] abbrev Value.double (x : Double) : Value := .atom (.double x)
@[match_pattern] abbrev Value.int32 (n : Int32) : Value := .atom (.int32 n)
@[match_pattern] abbrev Value.int64 (n : Int64) : Value := .atom (.int64 n)
@[match_pattern] abbrev Value.nil : Value := .atom .nil
@[match_pattern] abbrev Value.string (s : String) : Value := .atom (.string s)

instance : Inhabited Value := ⟨.nil⟩

/-- A struct of members in any order; the last of equal names counts. -/
def Value.ofMembers (members : List (String × Value)) : Value :=
  .struct (Members.ofList members)

def Value.kind : Value → Kind
  | .atom a => a.kind
  | .array _ => .array
  | .struct _ => .struct

mutual

/-- In every struct of the value, members come in the order of their names. -/
def Value.Ordered : Value → Prop
  | .atom _ => True
  | .array items => Value.OrderedItems items
  | .struct members => Members.Ordered members ∧ Value.OrderedMembers members

def Value.OrderedItems : List Value → Prop
  | [] => True
  | v :: rest => v.Ordered ∧ Value.OrderedItems rest

def Value.OrderedMembers : List (String × Value) → Prop
  | [] => True
  | (_, v) :: rest => v.Ordered ∧ Value.OrderedMembers rest

end

def Atom.agrees : Atom → Atom → Bool
  | .double x, .double y => x.agrees y
  | a, b => decide (a = b)

mutual

/-- Equality as numbers have it: doubles are compared as numbers, all else as it is. -/
def Value.agrees : Value → Value → Bool
  | .atom a, .atom b => a.agrees b
  | .array xs, .array ys => Value.agreeItems xs ys
  | .struct xs, .struct ys => Value.agreeMembers xs ys
  | _, _ => false

def Value.agreeItems : List Value → List Value → Bool
  | [], [] => true
  | x :: xs, y :: ys => x.agrees y && Value.agreeItems xs ys
  | _, _ => false

def Value.agreeMembers : List (String × Value) → List (String × Value) → Bool
  | [], [] => true
  | (a, x) :: xs, (b, y) :: ys => a == b && x.agrees y && Value.agreeMembers xs ys
  | _, _ => false

end

end RemoteCall
