import RemoteCall.Base64
import RemoteCall.DateTime.Text
import RemoteCall.Json
import RemoteCall.Value

namespace RemoteCall

/-- JSON has fewer types than values have: bytes and date/times become strings, the two widths of
numbers become one, and a double that is not finite becomes null. -/
def Atom.toJson : Atom → Json
  | .base64 bytes => .string (String.ofList (Base64.encode bytes))
  | .boolean b => .boolean b
  | .dateTime t => .string (String.ofList t.text)
  | .double x => if x.isFinite then .number (.double x) else .null
  | .int32 n => .number (.whole n.toInt)
  | .int64 n => .number (.whole n.toInt)
  | .nil => .null
  | .string s => .string s

mutual

def Value.toJson : Value → Json
  | .atom a => a.toJson
  | .array items => .array (Value.toJsonItems items)
  | .struct members => .object (Members.ofList (Value.toJsonMembers members))

def Value.toJsonItems : List Value → List Json
  | [] => []
  | v :: rest => v.toJson :: Value.toJsonItems rest

def Value.toJsonMembers : List (String × Value) → List (String × Json)
  | [] => []
  | (name, v) :: rest => (name, v.toJson) :: Value.toJsonMembers rest

end

/-- A whole number takes the narrowest type that holds it. -/
def Json.Number.toAtom : Json.Number → Atom
  | .double x => .double x
  | .whole n =>
    match Digits.fit32? n with
    | some word => .int32 word
    | none =>
      match Digits.fit64? n with
      | some word => .int64 word
      | none => .double (Double.ofInt n)

/-- A string that reads as a date/time is one, unless there are blanks around it. -/
def Atom.ofText (s : String) : Atom :=
  match DateTime.ofText? s.toList with
  | some t => if trim s = s then .dateTime t else .string s
  | none => .string s

mutual

def Json.toValue : Json → Value
  | .null => .nil
  | .boolean b => .boolean b
  | .number n => .atom n.toAtom
  | .string s => .atom (Atom.ofText s)
  | .array items => .array (Json.toValues items)
  | .object members => .struct (Json.toMembers members)

def Json.toValues : List Json → List Value
  | [] => []
  | j :: rest => j.toValue :: Json.toValues rest

def Json.toMembers : List (String × Json) → List (String × Value)
  | [] => []
  | (name, j) :: rest => (name, j.toValue) :: Json.toMembers rest

end

end RemoteCall
