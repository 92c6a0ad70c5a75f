import RemoteCall.DateTime.Text
import RemoteCall.Double.Text
import RemoteCall.Text.Quoted
import RemoteCall.Value

namespace RemoteCall

def Atom.display : Atom → String
  | .base64 bytes => s!"<{bytes.length} bytes>"
  | .boolean b => if b then "true" else "false"
  | .dateTime t => String.ofList t.text
  | .double x => String.ofList (x.text .display)
  | .int32 n => String.ofList (Digits.ofInt n.toInt)
  | .int64 n => String.ofList (Digits.ofInt n.toInt)
  | .nil => "nil"
  | .string s => quoted s

mutual

/-- The value on one line, for people. -/
def Value.display : Value → String
  | .atom a => a.display
  | .array items => "[" ++ ", ".intercalate (Value.displayItems items) ++ "]"
  | .struct members => "\x7b" ++ ", ".intercalate (Value.displayMembers members) ++ "\x7d"

def Value.displayItems : List Value → List String
  | [] => []
  | v :: rest => v.display :: Value.displayItems rest

def Value.displayMembers : List (String × Value) → List String
  | [] => []
  | (name, v) :: rest => (name ++ ": " ++ v.display) :: Value.displayMembers rest

end

end RemoteCall
