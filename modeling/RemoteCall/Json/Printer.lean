import RemoteCall.Double.Text
import RemoteCall.Json

namespace RemoteCall

/-- The quote, the backslash and the control characters are escaped, the usual ones by letter. -/
def Json.escapeChar : Char → List Char
  | '"' => ['\\', '"']
  | '\\' => ['\\', '\\']
  | '\x08' => ['\\', 'b']
  | '\x0c' => ['\\', 'f']
  | '\n' => ['\\', 'n']
  | '\r' => ['\\', 'r']
  | '\t' => ['\\', 't']
  | c =>
    if c.toNat < 0x20 then
      ['\\', 'u', '0', '0', Nat.digitChar (c.toNat / 16), Nat.digitChar (c.toNat % 16)]
    else [c]

def Json.quote (s : String) : List Char :=
  '"' :: s.toList.flatMap Json.escapeChar ++ ['"']

def Json.Number.text : Json.Number → List Char
  | .whole n => Digits.ofInt n
  | .double x => x.text .json

mutual

/-- The document without any white space. -/
def Json.text : Json → List Char
  | .null => "null".toList
  | .boolean b => if b then "true".toList else "false".toList
  | .number n => n.text
  | .string s => Json.quote s
  | .array [] => ['[', ']']
  | .array (j :: rest) => '[' :: j.text ++ Json.itemsText rest
  | .object [] => ['\x7b', '\x7d']
  | .object ((name, j) :: rest) => '\x7b' :: Json.quote name ++ ':' :: j.text ++ Json.membersText rest

/-- The items of an array that follow another item, and the end of the array. -/
def Json.itemsText : List Json → List Char
  | [] => [']']
  | j :: rest => ',' :: j.text ++ Json.itemsText rest

/-- The members of an object that follow another member, and the end of the object. -/
def Json.membersText : List (String × Json) → List Char
  | [] => ['\x7d']
  | (name, j) :: rest => ',' :: Json.quote name ++ ':' :: j.text ++ Json.membersText rest

end

def Json.render (j : Json) : String :=
  String.ofList j.text

end RemoteCall
