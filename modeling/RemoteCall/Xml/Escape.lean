import RemoteCall.Text.Digits

namespace RemoteCall

/-- The characters that are special somewhere in XML are written as references. -/
def Xml.escapeChar : Char → List Char
  | '<' => "&lt;".toList
  | '>' => "&gt;".toList
  | '&' => "&amp;".toList
  | '\'' => "&apos;".toList
  | '"' => "&quot;".toList
  | c => [c]

def Xml.escape (cs : List Char) : List Char :=
  cs.flatMap Xml.escapeChar

/-- The character with this number. Zero, the surrogates and all above U+10FFFF are none. -/
def Xml.charOfNumber? (n : Nat) : Option Char :=
  if n ≠ 0 ∧ n.isValidChar then some (Char.ofNat n) else none

/-- What a reference stands for, by the text between `&` and `;`. -/
def Xml.referent? : List Char → Option Char
  | '#' :: 'x' :: digits => (Digits.hex? digits).bind Xml.charOfNumber?
  | '#' :: digits => (Digits.nat? digits).bind Xml.charOfNumber?
  | name =>
    if name = "lt".toList then some '<'
    else if name = "gt".toList then some '>'
    else if name = "amp".toList then some '&'
    else if name = "apos".toList then some '\''
    else if name = "quot".toList then some '"'
    else none

/-- Text with its references replaced. The first argument holds the reference that is being
read, latest character first, and the second what has been replaced before it, latest first. A reference
ends at the first `;`, and no `&` may come before that. -/
def Xml.unescapeFrom : Option (List Char) → List Char → List Char → Option (List Char)
  | none, done, [] => some done.reverse
  | none, done, c :: cs =>
    if c = '&' then Xml.unescapeFrom (some []) done cs else Xml.unescapeFrom none (c :: done) cs
  | some _, _, [] => none
  | some name, done, c :: cs =>
    if c = ';' then
      match Xml.referent? name.reverse with
      | some referent => Xml.unescapeFrom none (referent :: done) cs
      | none => none
    else if c = '&' then none
    else Xml.unescapeFrom (some (c :: name)) done cs

def Xml.unescape? (cs : List Char) : Option (List Char) :=
  Xml.unescapeFrom none [] cs

end RemoteCall
