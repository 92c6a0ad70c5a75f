import RemoteCall.Text.Blank
import RemoteCall.Xml.Event
import RemoteCall.Xml.Problem

namespace RemoteCall

/-- An element of a document. Its text is all text directly inside it, joined. -/
structure Xml.Element where
  name : String
  text : String
  children : List Xml.Element

def Xml.Element.child? (e : Xml.Element) (name : String) : Option Xml.Element :=
  e.children.find? fun child => child.name == name

def Xml.Element.lastChild? (e : Xml.Element) (name : String) : Option Xml.Element :=
  e.children.reverse.find? fun child => child.name == name

/-- A document read in part: the elements that are still open, innermost first and each with its
children so far in reverse, or else the outermost element once that is complete. -/
structure Xml.Partial where
  stack : List Xml.Element := []
  root : Option Xml.Element := none

/-- More elements than this may not be open at a time. -/
def Xml.maxDepth : Nat := 384

def Xml.Partial.close (p : Xml.Partial) : Except Xml.Problem Xml.Partial :=
  match p.stack with
  | [] => .error .notWellFormed
  | e :: outer =>
    let e := { e with children := e.children.reverse }
    match outer with
    | [] => .ok { stack := [], root := some e }
    | parent :: rest => .ok { p with stack := { parent with children := e :: parent.children } :: rest }

/-- Text outside the outermost element may only be blank. -/
def Xml.Partial.addText (p : Xml.Partial) (content : List Char) (blank : Bool) :
    Except Xml.Problem Xml.Partial :=
  match p.stack with
  | [] => if blank then .ok p else .error .notWellFormed
  | e :: outer => .ok { p with stack := { e with text := e.text ++ String.ofList content } :: outer }

def Xml.Partial.step (p : Xml.Partial) : Xml.Event → Except Xml.Problem Xml.Partial
  | .start name empty =>
    if p.root.isSome then .error .notWellFormed
    else if Xml.maxDepth ≤ p.stack.length then .error .nestedTooDeeply
    else
      let p := { p with stack := ⟨name, "", []⟩ :: p.stack }
      if empty then p.close else .ok p
  | .finish name =>
    match p.stack with
    | [] => .error .notWellFormed
    | e :: _ => if e.name = name then p.close else .error .notWellFormed
  | .text content => p.addText content (content.all isBlank)
  | .characters content => p.addText content false
  | .ignored => .ok p

/-- At the end of the document, all elements must have been closed, and there must be one. -/
def Xml.Partial.finish (p : Xml.Partial) : Except Xml.Problem Xml.Element :=
  match p.stack, p.root with
  | [], some root => .ok root
  | _, _ => .error .notWellFormed

end RemoteCall
