import RemoteCall.Base64
import RemoteCall.DateTime.Text
import RemoteCall.Double.Reading
import RemoteCall.Message
import RemoteCall.Xml.Element

namespace RemoteCall

theorem Xml.Element.child_size {e child : Xml.Element} {name : String}
    (found : e.child? name = some child) : sizeOf child < sizeOf e.children :=
  List.sizeOf_lt_of_mem (List.mem_of_find?_eq_some found)

theorem Xml.Element.lastChild_size {e child : Xml.Element} {name : String}
    (found : e.lastChild? name = some child) : sizeOf child < sizeOf e.children :=
  List.sizeOf_lt_of_mem (List.mem_reverse.mp (List.mem_of_find?_eq_some found))

theorem Xml.Element.children_size (e : Xml.Element) : sizeOf e.children < sizeOf e := by
  cases e
  simp only [Xml.Element.mk.sizeOf_spec]
  omega

/-- The text of an element without the blanks around it. -/
def Xml.Element.content (e : Xml.Element) : List Char :=
  trimmed e.text.toList

def Xml.Problem.unless {α : Type} (problem : Xml.Problem) : Option α → Except Xml.Problem α
  | some a => .ok a
  | none => .error problem

def Xml.boolean? (cs : List Char) : Option Bool :=
  if cs = "1".toList ∨ cs = "true".toList then some true
  else if cs = "0".toList ∨ cs = "false".toList then some false
  else none

/-- The value in an element that is named for a type without parts. -/
def Xml.Element.atom (e : Xml.Element) : Except Xml.Problem Atom :=
  match e.name with
  | "base64" => .base64 <$> Xml.Problem.notBase64.unless (Base64.decode? e.content)
  | "boolean" => .boolean <$> Xml.Problem.notBoolean.unless (Xml.boolean? e.content)
  | "dateTime.iso8601" => .dateTime <$> Xml.Problem.notDateTime.unless (DateTime.ofText? e.content)
  | "double" => .double <$> Xml.Problem.notDouble.unless (Double.ofText? e.content)
  | "i4" => .int32 <$> Xml.Problem.notInt32.unless (Digits.int32? e.content)
  | "int" => .int32 <$> Xml.Problem.notInt32.unless (Digits.int32? e.content)
  | "i8" => .int64 <$> Xml.Problem.notInt64.unless (Digits.int64? e.content)
  | "nil" => .ok .nil
  | "string" => .ok (.string e.text)
  | _ => .error .unknownType

mutual

/-- The value in an element `value`. Without an element for its type inside, it is a string. -/
def Xml.Element.value (e : Xml.Element) : Except Xml.Problem Value :=
  if e.name ≠ "value" then .error .missingValue
  else match _inside : e.children with
    | [] => .ok (.string e.text)
    | typed :: _ =>
      if typed.name = "array" then
        match _found : typed.child? "data" with
        | some data => .array <$> Xml.Element.values data.children
        | none => .error .missingData
      else if typed.name = "struct" then Value.ofMembers <$> Xml.Element.members typed.children
      else .atom <$> typed.atom
termination_by sizeOf e
decreasing_by
  · have outer := e.children_size
    have inner := Xml.Element.child_size _found
    have := typed.children_size
    have := data.children_size
    simp only [_inside, List.cons.sizeOf_spec] at outer
    omega
  · have outer := e.children_size
    have := typed.children_size
    simp only [_inside, List.cons.sizeOf_spec] at outer
    omega

def Xml.Element.values : List Xml.Element → Except Xml.Problem (List Value)
  | [] => .ok []
  | e :: rest => do
    let v ← e.value
    let more ← Xml.Element.values rest
    return v :: more
termination_by es => sizeOf es

/-- The members of a struct. In an element `member`, the first `name` and the last `value`
count; other elements are passed over. -/
def Xml.Element.members : List Xml.Element → Except Xml.Problem (List (String × Value))
  | [] => .ok []
  | e :: rest =>
    if e.name ≠ "member" then Xml.Element.members rest
    else match e.child? "name" with
      | none => .error .missingMemberName
      | some name =>
        match _found : e.lastChild? "value" with
        | none => .error .missingValue
        | some inside => do
          let v ← inside.value
          let more ← Xml.Element.members rest
          return (name.text, v) :: more
termination_by es => sizeOf es
decreasing_by
  · simp only [List.cons.sizeOf_spec]
    omega
  · have := e.children_size
    have := Xml.Element.lastChild_size _found
    simp only [List.cons.sizeOf_spec]
    omega
  · simp only [List.cons.sizeOf_spec]
    omega

end

/-- The value in the first element inside. -/
def Xml.Element.innerValue (e : Xml.Element) : Except Xml.Problem Value :=
  match e.children with
  | [] => .error .missingValue
  | first :: _ => first.value

/-- The values in the elements `param`; other elements are passed over. -/
def Xml.Element.parameters (e : Xml.Element) : Except Xml.Problem (List Value) :=
  (e.children.filter fun child => child.name == "param").mapM Xml.Element.innerValue

/-- A call by its outermost element. -/
def Xml.Element.request (e : Xml.Element) : Except Xml.Problem Request :=
  if e.name ≠ "methodCall" then .error .missingMethodCall
  else
    let method := ((e.child? "methodName").map Xml.Element.content).getD []
    if method.isEmpty then .error .missingMethodName
    else
      let params := match e.child? "params" with
        | some params => params.parameters
        | none => .ok []
      params.map fun params => { method := String.ofList method, params }

/-- The fault that a struct in an element `fault` stands for. -/
def Xml.faultOf : Value → Except Xml.Problem Fault
  | .struct members =>
    match Members.find? "faultCode" members with
    | some (.int32 code) =>
      match Members.find? "faultString" members with
      | some (.string message) => .ok ⟨code, message⟩
      | _ => .error .missingFaultString
    | _ => .error .missingFaultCode
  | _ => .error .faultNotStruct

/-- The answer to a call by its outermost element. -/
def Xml.Element.response (e : Xml.Element) : Except Xml.Problem Response :=
  if e.name ≠ "methodResponse" then .error .missingMethodResponse
  else match e.child? "params" with
    | some params =>
      match params.child? "param" with
      | some param => param.innerValue.map fun v => { result := .ok v }
      | none => .error .missingResult
    | none =>
      match e.child? "fault" with
      | some fault => (fault.innerValue.bind Xml.faultOf).map fun f => { result := .error f }
      | none => .error .missingResult

end RemoteCall
