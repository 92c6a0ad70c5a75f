import RemoteCall.Json.Coding
import RemoteCall.Message

namespace RemoteCall

/-- What can be wrong with a document: its form as JSON, or its form as a message. -/
inductive Json.Problem where
  | notWellFormed
  | requestNotObject
  | responseNotObject
  | missingVersion
  | missingMethod
  | paramsNotArray
  | invalidParams
  | invalidId
  | missingResult
  | errorNotObject
  | missingErrorCode
  | missingErrorMessage
  deriving DecidableEq

def Json.Problem.fault : Json.Problem → Fault
  | .notWellFormed => .notWellFormed
  | .requestNotObject => .invalidJson "request is not an object"
  | .responseNotObject => .invalidJson "response is not an object"
  | .missingVersion => .invalidJson "missing or invalid jsonrpc version"
  | .missingMethod => .invalidJson "missing or invalid method"
  | .paramsNotArray => .invalidJson "params must be an array"
  | .invalidParams => .invalidJson "invalid params"
  | .invalidId => .invalidJson "invalid id"
  | .missingResult => .invalidJson "missing result or error"
  | .errorNotObject => .invalidJson "error is not an object"
  | .missingErrorCode => .invalidJson "missing or invalid error code"
  | .missingErrorMessage => .invalidJson "missing or invalid error message"

def Json.asString? : Json → Option String
  | .string s => some s
  | _ => none

/-- A whole number of 32 bits. -/
def Json.asInt32? : Json → Option Int32
  | .number (.whole n) => Digits.fit32? n
  | _ => none

/-- The members of a message, which must be an object and of version 2.0. -/
def Json.envelope (problem : Json.Problem) : Json → Except Json.Problem (List (String × Json))
  | .object members =>
    if (Members.find? "jsonrpc" members).bind Json.asString? = some "2.0" then .ok members
    else .error .missingVersion
  | _ => .error problem

/-- The id of a message; null is as good as none. -/
def Json.messageId (members : List (String × Json)) : Except Json.Problem Value :=
  match Members.find? "id" members with
  | none => .ok .nil
  | some .null => .ok .nil
  | some (.string s) => .ok (Json.string s).toValue
  | some (.number n) => .ok (Json.number n).toValue
  | some _ => .error .invalidId

def Json.parameters (members : List (String × Json)) : Except Json.Problem (List Value) :=
  match Members.find? "params" members with
  | none => .ok []
  | some (.array items) => .ok (Json.toValues items)
  | some (.object _) => .error .paramsNotArray
  | some _ => .error .invalidParams

/-- A call by its document. -/
def Json.request (j : Json) : Except Json.Problem Request := do
  let members ← j.envelope .requestNotObject
  match (Members.find? "method" members).bind Json.asString? with
  | none => .error .missingMethod
  | some method =>
    let params ← Json.parameters members
    let id ← Json.messageId members
    return { method, params, id }

def Json.faultOf : Json → Except Json.Problem Fault
  | .object members =>
    match (Members.find? "code" members).bind Json.asInt32? with
    | none => .error .missingErrorCode
    | some code =>
      match (Members.find? "message" members).bind Json.asString? with
      | none => .error .missingErrorMessage
      | some message => .ok ⟨code, message⟩
  | _ => .error .errorNotObject

/-- The answer to a call by its document. Where there is a result, an error does not matter. -/
def Json.response (j : Json) : Except Json.Problem Response := do
  let members ← j.envelope .responseNotObject
  let id ← Json.messageId members
  match Members.find? "result" members with
  | some result => return { result := .ok result.toValue, id }
  | none =>
    match Members.find? "error" members with
    | none => .error .missingResult
    | some error =>
      let fault ← Json.faultOf error
      return { result := .error fault, id }

end RemoteCall
