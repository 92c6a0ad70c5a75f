import RemoteCall.Value.Access

namespace RemoteCall

/-- A call. Formats without ids leave the id nil. -/
structure Request where
  method : String
  params : List Value
  id : Value := .nil

/-- A call that wants no answer. -/
def Request.isNotification (r : Request) : Bool :=
  r.id.isNil

/-- The answer to a call. -/
structure Response where
  result : Except Fault Value
  id : Value := .nil

def Response.isFault (r : Response) : Bool :=
  match r.result with
  | .ok _ => false
  | .error _ => true

/-- The result as one value, where a fault takes its struct form. -/
def Response.value (r : Response) : Value :=
  match r.result with
  | .ok v => v
  | .error f => f.toValue

/-- Equality with doubles compared as numbers. -/
def Request.agrees (a b : Request) : Bool :=
  a.method == b.method && Value.agreeItems a.params b.params && a.id.agrees b.id

/-- Equality with doubles compared as numbers. -/
def Response.agrees (a b : Response) : Bool :=
  a.id.agrees b.id &&
    match a.result, b.result with
    | .ok v, .ok w => v.agrees w
    | .error f, .error g => decide (f = g)
    | _, _ => false

end RemoteCall
