import RemoteCall.Method

namespace RemoteCall

/-- The type that a method asks of a parameter. -/
inductive Param where
  | any
  | array
  | base64
  | boolean
  | dateTime
  | double
  | int32
  | int64
  | string
  | struct

/-- What a method gets for a parameter of a type. -/
abbrev Param.Carrier : Param → Type
  | .any => Value
  | .array => List Value
  | .base64 => List UInt8
  | .boolean => Bool
  | .dateTime => DateTime
  | .double => Double
  | .int32 => Int32
  | .int64 => Int64
  | .string => String
  | .struct => List (String × Value)

/-- Types are never converted: a number of one width is no number of another. -/
def Param.read? : (p : Param) → Value → Option p.Carrier
  | .any, v => some v
  | .array, v => v.asArray?
  | .base64, v => v.asBase64?
  | .boolean, v => v.asBoolean?
  | .dateTime, v => v.asDateTime?
  | .double, v => v.asDouble?
  | .int32, v => v.asInt32?
  | .int64, v => v.asInt64?
  | .string, v => v.asString?
  | .struct, v => v.asStruct?

/-- The functions of parameters of these types. -/
abbrev Param.Function (ρ : Type) : List Param → Type
  | [] => ρ
  | p :: rest => p.Carrier → Param.Function ρ rest

/-- The function applied to as many parameters as it has, all of the right types. -/
def Param.apply? {ρ : Type} : (ps : List Param) → Param.Function ρ ps → List Value → Option ρ
  | [], result, [] => some result
  | p :: rest, f, v :: vs => (p.read? v).bind fun a => Param.apply? rest (f a) vs
  | _, _, _ => none

/-- A native method that runs only on parameters of exactly these types. -/
def Callable.typed {σ : Type} (ps : List Param) (f : Param.Function (σ → Outcome × σ) ps) : Callable σ :=
  .native fun params s =>
    match Param.apply? ps f params with
    | some run => run s
    | none => (.fault .invalidParameters, s)

end RemoteCall
