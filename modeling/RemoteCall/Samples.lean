import RemoteCall.Method.Typed
import RemoteCall.Value.Display

namespace RemoteCall

/-- What sample methods share: a counter, and the numbers recorded so far, latest first. -/
structure Sample.State where
  count : Int32 := 0
  log : List Int32 := []

/-- A method that only computes. -/
def Sample.pure (o : Outcome) (s : Sample.State) : Outcome × Sample.State :=
  (o, s)

def Sample.value (v : Value) : Sample.State → Outcome × Sample.State :=
  Sample.pure (.value v)

def Sample.join (parts : List String) : Sample.State → Outcome × Sample.State :=
  Sample.value (.string (",".intercalate parts))

/-- A method that takes the parameter list as it is. -/
def Sample.raw (f : List Value → Outcome) : Callable Sample.State :=
  .native fun params => Sample.pure (f params)

def Sample.outcome : Except Fault Value → Outcome
  | .ok v => .value v
  | .error f => .fault f

/-- What a step from the first parameter leads to. -/
def Sample.step (access : Value → Except AccessError Value) (params : List Value) : Outcome :=
  Sample.outcome do
    let first ← Fault.unlessGiven params.head?
    (access first).mapError AccessError.fault

/-- The parameters added from left to right as doubles. -/
def Sample.sum (params : List Value) : Outcome :=
  Sample.outcome do
    let xs ← params.mapM fun v => Fault.unlessGiven v.asNumber?
    return .double (xs.foldl Double.add Double.zero)

/-- The items of an array as members named for their texts. -/
def Sample.toStruct : List Value → Outcome
  | .array items :: _ =>
    .value (Value.ofMembers (items.map fun v => ((v.asString?).getD v.display, v)))
  | _ => .fault .invalidParameters

def Sample.typed : List (String × Callable Sample.State) :=
  [("add", .typed [.int32, .int32] fun (a b : Int32) => Sample.value (.int32 (a + b))),
    ("concat", .typed [.string, .string] fun (a b : String) => Sample.value (.string (a ++ b))),
    ("divide", .typed [.double, .double] fun (a b : Double) =>
      if b.isZero then Sample.pure (.fault (.application "division by zero" 1))
      else Sample.value (.double (a.div b))),
    ("echo", .typed [.any] fun (v : Value) => Sample.value v),
    ("const", .typed [] (Sample.value (.string "constant"))),
    ("id_bool", .typed [.boolean] fun (b : Bool) => Sample.value (.boolean b)),
    ("id_i32", .typed [.int32] fun (n : Int32) => Sample.value (.int32 n)),
    ("id_i64", .typed [.int64] fun (n : Int64) => Sample.value (.int64 n)),
    ("id_f64", .typed [.double] fun (x : Double) => Sample.value (.double x)),
    ("id_string", .typed [.string] fun (s : String) => Sample.value (.string s)),
    ("id_binary", .typed [.base64] fun (bytes : List UInt8) => Sample.value (.base64 bytes)),
    ("id_datetime", .typed [.dateTime] fun (t : DateTime) => Sample.value (.dateTime t)),
    ("id_array", .typed [.array] fun (items : List Value) => Sample.value (.array items)),
    ("id_struct", .typed [.struct] fun (members : List (String × Value)) =>
      Sample.value (.struct members)),
    ("mixed3", .typed [.boolean, .int64, .string] fun (a : Bool) (b : Int64) (c : String) =>
      Sample.value (.string (String.ofList
        ((if a then "true" else "false").toList ++ '|' :: Digits.ofInt b.toInt ++ '|' :: c.toList)))),
    ("join4", .typed [.string, .string, .string, .string] fun (a b c d : String) =>
      Sample.join [a, b, c, d]),
    ("join5", .typed [.string, .string, .string, .string, .string] fun (a b c d e : String) =>
      Sample.join [a, b, c, d, e]),
    ("join6", .typed [.string, .string, .string, .string, .string, .string]
      fun (a b c d e f : String) => Sample.join [a, b, c, d, e, f]),
    ("join7", .typed [.string, .string, .string, .string, .string, .string, .string]
      fun (a b c d e f g : String) => Sample.join [a, b, c, d, e, f, g]),
    ("join8", .typed [.string, .string, .string, .string, .string, .string, .string, .string]
      fun (a b c d e f g h : String) => Sample.join [a, b, c, d, e, f, g, h]),
    ("count", .typed [] fun s => (.value (.int32 (s.count + 1)), { s with count := s.count + 1 })),
    ("record", .typed [.int32] fun (n : Int32) s => (.value .nil, { s with log := n :: s.log })),
    ("fault", .typed [.string, .int32] fun (message : String) (code : Int32) =>
      Sample.pure (.fault (.application message code))),
    ("panic", .typed [.string] fun (message : String) => Sample.pure (.breakdown (some message))),
    ("panic_static", .typed [] (Sample.pure (.breakdown (some "kaboom")))),
    ("panic_any", .typed [] (Sample.pure (.breakdown none)))]

def Sample.untyped : List (String × Callable Sample.State) :=
  [("first_or_true", Sample.raw fun params => .value (params.head?.getD (.boolean true))),
    ("second", Sample.raw fun params =>
      match params[1]? with
      | some v => .value v
      | none => .breakdown (some "index out of bounds")),
    ("tail", Sample.raw fun params =>
      if 2 ≤ params.length then .value (.array (params.drop 2))
      else .breakdown (some "range start index")),
    ("element", Sample.raw (Sample.step fun v => v.item 1)),
    ("member", Sample.raw (Sample.step fun v => v.member "x")),
    ("sum", Sample.raw Sample.sum),
    ("to_struct", Sample.raw Sample.toStruct)]

/-- Small methods of every form, by name. -/
def Sample.callable? (name : String) : Option (Callable Sample.State) :=
  Members.find? name (Sample.typed ++ Sample.untyped)

end RemoteCall
