import RemoteCall.Message
import RemoteCall.Registry.Introspection

namespace RemoteCall

variable {σ : Type}

/-- One call of several that are made at once. -/
structure Call where
  method : String
  params : List Value

/-- A call as a struct describes it. Parameters may be left out, but several calls at once may not
be one of several. -/
def Call.ofValue (v : Value) : Except Fault Call :=
  match v with
  | .struct members =>
    match Members.find? "methodName" members with
    | some (.string method) =>
      if method = Registry.multicallName then
        .error (.internalError "Recursive system.multicall forbidden")
      else match Members.find? "params" members with
        | none => .ok ⟨method, []⟩
        | some (.array params) => .ok ⟨method, params⟩
        | some _ => .error .invalidParameters
    | _ => .error .invalidParameters
  | _ => .error .invalidParameters

theorem Members.sizeOf_find {name : String} {members : List (String × Value)} {v : Value}
    (found : Members.find? name members = some v) : sizeOf v < sizeOf members := by
  induction members with
  | nil => simp [Members.find?] at found
  | cons entry rest ih =>
    obtain ⟨other, first⟩ := entry
    simp only [Members.find?] at found
    split at found
    · simp only [Option.some.injEq] at found
      simp only [found, List.cons.sizeOf_spec, Prod.mk.sizeOf_spec]
      omega
    · have := ih found
      simp only [List.cons.sizeOf_spec]
      omega

/-- The parameters of a call are a part of the struct that describes it. -/
theorem Call.sizeOf_params {v : Value} {c : Call} (read : Call.ofValue v = .ok c) :
    sizeOf c.params < sizeOf v := by
  unfold Call.ofValue at read
  split at read
  · split at read
    · split at read
      · cases read
      · split at read
        · rename_i named _ _ _
          cases read
          have := Members.sizeOf_find named
          simp only [List.nil.sizeOf_spec, Value.struct.sizeOf_spec]
          omega
        · rename_i found
          cases read
          have := Members.sizeOf_find found
          simp only [Value.array.sizeOf_spec] at this
          simp only [Value.struct.sizeOf_spec]
          omega
        · cases read
    · cases read
  · cases read

mutual

/-- Runs the method of this name. Calls inside a call have smaller parameters than it has, so
the run comes to an end whatever the registry holds. -/
def Registry.run (r : Registry σ) (name : String) (params : List Value) (s : σ) :
    Except Fault Value × σ :=
  match r.method? name with
  | none => (.error (.methodNotFound name), s)
  | some m =>
    match m.callable with
    | .native run =>
      let (outcome, s) := run params s
      (outcome.result, s)
    | .multicall =>
      match _h : params with
      | .array calls :: _ =>
        let (entries, s) := r.runAll calls s
        (.ok (.array entries), s)
      | _ => (.error .invalidParameters, s)
    | .capabilities table => (r.getCapabilities table params, s)
    | .listMethods => (r.listMethods params, s)
    | .methodSignature => (r.methodSignature params, s)
    | .methodHelp => (r.methodHelp params, s)
termination_by sizeOf params
decreasing_by
  simp only [List.cons.sizeOf_spec, Value.array.sizeOf_spec]
  omega

/-- Runs calls one after the other. The entry of a call that succeeds is an array of its result
alone, and that of any other the struct form of its fault. -/
def Registry.runAll (r : Registry σ) (calls : List Value) (s : σ) : List Value × σ :=
  match calls with
  | [] => ([], s)
  | v :: rest =>
    match _read : Call.ofValue v with
    | .error f =>
      let (entries, s) := r.runAll rest s
      (f.toValue :: entries, s)
    | .ok call =>
      match r.run call.method call.params s with
      | (.ok result, s) =>
        let (entries, s) := r.runAll rest s
        (.array [result] :: entries, s)
      | (.error f, s) =>
        let (entries, s) := r.runAll rest s
        (f.toValue :: entries, s)
termination_by sizeOf calls
decreasing_by
  · simp only [List.cons.sizeOf_spec]
    omega
  · have := Call.sizeOf_params _read
    simp only [List.cons.sizeOf_spec]
    omega
  · simp only [List.cons.sizeOf_spec]
    omega
  · simp only [List.cons.sizeOf_spec]
    omega

end

/-- The answer to a call, whatever comes of it. -/
def Registry.invoke (r : Registry σ) (name : String) (params : List Value) (id : Value) (s : σ) :
    Response × σ :=
  let (result, s) := r.run name params s
  ({ result, id }, s)

end RemoteCall
