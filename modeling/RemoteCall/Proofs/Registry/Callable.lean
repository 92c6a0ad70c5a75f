import RemoteCall.Proofs.Registry.Multicall

namespace RemoteCall

variable {σ : Type}

/-- What the method for several calls at once does. -/
def Registry.runMulticall (r : Registry σ) (params : List Value) (s : σ) : Except Fault Value × σ :=
  match params with
  | .array calls :: _ => (.ok (.array (r.runAll calls s).1), (r.runAll calls s).2)
  | _ => (.error .invalidParameters, s)

/-- What a callable does in a registry with parameters and a state. -/
def Callable.run (c : Callable σ) (r : Registry σ) (params : List Value) (s : σ) : Except Fault Value × σ :=
  match c with
  | .native run => ((run params s).1.result, (run params s).2)
  | .multicall => r.runMulticall params s
  | .capabilities table => (r.getCapabilities table params, s)
  | .listMethods => (r.listMethods params, s)
  | .methodSignature => (r.methodSignature params, s)
  | .methodHelp => (r.methodHelp params, s)

/-- A call runs what its name stands for. -/
theorem Registry.run_of_found {r : Registry σ} {name : String} {m : Method σ} (found : r.method? name = some m)
    (params : List Value) (s : σ) : r.run name params s = m.callable.run r params s := by
  unfold Registry.run
  simp only [found]
  cases m.callable with
  | multicall =>
    simp only [Callable.run]
    unfold Registry.runMulticall
    split
    · rfl
    · rename_i other
      split
      · exact (other _ _ rfl).elim
      · rfl
  | native | capabilities | listMethods | methodSignature | methodHelp => rfl

theorem Registry.run_of_bound {r : Registry σ} {name : String} {c : Callable σ}
    (bound : ∃ m, r.method? name = some m ∧ m.callable = c) (params : List Value) (s : σ) :
    r.run name params s = c.run r params s := by
  obtain ⟨m, found, rfl⟩ := bound
  exact Registry.run_of_found found params s

/-- What is entered for one call of several. -/
def Call.entry : Except Fault Value → Value
  | .ok result => .array [result]
  | .error f => f.toValue

theorem Registry.runOne_of_refused {v : Value} {f : Fault} (refused : Call.ofValue v = .error f) (r : Registry σ)
    (s : σ) : r.runOne s v = (f.toValue, s) := by
  rw [Registry.runOne, refused]

theorem Registry.runOne_of_read {v : Value} {call : Call} (read : Call.ofValue v = .ok call) (r : Registry σ)
    (s : σ) :
    r.runOne s v = (Call.entry (r.run call.method call.params s).1, (r.run call.method call.params s).2) := by
  simp only [Registry.runOne, read]
  cases r.run call.method call.params s with
  | mk result after => cases result <;> rfl

end RemoteCall
