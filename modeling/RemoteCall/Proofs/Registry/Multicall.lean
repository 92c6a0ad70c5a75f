import RemoteCall.Proofs.Call

namespace RemoteCall

variable {σ : Type}

/-- A struct that names a method, with its parameters in an array or without any. -/
inductive Value.Describes : Value → String → List Value → Prop
  | given {members : List (String × Value)} {method : String} {params : List Value} :
      Members.find? "methodName" members = some (.string method) →
      Members.find? "params" members = some (.array params) → Describes (.struct members) method params
  | bare {members : List (String × Value)} {method : String} :
      Members.find? "methodName" members = some (.string method) →
      Members.find? "params" members = none → Describes (.struct members) method []

/-- A struct that names the method for several calls at once, whatever its parameters are. -/
def Value.NamesMulticall (v : Value) : Prop :=
  ∃ members, v = .struct members ∧ Members.find? "methodName" members = some (.string Registry.multicallName)

/-- A struct of two members from which the fault can be told. -/
def Value.Reports (v : Value) (f : Fault) : Prop :=
  (∃ code message, v = .struct [code, message]) ∧ Fault.ofValue? v = some f

/-- How one call of several turns a state into the next and what is entered for it. A call that is
described is made on the spot; any other leaves the state as it is. -/
inductive Registry.Enters (r : Registry σ) (s : σ) : Value → Value → σ → Prop
  | result {v : Value} {method : String} {params : List Value} {result : Value} :
      v.Describes method params → method ≠ Registry.multicallName →
      (r.invoke method params .nil s).1.result = .ok result →
      Enters r s v (.array [result]) (r.invoke method params .nil s).2
  | fault {v entry : Value} {method : String} {params : List Value} {f : Fault} :
      v.Describes method params → method ≠ Registry.multicallName →
      (r.invoke method params .nil s).1.result = .error f → entry.Reports f →
      Enters r s v entry (r.invoke method params .nil s).2
  | recursive {v entry : Value} : v.NamesMulticall →
      entry.Reports (.internalError "Recursive system.multicall forbidden") → Enters r s v entry s
  | malformed {v entry : Value} : ¬v.NamesMulticall → (∀ method params, ¬v.Describes method params) →
      entry.Reports .invalidParameters → Enters r s v entry s

theorem Fault.reports_toValue (f : Fault) : f.toValue.Reports f :=
  ⟨⟨_, _, rfl⟩, rfl⟩

/-- What reads as a call is described as one, and it is not a call of several. -/
theorem Call.describes_of_ofValue {v : Value} {call : Call} (read : Call.ofValue v = .ok call) :
    v.Describes call.method call.params ∧ call.method ≠ Registry.multicallName := by
  unfold Call.ofValue at read
  split at read
  · split at read
    · rename_i named
      split at read
      · cases read
      · rename_i single
        split at read
        · rename_i absent
          cases read
          exact ⟨.bare named absent, single⟩
        · rename_i given
          cases read
          exact ⟨.given named given, single⟩
        · cases read
    · cases read
  · cases read

theorem Call.ofValue_of_describes {v : Value} {method : String} {params : List Value}
    (describes : v.Describes method params) (single : method ≠ Registry.multicallName) :
    Call.ofValue v = .ok ⟨method, params⟩ := by
  cases describes with
  | given named given => simp only [Call.ofValue, named, single, if_false, given]
  | bare named absent => simp only [Call.ofValue, named, single, if_false, absent]

theorem Call.ofValue_of_namesMulticall {v : Value} (names : v.NamesMulticall) :
    Call.ofValue v = .error (.internalError "Recursive system.multicall forbidden") := by
  obtain ⟨members, rfl, named⟩ := names
  simp only [Call.ofValue, named, if_true]

/-- There are no reasons to refuse a call but these two. -/
theorem Call.ofValue_eq_error {v : Value} {f : Fault} (refused : Call.ofValue v = .error f) :
    v.NamesMulticall ∨ f = .invalidParameters := by
  unfold Call.ofValue at refused
  split at refused
  · split at refused
    · rename_i method named
      split at refused
      · rename_i several
        subst several
        exact Or.inl ⟨_, rfl, named⟩
      · split at refused
        · cases refused
        · cases refused
        · cases refused
          exact Or.inr rfl
    · cases refused
      exact Or.inr rfl
  · cases refused
    exact Or.inr rfl

/-- One call of several: its entry and the state behind it. -/
def Registry.runOne (r : Registry σ) (s : σ) (v : Value) : Value × σ :=
  match Call.ofValue v with
  | .error f => (f.toValue, s)
  | .ok call =>
    match r.run call.method call.params s with
    | (.ok result, s) => (.array [result], s)
    | (.error f, s) => (f.toValue, s)

/-- The state behind several calls. -/
def Registry.stateAfter (r : Registry σ) (s : σ) (calls : List Value) : σ :=
  calls.foldl (fun s v => (r.runOne s v).2) s

theorem Registry.runAll_cons (r : Registry σ) (v : Value) (rest : List Value) (s : σ) :
    r.runAll (v :: rest) s =
      ((r.runOne s v).1 :: (r.runAll rest (r.runOne s v).2).1, (r.runAll rest (r.runOne s v).2).2) := by
  rw [Registry.runAll, Registry.runOne]
  split
  · rename_i refused
    rw [refused]
  · rename_i call read
    rw [read]
    split
    · rename_i returned
      simp only [returned]
    · rename_i faulted
      simp only [faulted]

theorem Registry.runAll_nil (r : Registry σ) (s : σ) : r.runAll [] s = ([], s) := by
  rw [Registry.runAll]

theorem Registry.length_runAll (r : Registry σ) (calls : List Value) (s : σ) :
    (r.runAll calls s).1.length = calls.length := by
  induction calls generalizing s with
  | nil => rw [Registry.runAll_nil]
  | cons v rest ih => rw [Registry.runAll_cons, List.length_cons, List.length_cons, ih]

theorem Registry.state_runAll (r : Registry σ) (calls : List Value) (s : σ) :
    (r.runAll calls s).2 = r.stateAfter s calls := by
  induction calls generalizing s with
  | nil => rw [Registry.runAll_nil, Registry.stateAfter, List.foldl_nil]
  | cons v rest ih =>
    rw [Registry.runAll_cons]
    exact ih (r.runOne s v).2

/-- The entry of a call is what it comes to in the state behind the calls before it. -/
theorem Registry.getElem?_runAll (r : Registry σ) (calls : List Value) (s : σ) (i : Nat) :
    (r.runAll calls s).1[i]? = calls[i]?.map fun v => (r.runOne (r.stateAfter s (calls.take i)) v).1 := by
  induction calls generalizing s i with
  | nil => simp [Registry.runAll_nil]
  | cons v rest ih =>
    rw [Registry.runAll_cons]
    cases i with
    | zero => rfl
    | succ i =>
      rw [List.getElem?_cons_succ, List.getElem?_cons_succ, List.take_succ_cons]
      exact ih (r.runOne s v).2 i

theorem Registry.stateAfter_take_succ (r : Registry σ) {calls : List Value} {i : Nat} {v : Value}
    (call : calls[i]? = some v) (s : σ) :
    r.stateAfter s (calls.take (i + 1)) = (r.runOne (r.stateAfter s (calls.take i)) v).2 := by
  rw [Registry.stateAfter, List.take_add_one, call, List.foldl_append]
  rfl

/-- Step: one call of several is the call that is described, made on the spot. -/
theorem Registry.enters_runOne (r : Registry σ) (s : σ) (v : Value) :
    r.Enters s v (r.runOne s v).1 (r.runOne s v).2 := by
  cases read : Call.ofValue v with
  | error f =>
    simp only [Registry.runOne, read]
    by_cases names : v.NamesMulticall
    · rw [Call.ofValue_of_namesMulticall names] at read
      cases read
      exact .recursive names (Fault.reports_toValue _)
    · have invalid := (Call.ofValue_eq_error read).resolve_left names
      subst invalid
      refine .malformed names (fun method params describes => ?_) (Fault.reports_toValue _)
      have single : method ≠ Registry.multicallName := by
        rintro rfl
        cases describes with
        | given named => exact names ⟨_, rfl, named⟩
        | bare named => exact names ⟨_, rfl, named⟩
      rw [Call.ofValue_of_describes describes single] at read
      cases read
  | ok call =>
    obtain ⟨describes, single⟩ := Call.describes_of_ofValue read
    cases outcome : r.run call.method call.params s with
    | mk result after =>
      have invoked : r.invoke call.method call.params .nil s = (⟨result, .nil⟩, after) := by
        rw [Registry.invoke, outcome]
      have state : (r.invoke call.method call.params .nil s).2 = after := by rw [invoked]
      cases result with
      | ok result =>
        simp only [Registry.runOne, read, outcome]
        exact state ▸ .result describes single (by rw [invoked])
      | error f =>
        simp only [Registry.runOne, read, outcome]
        exact state ▸ .fault describes single (by rw [invoked]) f.reports_toValue

theorem Registry.invoke_multicall {r : Registry σ} {m : Method σ}
    (found : r.method? Registry.multicallName = some m) (builtIn : m.callable = .multicall)
    (calls more : List Value) (id : Value) (s : σ) :
    r.invoke Registry.multicallName (.array calls :: more) id s =
      (⟨.ok (.array (r.runAll calls s).1), id⟩, (r.runAll calls s).2) := by
  unfold Registry.invoke Registry.run
  simp only [found, builtIn]

/-- Several calls at once are the calls one after the other: there is an entry for each of them, and it is
what the call comes to in the state that the calls before it have left. -/
theorem Registry.multicall_sequential {r : Registry σ} {m : Method σ}
    (found : r.method? Registry.multicallName = some m) (builtIn : m.callable = .multicall)
    (calls more : List Value) (id : Value) (s : σ) :
    ∃ (entries : List Value) (states : Nat → σ),
      r.invoke Registry.multicallName (.array calls :: more) id s =
        (⟨.ok (.array entries), id⟩, states calls.length) ∧
      entries.length = calls.length ∧ states 0 = s ∧
      ∀ i v entry, calls[i]? = some v → entries[i]? = some entry →
        r.Enters (states i) v entry (states (i + 1)) := by
  refine ⟨(r.runAll calls s).1, fun i => r.stateAfter s (calls.take i), ?_, r.length_runAll calls s, rfl, ?_⟩
  · simp only [Registry.invoke_multicall found builtIn, Registry.state_runAll, List.take_length]
  · intro i v entry call atEntry
    rw [Registry.getElem?_runAll, call, Option.map_some] at atEntry
    cases atEntry
    simp only [Registry.stateAfter_take_succ r call]
    exact r.enters_runOne _ v

/-- A registry with the method for several calls and one that counts how often it is run. -/
def Registry.counting : Registry Nat :=
  { Registry.new Nat with methods := Registry.ticking.methods ++ (Registry.new Nat).methods }

/-- Two calls with one of several and one that is none between them. -/
def Registry.mixedCalls : List Value :=
  [.struct [("methodName", .string "tick")], .struct [("methodName", .string Registry.multicallName)], .nil,
    .struct [("methodName", .string "tick"), ("params", .array [.nil])]]

theorem Registry.multicall_sequential_mixed :
    ∃ (entries : List Value) (states : Nat → Nat),
      Registry.counting.invoke Registry.multicallName [.array Registry.mixedCalls, .nil] (.int32 1) 4 =
        (⟨.ok (.array entries), .int32 1⟩, states 4) ∧ states 4 = 6 ∧
      entries.length = 4 ∧ states 0 = 4 ∧
      ∀ i v entry, Registry.mixedCalls[i]? = some v → entries[i]? = some entry →
        Registry.counting.Enters (states i) v entry (states (i + 1)) := by
  have found : Registry.counting.method? Registry.multicallName =
    some { callable := .multicall, help := "Call multiple methods at once", signatures := [[.array, .array]] } := rfl
  obtain ⟨entries, states, invoked, length, first, each⟩ :=
    Registry.multicall_sequential found rfl Registry.mixedCalls [.nil] (.int32 1) 4
  have last :
      (Registry.counting.invoke Registry.multicallName [.array Registry.mixedCalls, .nil] (.int32 1) 4).2 = 6 := by
    decide +kernel
  exact ⟨entries, states, invoked, by rwa [invoked] at last, length, first, each⟩

end RemoteCall
