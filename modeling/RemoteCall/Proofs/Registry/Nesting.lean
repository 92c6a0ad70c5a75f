import RemoteCall.Proofs.Registry.History
import RemoteCall.Proofs.Registry.Introspection

namespace RemoteCall

variable {σ : Type}

/-- What comes of a run, with how often the method for several calls at once has been entered on the way. -/
structure Counted (σ α : Type) where
  result : α
  state : σ
  entered : Nat

/-- Calls one after the other, each of them made by `single`, which may give up. -/
def Registry.batchWithin (single : String → List Value → σ → Option (Counted σ (Except Fault Value))) :
    List Value → σ → Option (Counted σ (List Value))
  | [], s => some ⟨[], s, 0⟩
  | v :: rest, s =>
    match Call.ofValue v with
    | .error f =>
      (Registry.batchWithin single rest s).map fun later => { later with result := f.toValue :: later.result }
    | .ok call =>
      (single call.method call.params s).bind fun here =>
        (Registry.batchWithin single rest here.state).map fun later =>
          { later with result := Call.entry here.result :: later.result, entered := here.entered + later.entered }

/-- The method for several calls at once, which counts as entered. -/
def Registry.multicallWithin (single : String → List Value → σ → Option (Counted σ (Except Fault Value))) :
    List Value → σ → Option (Counted σ (Except Fault Value))
  | .array calls :: _, s =>
    (Registry.batchWithin single calls s).map fun all => ⟨.ok (.array all.result), all.state, all.entered + 1⟩
  | _, s => some ⟨.error .invalidParameters, s, 1⟩

/-- Runs the method of this name, but gives up where more than `depth` invocations are inside of each other. -/
def Registry.runWithin (r : Registry σ) : Nat → String → List Value → σ → Option (Counted σ (Except Fault Value))
  | 0, _, _, _ => none
  | depth + 1, name, params, s =>
    match r.method? name with
    | none => some ⟨.error (.methodNotFound name), s, 0⟩
    | some m =>
      match m.callable with
      | .multicall => Registry.multicallWithin (r.runWithin depth) params s
      | c => some ⟨(c.run r params s).1, (c.run r params s).2, 0⟩

/-- The method for several calls at once stands under no name but its own. -/
def Registry.OneMulticall (r : Registry σ) : Prop :=
  ∀ name m, r.method? name = some m → m.callable = .multicall → name = Registry.multicallName

/-- A name that does not stand for the method is run without any invocation but its own. -/
theorem Registry.runWithin_single {r : Registry σ} {name : String}
    (single : ∀ m, r.method? name = some m → m.callable ≠ .multicall) (depth : Nat) (params : List Value) (s : σ) :
    ∃ c, r.runWithin (depth + 1) name params s = some c ∧ c.entered = 0 := by
  rw [Registry.runWithin]
  cases found : r.method? name with
  | none => exact ⟨_, rfl, rfl⟩
  | some m =>
    have other := single m found
    cases kind : m.callable with
    | multicall => exact (other kind).elim
    | native | capabilities | listMethods | methodSignature | methodHelp =>
      simp only [kind]
      exact ⟨_, rfl, rfl⟩

/-- Several calls are not given up if none of them is, and enter the method as often as they do together. -/
theorem Registry.batchWithin_each {single : String → List Value → σ → Option (Counted σ (Except Fault Value))}
    (often : Nat → Prop) (never : often 0) (together : ∀ a b, often a → often b → often (a + b)) {calls : List Value}
    (runs : ∀ v ∈ calls, ∀ call, Call.ofValue v = .ok call →
      ∀ s, ∃ c, single call.method call.params s = some c ∧ often c.entered) (s : σ) :
    ∃ all, Registry.batchWithin single calls s = some all ∧ often all.entered := by
  induction calls generalizing s with
  | nil => exact ⟨_, rfl, never⟩
  | cons v rest ih =>
    obtain ⟨runsFirst, runsRest⟩ := List.forall_mem_cons.mp runs
    rw [Registry.batchWithin]
    cases read : Call.ofValue v with
    | error f =>
      obtain ⟨later, ranRest, oftenLater⟩ := ih runsRest s
      simp only [ranRest, Option.map_some]
      exact ⟨_, rfl, oftenLater⟩
    | ok call =>
      obtain ⟨here, ranHere, oftenHere⟩ := runsFirst call read s
      obtain ⟨later, ranRest, oftenLater⟩ := ih runsRest here.state
      simp only [ranHere, Option.bind_some, ranRest, Option.map_some]
      exact ⟨_, rfl, together _ _ oftenHere oftenLater⟩

/-- If the method stands under its own name alone, two invocations inside of each other are enough for every call. -/
theorem Registry.OneMulticall.runWithin {r : Registry σ} (one : r.OneMulticall) (name : String) (params : List Value)
    (s : σ) : ∃ c, r.runWithin 2 name params s = some c ∧ c.entered ≤ 1 := by
  have others (name : String) (params : List Value) (differ : name ≠ Registry.multicallName) (s : σ) :
      ∃ c, r.runWithin 1 name params s = some c ∧ c.entered = 0 :=
    Registry.runWithin_single (fun m found several => differ (one name m found several)) 0 params s
  by_cases builtIn : ∃ m, r.method? name = some m ∧ m.callable = .multicall
  · obtain ⟨m, found, several⟩ := builtIn
    rw [Registry.runWithin, found]
    simp only [several]
    unfold Registry.multicallWithin
    split
    · rename_i calls _
      -- none of several calls may name the method
      obtain ⟨all, ran, none⟩ := Registry.batchWithin_each (· = 0) rfl (fun a b none none' => by omega)
        (fun v _ call read => others call.method call.params (Call.describes_of_ofValue read).2) s
      rw [ran, Option.map_some]
      exact ⟨_, rfl, by rw [none]⟩
    · exact ⟨_, rfl, Nat.le_refl 1⟩
  · obtain ⟨c, ran, none⟩ := Registry.runWithin_single
      (fun m found several => builtIn ⟨m, found, several⟩) 1 params s
    exact ⟨c, ran, by omega⟩

/-- The methods of the registry itself but the one for several calls. -/
def Callable.Tells : Callable σ → Prop
  | .capabilities _ | .listMethods | .methodSignature | .methodHelp => True
  | .native _ | .multicall => False

/-- A registry where the help is asked for under another name too. -/
def Registry.Operation.redirected : List (Registry.Operation Nat) :=
  [.install true, .add "help" fun _ count => (.value .nil, count + 1), .assign "help" { callable := .methodHelp }]

/-- Where the method has been put in the place of another, the calls of a call may enter it again. -/
example : (((Registry.new Nat).performAll
    [.add "again" fun _ count => (.value .nil, count), .assign "again" { callable := .multicall }]).runWithin 2 "again"
      [.array [.struct [("methodName", .string "again"), ("params", .array [.array
        [.struct [("methodName", .string "again")]]])]]] 0).isNone = true := by
  decide +kernel

end RemoteCall
