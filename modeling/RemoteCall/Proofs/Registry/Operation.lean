import RemoteCall.Proofs.Members
import RemoteCall.Registry.System

namespace RemoteCall

variable {σ : Type}

/-- What can be done to a registry from outside. Only native methods are added so, but any method may be put in the
place of one that is there, also one of the registry itself that has been taken from another place. An installation is
undone, and its table changed, through the handle that it has left; here any handle will do, also one that no
installation left. -/
inductive Registry.Operation (σ : Type) where
  | add (name : String) (run : List Value → σ → Outcome × σ)
  | assign (name : String) (m : Method σ)
  | describe (name : String) (help : Option String) (hidden : Option Bool) (signatures : List (List Kind))
  | remove (name : String)
  | install (introspection : Bool)
  | uninstall (i : Installation)
  | addCapability (i : Installation) (name : String) (c : Capability)
  | removeCapability (i : Installation) (name : String)

/-- The registry behind an operation, and what is answered to it: the handle of an installation or nothing, or why
the operation failed. -/
def Registry.perform (r : Registry σ) :
    Registry.Operation σ → Registry σ × Except RegistrationError (Option Installation)
  | .add name run =>
    match r.add name { callable := .native run } with
    | .ok next => (next, .ok none)
    | .error problem => (r, .error problem)
  | .assign name m => (r.assign name m, .ok none)
  | .describe name help hidden signatures => (r.describe name help hidden signatures, .ok none)
  | .remove name => (r.remove name, .ok none)
  | .install introspection => ((r.install introspection).1, (r.install introspection).2.map some)
  | .uninstall i => (r.uninstall i, .ok none)
  | .addCapability i name c =>
    match r.addCapability i.table name c with
    | .ok next => (next, .ok none)
    | .error problem => (r, .error problem)
  | .removeCapability i name => (r.removeCapability i.table name, .ok none)

/-- One operation after the other, whether they succeed or not. -/
def Registry.performAll (r : Registry σ) : List (Registry.Operation σ) → Registry σ
  | [] => r
  | op :: rest => (r.perform op).1.performAll rest

/-- The operations that register methods. -/
def Registry.Operation.Registers : Registry.Operation σ → Prop
  | .add _ _ | .install _ => True
  | _ => False

/-- The names that an operation asks for, in the order in which it asks for them. -/
def Registry.Operation.names : Registry.Operation σ → List String
  | .add name _ => [name]
  | .install true => ["system.getCapabilities", "system.listMethods", "system.methodSignature", "system.methodHelp"]
  | .install false => ["system.getCapabilities"]
  | _ => []

/-- The methods that belong to these names. A new installation has the table behind all others. -/
def Registry.Operation.methods (tables : Nat) : Registry.Operation σ → List (String × Method σ)
  | .add name run => [(name, { callable := .native run })]
  | .install introspection => Installation.methods ⟨tables, introspection⟩
  | _ => []

/-- The names that an operation sets free. -/
def Registry.Operation.removals : Registry.Operation σ → List String
  | .remove name => [name]
  | .uninstall i => Members.names (i.methods : List (String × Method σ))
  | _ => []

/-- The methods that an operation puts in the place of others. -/
def Registry.Operation.replacements : Registry.Operation σ → List (String × Method σ)
  | .assign name m => [(name, m)]
  | _ => []

/-- The names under which there is another method then. -/
def Registry.Operation.replaced (op : Registry.Operation σ) : List String :=
  Members.names op.replacements

/-- The methods that an operation adds: those in front of the first whose name is taken. -/
def Registry.gained (r : Registry σ) (op : Registry.Operation σ) : List (String × Method σ) :=
  (op.methods r.tables.length).takeWhile fun entry => !r.has entry.1

theorem Registry.Operation.names_methods (tables : Nat) (op : Registry.Operation σ) :
    Members.names (op.methods tables) = op.names := by
  cases op with
  | install introspection => cases introspection <;> rfl
  | _ => rfl

theorem Registry.Operation.distinct_names (op : Registry.Operation σ) : op.names.Nodup := by
  cases op with
  | add name run => exact List.pairwise_singleton _ name
  | install introspection => cases introspection <;> simp [Registry.Operation.names]
  | _ => exact List.nodup_nil

theorem Registry.method?_insert (r : Registry σ) (name other : String) (m : Method σ) :
    ({ r with methods := Members.insert name m r.methods } : Registry σ).method? other =
      if name = other then some m else r.method? other :=
  Members.find?_insert name other m r.methods

theorem Registry.has_iff {r : Registry σ} {name : String} : r.has name = true ↔ ∃ m, r.method? name = some m :=
  Option.isSome_iff_exists

theorem Registry.has_eq_false_iff {r : Registry σ} {name : String} : r.has name = false ↔ r.method? name = none := by
  rw [Registry.has, Option.isSome_eq_false_iff, Option.isNone_iff_eq_none]

theorem Registry.tables_add {r next : Registry σ} {name : String} {m : Method σ} (added : r.add name m = .ok next) :
    next.tables = r.tables := by
  unfold Registry.add at added
  split at added
  · cases added
  · cases added
    rfl

theorem Registry.tables_addAll (r : Registry σ) (methods : List (String × Method σ)) :
    (r.addAll methods).1.tables = r.tables := by
  induction methods generalizing r with
  | nil => rfl
  | cons entry rest ih =>
    rw [Registry.addAll]
    split
    · rename_i next added
      rw [ih, Registry.tables_add added]
    · rfl

/-- Methods are added up to the first whose name is taken, which is the one that is reported, and no entry is
replaced. -/
theorem Registry.addAll_spec {methods : List (String × Method σ)} (distinct : (Members.names methods).Nodup)
    {taken : String → Bool} {r : Registry σ} (agree : ∀ name ∈ Members.names methods, r.has name = taken name) :
    (r.addAll methods).2 = ((Members.names methods).find? taken).map .methodTaken ∧
      ∀ name, (r.addAll methods).1.method? name =
        (r.method? name).or (Members.find? name (methods.takeWhile fun entry => !taken entry.1)) := by
  induction methods generalizing r with
  | nil => exact ⟨rfl, fun name => (Option.or_none).symm⟩
  | cons entry rest ih =>
    obtain ⟨first, m⟩ := entry
    obtain ⟨fresh, others⟩ := List.nodup_cons.mp distinct
    obtain ⟨here, later⟩ := List.forall_mem_cons.mp agree
    simp only [Members.names, List.map_cons] at fresh here later ⊢
    cases clash : taken first with
    | true =>
      rw [clash] at here
      have stopped : r.addAll ((first, m) :: rest) = (r, some (.methodTaken first)) := by
        simp only [Registry.addAll, Registry.add, here, if_true]
      rw [stopped, List.find?_cons_of_pos clash, List.takeWhile_cons_of_neg (by simp [clash])]
      exact ⟨rfl, fun name => (Option.or_none).symm⟩
    | false =>
      rw [clash] at here
      have went : r.addAll ((first, m) :: rest) =
          Registry.addAll { r with methods := Members.insert first m r.methods } rest := by
        simp only [Registry.addAll, Registry.add, here, Bool.false_eq_true, if_false]
      have agree' : ∀ name ∈ Members.names rest,
          ({ r with methods := Members.insert first m r.methods } : Registry σ).has name = taken name := by
        intro name member
        have differ : first ≠ name := fun same => fresh (same ▸ member)
        rw [← later name member, Registry.has, Registry.method?_insert, if_neg differ, Registry.has]
      obtain ⟨problem, found⟩ := ih others agree'
      rw [went, List.find?_cons_of_neg (by simp [clash]), List.takeWhile_cons_of_pos (by simp [clash])]
      refine ⟨problem, fun name => ?_⟩
      rw [found, Registry.method?_insert, Members.find?]
      by_cases same : first = name
      · subst same
        rw [if_pos rfl, if_pos rfl, Registry.has_eq_false_iff.mp here]
        rfl
      · rw [if_neg same, if_neg same]

theorem Registry.answered_iff {α : Type} {answer : α} {problem : RegistrationError} :
    Except.ok answer = Except.error problem ↔ none = some problem := by
  constructor
  · intro same
    cases same
  · intro same
    cases same

/-- A new table has a place for the capability for introspection. -/
theorem Registry.addCapability_introspect {r : Registry σ} {table : Nat}
    (fresh : r.tables[table]? = some Capability.initial) :
    r.addCapability table "introspect" Capability.introspect =
      .ok { r with
        tables := r.tables.set table (Members.insert "introspect" Capability.introspect Capability.initial) } := by
  have free : (Members.find? "introspect" Capability.initial).isSome = false := by decide
  simp only [Registry.addCapability, fresh, free, Bool.false_eq_true, if_false]

/-- An installation adds its methods up to the first whose name is taken, and fails for nothing else. -/
theorem Registry.install_spec (r : Registry σ) (introspection : Bool) :
    (∀ problem, (r.install introspection).2 = .error problem ↔
      ((Registry.Operation.install introspection : Registry.Operation σ).names.find? r.has).map .methodTaken =
        some problem) ∧
      ∀ name, (r.install introspection).1.method? name =
        (r.method? name).or (Members.find? name (r.gained (.install introspection))) := by
  have names := Registry.Operation.names_methods r.tables.length (.install introspection : Registry.Operation σ)
  have distinct := Registry.Operation.distinct_names (.install introspection : Registry.Operation σ)
  rw [← names] at distinct ⊢
  -- the table of the installation is opened first, which no look-up of a method notices
  have agree : ∀ name ∈ Members.names
      (Installation.methods ⟨r.tables.length, introspection⟩ : List (String × Method σ)),
      ({ r with tables := r.tables ++ [Capability.initial] } : Registry σ).has name = r.has name := fun _ _ => rfl
  obtain ⟨answer, found⟩ := Registry.addAll_spec distinct agree
  have tables := Registry.tables_addAll { r with tables := r.tables ++ [Capability.initial] }
    (Installation.methods ⟨r.tables.length, introspection⟩)
  unfold Registry.install
  simp only [Registry.Operation.methods] at answer tables found ⊢
  rw [← answer]
  cases outcome : Registry.addAll { r with tables := r.tables ++ [Capability.initial] }
      (Installation.methods ⟨r.tables.length, introspection⟩) with
  | mk added problem =>
    rw [outcome] at tables found
    cases problem with
    | some taken =>
      exact ⟨fun problem => ⟨fun same => congrArg some (Except.error.inj same),
        fun same => congrArg Except.error (Option.some.inj same)⟩, found⟩
    | none =>
      cases introspection with
      | false => exact ⟨fun problem => Registry.answered_iff, found⟩
      | true =>
        have fresh : added.tables[r.tables.length]? = some Capability.initial := by
          rw [tables]
          exact List.getElem?_concat_length
        simp only [if_true, Registry.addCapability_introspect fresh]
        exact ⟨fun problem => Registry.answered_iff, found⟩

/-- What registers methods fails exactly if one of its names is taken, reports the first such name, adds the methods in
front of it and changes no other entry. -/
theorem Registry.perform_registers {op : Registry.Operation σ} (registers : op.Registers) (r : Registry σ) :
    (∀ problem, (r.perform op).2 = .error problem ↔ (op.names.find? r.has).map .methodTaken = some problem) ∧
      ∀ name, (r.perform op).1.method? name = (r.method? name).or (Members.find? name (r.gained op)) := by
  cases op with
  | add name run =>
    cases taken : r.has name with
    | true =>
      have refused : r.perform (.add name run) = (r, .error (.methodTaken name)) := by
        simp only [Registry.perform, Registry.add, taken, if_true]
      have none : r.gained (.add name run) = [] := List.takeWhile_cons_of_neg (by simp [taken])
      rw [refused, none, Registry.Operation.names, List.find?_cons_of_pos taken]
      exact ⟨fun problem => ⟨fun same => congrArg some (Except.error.inj same),
        fun same => congrArg Except.error (Option.some.inj same)⟩, fun other => (Option.or_none).symm⟩
    | false =>
      have done : r.perform (.add name run) =
          ({ r with methods := Members.insert name { callable := .native run } r.methods }, .ok .none) := by
        simp only [Registry.perform, Registry.add, taken, Bool.false_eq_true, if_false]
      have all : r.gained (.add name run) = [(name, { callable := .native run })] :=
        List.takeWhile_cons_of_pos (by simp [taken])
      rw [done, all, Registry.Operation.names, List.find?_cons_of_neg (by simp [taken])]
      refine ⟨fun problem => Registry.answered_iff, fun other => ?_⟩
      rw [Registry.method?_insert, Members.find?]
      by_cases same : name = other
      · subst same
        rw [if_pos rfl, if_pos rfl, Registry.has_eq_false_iff.mp taken]
        rfl
      · rw [if_neg same, if_neg same]
        exact (Option.or_none).symm
  | install introspection =>
    obtain ⟨answer, found⟩ := r.install_spec introspection
    refine ⟨fun problem => ?_, found⟩
    rw [← answer, Registry.perform]
    cases (r.install introspection).2 with
    | error other =>
      exact ⟨fun same => congrArg Except.error (Except.error.inj same),
        fun same => congrArg Except.error (Except.error.inj same)⟩
    | ok i =>
      constructor
      · intro same
        cases same
      · intro same
        cases same
  | assign | describe | remove | uninstall | addCapability | removeCapability => exact registers.elim

theorem Registry.ordered_addAll {r : Registry σ} (ordered : Members.Ordered r.methods)
    (methods : List (String × Method σ)) : Members.Ordered (r.addAll methods).1.methods := by
  induction methods generalizing r with
  | nil => exact ordered
  | cons entry rest ih =>
    rw [Registry.addAll]
    split
    · rename_i next added
      unfold Registry.add at added
      split at added
      · cases added
      · cases added
        exact ih (ordered.insert _ _)
    · exact ordered

theorem Registry.methods_addCapability {r next : Registry σ} {table : Nat} {name : String} {c : Capability}
    (added : r.addCapability table name c = .ok next) : next.methods = r.methods := by
  unfold Registry.addCapability at added
  split at added
  · cases added
    rfl
  · split at added
    · cases added
    · cases added
      rfl

theorem Registry.methods_removeCapability (r : Registry σ) (table : Nat) (name : String) :
    (r.removeCapability table name).methods = r.methods := by
  unfold Registry.removeCapability
  split <;> rfl

theorem Registry.ordered_install {r : Registry σ} (ordered : Members.Ordered r.methods) (introspection : Bool) :
    Members.Ordered (r.install introspection).1.methods := by
  have kept := Registry.ordered_addAll (r := { r with tables := r.tables ++ [Capability.initial] }) ordered
    (Installation.methods ⟨r.tables.length, introspection⟩)
  unfold Registry.install
  simp only
  split
  · rename_i added problem outcome
    rwa [outcome] at kept
  · rename_i added outcome
    rw [outcome] at kept
    split
    · split
      · rename_i complete done
        rwa [Registry.methods_addCapability done]
      · exact kept
    · exact kept

theorem ite_mem_cons {α : Type} (first name : String) (rest : List String) (a b : α) :
    (if name ∈ first :: rest then a else b) = if name ∈ rest then a else if first = name then a else b := by
  by_cases later : name ∈ rest
  · rw [if_pos later, if_pos (List.mem_cons_of_mem _ later)]
  · rw [if_neg later]
    by_cases here : first = name
    · rw [if_pos here, if_pos (here ▸ List.mem_cons_self ..)]
    · have absent : name ∉ first :: rest := fun member =>
        (List.mem_cons.mp member).elim (fun same => here same.symm) later
      rw [if_neg here, if_neg absent]

/-- Names that are removed are free, and all others are as before. -/
theorem Registry.removeAll_spec {r : Registry σ} (ordered : Members.Ordered r.methods) (names : List String) :
    Members.Ordered (names.foldl Registry.remove r).methods ∧
      ∀ name, (names.foldl Registry.remove r).method? name = if name ∈ names then none else r.method? name := by
  induction names generalizing r with
  | nil => exact ⟨ordered, fun name => (if_neg List.not_mem_nil).symm⟩
  | cons first rest ih =>
    have next : Members.Ordered (r.remove first).methods := ordered.erase first
    obtain ⟨kept, found⟩ := ih next
    refine ⟨kept, fun name => ?_⟩
    have single : (r.remove first).method? name = if first = name then none else r.method? name :=
      Members.find?_erase ordered first name
    rw [List.foldl_cons, found, single, ite_mem_cons]

theorem Registry.methods_perform_addCapability (r : Registry σ) (i : Installation) (name : String) (c : Capability) :
    (r.perform (.addCapability i name c)).1.methods = r.methods := by
  rw [Registry.perform]
  split
  · rename_i next added
    exact Registry.methods_addCapability added
  · rfl

/-- Step: the methods stay in the order of their names. -/
theorem Registry.ordered_perform {r : Registry σ} (ordered : Members.Ordered r.methods)
    (op : Registry.Operation σ) : Members.Ordered (r.perform op).1.methods := by
  cases op with
  | add name run =>
    rw [Registry.perform, Registry.add]
    by_cases taken : r.has name = true
    · rw [if_pos taken]
      exact ordered
    · rw [if_neg taken]
      exact ordered.insert _ _
  | assign name m =>
    rw [Registry.perform, Registry.assign]
    split
    · exact ordered.insert _ _
    · exact ordered
  | describe name help hidden signatures =>
    rw [Registry.perform, Registry.describe]
    split
    · exact ordered
    · exact ordered.insert _ _
  | remove name => exact ordered.erase name
  | install introspection => exact Registry.ordered_install ordered introspection
  | uninstall i => exact (Registry.removeAll_spec ordered _).1
  | addCapability i name c => rwa [Registry.methods_perform_addCapability]
  | removeCapability i name =>
    rw [Registry.perform]
    exact (r.methods_removeCapability i.table name).symm ▸ ordered

/-- What an operation makes of a method under a name that it leaves there. -/
def Registry.Operation.revise (op : Registry.Operation σ) (name : String) (m : Method σ) : Method σ :=
  match op with
  | .assign other new => if other = name then new else m
  | .describe other help hidden signatures =>
    if other = name then
      { m with
        help := help.getD m.help
        hidden := hidden.getD m.hidden
        signatures := m.signatures ++ signatures }
    else m
  | _ => m

/-- A method of this name behind operations that leave it there. -/
def Method.after (m : Method σ) (name : String) (ops : List (Registry.Operation σ)) : Method σ :=
  ops.foldl (fun m op => op.revise name m) m

/-- The callable stays, unless another method comes in the place of this one. -/
theorem Registry.Operation.callable_revise {op : Registry.Operation σ} {name : String} (kept : name ∉ op.replaced)
    (m : Method σ) : (op.revise name m).callable = m.callable := by
  cases op with
  | assign other new =>
    have differ : other ≠ name := fun same => kept (List.mem_singleton.mpr same.symm)
    rw [Registry.Operation.revise, if_neg differ]
  | describe other help hidden signatures =>
    rw [Registry.Operation.revise]
    split <;> rfl
  | add | remove | install | uninstall | addCapability | removeCapability => rfl

theorem Method.callable_after {name : String} {ops : List (Registry.Operation σ)}
    (kept : ∀ op ∈ ops, name ∉ op.replaced) (m : Method σ) : (m.after name ops).callable = m.callable := by
  induction ops generalizing m with
  | nil => rfl
  | cons op rest ih =>
    obtain ⟨here, later⟩ := List.forall_mem_cons.mp kept
    exact (ih later (op.revise name m)).trans (Registry.Operation.callable_revise here m)

theorem Registry.Operation.map_revise {op : Registry.Operation σ} {name : String}
    (untold : ∀ m : Method σ, op.revise name m = m) (x : Option (Method σ)) : x.map (op.revise name) = x := by
  cases x with
  | none => rfl
  | some m => exact congrArg some (untold m)

/-- An operation that finds a method under a name and puts what it makes of it in its place. -/
theorem Registry.method?_revised {r next : Registry σ} {op : Registry.Operation σ} (name : String)
    (missing : r.method? name = none → next = r)
    (found : ∀ m, r.method? name = some m →
      next = { r with methods := Members.insert name (op.revise name m) r.methods })
    (elsewhere : ∀ other, name ≠ other → ∀ m, op.revise other m = m) (other : String) :
    next.method? other = (r.method? other).map (op.revise other) := by
  by_cases same : name = other
  · subst same
    cases there : r.method? name with
    | none => rw [missing there, there, Option.map_none]
    | some m => rw [found m there, Registry.method?_insert, if_pos rfl, Option.map_some]
  · rw [Registry.Operation.map_revise (elsewhere other same)]
    cases there : r.method? name with
    | none => rw [missing there]
    | some m => rw [found m there, Registry.method?_insert, if_neg same]

theorem Registry.method?_assign (r : Registry σ) (name other : String) (m : Method σ) :
    (r.assign name m).method? other =
      (r.method? other).map ((Registry.Operation.assign name m).revise other) := by
  refine Registry.method?_revised name (fun missing => ?_) (fun old found => ?_) (fun other differ old => ?_) other
  · rw [Registry.assign, Registry.has_eq_false_iff.mpr missing, if_neg Bool.false_ne_true]
  · rw [Registry.assign, Registry.has_iff.mpr ⟨old, found⟩, if_pos rfl, Registry.Operation.revise, if_pos rfl]
  · exact if_neg differ

theorem Registry.method?_describe (r : Registry σ) (name other : String) (help : Option String) (hidden : Option Bool)
    (signatures : List (List Kind)) :
    (r.describe name help hidden signatures).method? other =
      (r.method? other).map ((Registry.Operation.describe name help hidden signatures).revise other) := by
  refine Registry.method?_revised name (fun missing => ?_) (fun m found => ?_) (fun other differ m => ?_) other
  · simp only [Registry.describe, missing]
  · simp only [Registry.describe, found, Registry.Operation.revise, if_true]
  · exact if_neg differ

/-- Step: the method under a name behind an operation is what the operation makes of the one that was there before,
unless the name has been set free or the operation has added it. -/
theorem Registry.method?_perform {r : Registry σ} (ordered : Members.Ordered r.methods) (op : Registry.Operation σ)
    (name : String) :
    (r.perform op).1.method? name =
      ((if name ∈ op.removals then none else r.method? name).map (op.revise name)).or
        (Members.find? name (r.gained op)) := by
  have kept (frees : op.removals = []) : (if name ∈ op.removals then none else r.method? name) = r.method? name := by
    rw [frees, if_neg List.not_mem_nil]
  have quiet (adds : op.methods r.tables.length = []) (x : Option (Method σ)) :
      x.or (Members.find? name (r.gained op)) = x := by
    rw [Registry.gained, adds]
    exact Option.or_none
  cases op with
  | add other run =>
    have registers : (Registry.Operation.add other run).Registers := trivial
    rw [(Registry.perform_registers registers r).2 name, kept rfl, Registry.Operation.map_revise fun _ => rfl]
  | install introspection =>
    have registers : (Registry.Operation.install introspection : Registry.Operation σ).Registers := trivial
    rw [(Registry.perform_registers registers r).2 name, kept rfl, Registry.Operation.map_revise fun _ => rfl]
  | assign other m =>
    rw [kept rfl, quiet rfl]
    exact r.method?_assign other name m
  | describe other help hidden signatures =>
    rw [kept rfl, quiet rfl]
    exact r.method?_describe other name help hidden signatures
  | remove other =>
    rw [quiet rfl, Registry.Operation.map_revise fun _ => rfl]
    exact (Registry.removeAll_spec ordered [other]).2 name
  | uninstall i =>
    rw [quiet rfl, Registry.Operation.map_revise fun _ => rfl]
    exact (Registry.removeAll_spec ordered (Members.names (i.methods : List (String × Method σ)))).2 name
  | addCapability i other c =>
    rw [kept rfl, quiet rfl, Registry.Operation.map_revise fun _ => rfl, Registry.method?,
      Registry.methods_perform_addCapability, Registry.method?]
  | removeCapability i other =>
    rw [kept rfl, quiet rfl, Registry.Operation.map_revise fun _ => rfl, Registry.method?]
    exact congrArg (Members.find? name) (r.methods_removeCapability i.table other)

/-- Run: whatever is done to a registry, its methods stay in the order of their names. -/
theorem Registry.ordered_performAll {r : Registry σ} (ordered : Members.Ordered r.methods)
    (ops : List (Registry.Operation σ)) : Members.Ordered (r.performAll ops).methods := by
  induction ops generalizing r with
  | nil => exact ordered
  | cons op rest ih => exact ih (Registry.ordered_perform ordered op)

theorem Registry.ordered_new : Members.Ordered (Registry.new σ).methods :=
  List.pairwise_singleton _ _

end RemoteCall
