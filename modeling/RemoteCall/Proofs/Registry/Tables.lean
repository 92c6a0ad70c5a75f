import RemoteCall.Proofs.Registry.Registration

namespace RemoteCall

variable {σ : Type}

/-- The table of an installation that has succeeded. -/
def Installation.initial (i : Installation) : List (String × Capability) :=
  if i.introspection then Members.insert "introspect" Capability.introspect Capability.initial else Capability.initial

/-- What an operation makes of a table. A capability that is there is not replaced. -/
def Registry.Operation.edit (table : Nat) (capabilities : List (String × Capability)) :
    Registry.Operation σ → List (String × Capability)
  | .addCapability i name c =>
    if i.table = table ∧ Members.find? name capabilities = none then Members.insert name c capabilities
    else capabilities
  | .removeCapability i name => if i.table = table then Members.erase name capabilities else capabilities
  | _ => capabilities

/-- What operations make of a table one after the other. -/
def Registry.Operation.edits (table : Nat) (capabilities : List (String × Capability))
    (ops : List (Registry.Operation σ)) : List (String × Capability) :=
  ops.foldl (fun capabilities op => op.edit table capabilities) capabilities

/-- The table that an operation changes. -/
def Registry.Operation.table? : Registry.Operation σ → Option Nat
  | .addCapability i _ _ | .removeCapability i _ => some i.table
  | _ => none

theorem Registry.tables_removeAll (r : Registry σ) (names : List String) :
    (names.foldl Registry.remove r).tables = r.tables := by
  induction names generalizing r with
  | nil => rfl
  | cons first rest ih => exact ih (r.remove first)

theorem Registry.tables_describe (r : Registry σ) (name : String) (help : Option String) (hidden : Option Bool)
    (signatures : List (List Kind)) : (r.describe name help hidden signatures).tables = r.tables := by
  unfold Registry.describe
  split <;> rfl

theorem Registry.tables_assign (r : Registry σ) (name : String) (m : Method σ) :
    (r.assign name m).tables = r.tables := by
  unfold Registry.assign
  split <;> rfl

/-- An installation opens one table, whether it succeeds or not. -/
theorem Registry.tables_install (r : Registry σ) (introspection : Bool) :
    ∃ table, (r.install introspection).1.tables = r.tables ++ [table] ∧
      ∀ i, (r.install introspection).2 = .ok i → table = i.initial := by
  have opened := Registry.tables_addAll { r with tables := r.tables ++ [Capability.initial] }
    (Installation.methods ⟨r.tables.length, introspection⟩)
  unfold Registry.install
  simp only
  cases outcome : Registry.addAll { r with tables := r.tables ++ [Capability.initial] }
      (Installation.methods ⟨r.tables.length, introspection⟩) with
  | mk added problem =>
    rw [outcome] at opened
    cases problem with
    | some taken => exact ⟨Capability.initial, opened, nofun⟩
    | none =>
      cases introspection with
      | false =>
        refine ⟨Capability.initial, opened, fun i installed => ?_⟩
        cases installed
        rfl
      | true =>
        have fresh : added.tables[r.tables.length]? = some Capability.initial := by
          rw [opened]
          exact List.getElem?_concat_length
        simp only [if_true, Registry.addCapability_introspect fresh]
        refine ⟨Members.insert "introspect" Capability.introspect Capability.initial, ?_, fun i installed => ?_⟩
        · rw [opened, List.set_append_right _ _ (Nat.le_refl _), Nat.sub_self, List.set_cons_zero]
        · cases installed
          rfl

/-- A name that is in the table is refused, and nothing changes. -/
theorem Registry.perform_addCapability_of_taken {r : Registry σ} {i : Installation} {name : String}
    {capabilities : List (String × Capability)} {old : Capability} (there : r.tables[i.table]? = some capabilities)
    (taken : Members.find? name capabilities = some old) (c : Capability) :
    r.perform (.addCapability i name c) = (r, .error (.capabilityTaken name)) := by
  simp only [Registry.perform, Registry.addCapability, there, taken, Option.isSome_some, if_true]

theorem Registry.perform_addCapability_of_free {r : Registry σ} {i : Installation} {name : String}
    {capabilities : List (String × Capability)} (there : r.tables[i.table]? = some capabilities)
    (free : Members.find? name capabilities = none) (c : Capability) :
    r.perform (.addCapability i name c) =
      ({ r with tables := r.tables.set i.table (Members.insert name c capabilities) }, .ok none) := by
  simp only [Registry.perform, Registry.addCapability, there, free, Option.isSome_none, Bool.false_eq_true, if_false]

theorem Registry.getElem?_tables_addCapability {r next : Registry σ} {table other : Nat} {name : String}
    {c : Capability} (added : r.addCapability table name c = .ok next) (differ : table ≠ other) :
    next.tables[other]? = r.tables[other]? := by
  unfold Registry.addCapability at added
  split at added
  · cases added
    rfl
  · split at added
    · cases added
    · cases added
      exact List.getElem?_set_ne differ

theorem Registry.getElem?_tables_removeCapability (r : Registry σ) {table other : Nat} (differ : table ≠ other)
    (name : String) : (r.removeCapability table name).tables[other]? = r.tables[other]? := by
  unfold Registry.removeCapability
  split
  · rfl
  · exact List.getElem?_set_ne differ

/-- Step: an operation edits the tables that there are, and each as if it were alone. -/
theorem Registry.tables_perform {r : Registry σ} {table : Nat} {capabilities : List (String × Capability)}
    (there : r.tables[table]? = some capabilities) (op : Registry.Operation σ) :
    (r.perform op).1.tables[table]? = some (op.edit table capabilities) := by
  cases op with
  | add name run =>
    rw [Registry.perform]
    split
    · rename_i next added
      rw [Registry.tables_add added, there]
      rfl
    · exact there
  | assign name m =>
    rw [Registry.perform, Registry.tables_assign]
    exact there
  | describe name help hidden signatures =>
    rw [Registry.perform, Registry.tables_describe]
    exact there
  | remove name => exact there
  | install introspection =>
    obtain ⟨opened, tables, -⟩ := r.tables_install introspection
    rw [Registry.perform, tables, List.getElem?_append_left (List.getElem?_eq_some_iff.mp there).1]
    exact there
  | uninstall i =>
    rw [Registry.perform, Registry.uninstall, Registry.tables_removeAll]
    exact there
  | addCapability i name c =>
    by_cases here : i.table = table
    · subst here
      cases found : Members.find? name capabilities with
      | some old =>
        have kept : ¬(i.table = i.table ∧ Members.find? name capabilities = none) := by simp [found]
        rw [Registry.perform_addCapability_of_taken there found, Registry.Operation.edit, if_neg kept]
        exact there
      | none =>
        rw [Registry.perform_addCapability_of_free there found, Registry.Operation.edit, if_pos ⟨rfl, found⟩]
        exact List.getElem?_set_self (List.getElem?_eq_some_iff.mp there).1
    · rw [Registry.Operation.edit, if_neg fun both => here both.1, Registry.perform, ← there]
      split
      · rename_i next added
        exact Registry.getElem?_tables_addCapability added here
      · rfl
  | removeCapability i name =>
    rw [Registry.perform, Registry.Operation.edit]
    by_cases here : i.table = table
    · subst here
      simp only [Registry.removeCapability, there, if_true]
      exact List.getElem?_set_self (List.getElem?_eq_some_iff.mp there).1
    · rw [if_neg here, ← there]
      exact r.getElem?_tables_removeCapability here name

/-- Run: so do operations one after the other. -/
theorem Registry.tables_performAll {r : Registry σ} {table : Nat} {capabilities : List (String × Capability)}
    (there : r.tables[table]? = some capabilities) (ops : List (Registry.Operation σ)) :
    (r.performAll ops).tables[table]? = some (Registry.Operation.edits table capabilities ops) := by
  induction ops generalizing r capabilities with
  | nil => exact there
  | cons op rest ih => exact ih (Registry.tables_perform there op)

theorem Registry.Operation.edit_of_elsewhere {op : Registry.Operation σ} {table : Nat}
    (elsewhere : op.table? ≠ some table) (capabilities : List (String × Capability)) :
    op.edit table capabilities = capabilities := by
  cases op with
  | addCapability i name c => exact if_neg fun both => elsewhere (congrArg some both.1)
  | removeCapability i name => exact if_neg fun same => elsewhere (congrArg some same)
  | add | assign | describe | remove | install | uninstall => rfl

theorem Registry.Operation.ordered_edit {table : Nat} {capabilities : List (String × Capability)}
    (ordered : Members.Ordered capabilities) (op : Registry.Operation σ) :
    Members.Ordered (op.edit table capabilities) := by
  cases op with
  | addCapability i name c =>
    rw [Registry.Operation.edit]
    split
    · exact ordered.insert name c
    · exact ordered
  | removeCapability i name =>
    rw [Registry.Operation.edit]
    split
    · exact ordered.erase name
    · exact ordered
  | add | assign | describe | remove | install | uninstall => exact ordered

theorem Registry.Operation.ordered_edits {table : Nat} {capabilities : List (String × Capability)}
    (ordered : Members.Ordered capabilities) (ops : List (Registry.Operation σ)) :
    Members.Ordered (Registry.Operation.edits table capabilities ops) := by
  induction ops generalizing capabilities with
  | nil => exact ordered
  | cons op rest ih => exact ih (Registry.Operation.ordered_edit ordered op)

theorem Installation.ordered_initial (i : Installation) : Members.Ordered i.initial := by
  have first : Members.Ordered Capability.initial := Members.ordered_ofList _
  unfold Installation.initial
  split
  · exact first.insert _ _
  · exact first

/-- Tables are never closed. -/
theorem Registry.length_tables_performAll (r : Registry σ) (ops : List (Registry.Operation σ)) :
    r.tables.length ≤ (r.performAll ops).tables.length := by
  refine le_of_forall_lt fun table there => ?_
  have still := Registry.tables_performAll (List.getElem?_eq_getElem there) ops
  exact (List.getElem?_eq_some_iff.mp still).1

/-- Two installations in one run have different tables. -/
theorem Registry.install_unique {r : Registry σ} {before before' after after' : List (Registry.Operation σ)}
    {introspection introspection' : Bool}
    (same : before ++ .install introspection :: after = before' ++ .install introspection' :: after')
    (table : (r.performAll before).tables.length = (r.performAll before').tables.length) : before = before' := by
  -- an installation in front of another one opens a table that this finds there
  have opened (early late : List (Registry.Operation σ)) (other : Bool) :
      (r.performAll early).tables.length < (r.performAll (early ++ .install other :: late)).tables.length := by
    obtain ⟨_, tables, -⟩ := (r.performAll early).tables_install other
    have later := Registry.length_tables_performAll ((r.performAll early).perform (.install other)).1 late
    rw [Registry.perform, tables, List.length_append, List.length_singleton] at later
    rw [Registry.performAll_append]
    exact later
  obtain ⟨more, rfl, rest⟩ | ⟨more, rfl, rest⟩ := List.append_eq_append_iff.mp same
  · cases more with
    | nil => exact (List.append_nil before).symm
    | cons op late =>
      cases rest
      exact absurd table (Nat.ne_of_lt (opened before late introspection))
  · cases more with
    | nil => exact List.append_nil before'
    | cons op late =>
      cases rest
      exact absurd table.symm (Nat.ne_of_lt (opened before' late introspection'))

end RemoteCall
